import QueryBinding.Engine.Member
/-!
Parts of an engine by name, and calls without arguments on what they hold. The parts are the one
handle, the factory calls so far, any service, and the members that every object has; each part is
an object with members of its own.
-/
namespace QueryBinding

namespace Engine

def handleName : String := "query"

def createdName : String := "created"

end Engine

/-- An engine as an object: it can lose its handle and its list of factory calls. -/
structure EngineObject where
  engine : Engine := {}
  /-- The names of the attributes that it still has. -/
  held : List String := [Engine.handleName, Engine.createdName]
deriving Repr

/-- A computation that calls parts of an engine and may fail. -/
abbrev EngineObjectM := ExceptT Failure (StateM EngineObject)

/-- What a member of an engine is where it stands for itself. -/
inductive MemberPart where
  | value (type : ObjectType)
  /-- All attributes of the engine. -/
  | attributes
  /-- The type of the engine. -/
  | type
  | method
  | builtIn (type : ObjectType)

def MemberPart.of (part : String) : Member → MemberPart
  | .value held =>
    if held = ObjectType.object.name then attributes
    else if held = ObjectType.text.name then value .text
    else value .nothing
  | .method .. | .collector .. => if part = "__class__" then type else method
  | .builtIn (.exactly ..) => builtIn .wrapper
  | .builtIn _ | .failing _ => builtIn .function

namespace EngineObject

/-- Lets the engine itself act. -/
def onEngine (action : EngineM α) : EngineObjectM α := ExceptT.mk do
  let o ← get
  let (result, engine) := action.run.run o.engine
  set { o with engine := engine }
  return result

/-- Fails if the engine has lost an attribute. -/
def require (name : String) : EngineObjectM Unit := do
  if !(← get).held.contains name then throw (.unknownMember name)

/-- Calls a member of an object of a type; another name is a failure of its own. -/
def callMember (type : ObjectType) (name : String) (unknown : Failure) : EngineObjectM Unit := do
  match type.member? name with
  | none => throw unknown
  | some member =>
    match member.refusal? type.name name 0 with
    | some failure => throw failure
    | none => return

/-- Calls a member of an object of a type. -/
def callObject (type : ObjectType) (name : String) : EngineObjectM Unit :=
  callMember type name (.noAttribute type.bearer name)

/-- Calls a member of the list of the factory calls. -/
def callCreated (name : String) : EngineObjectM Unit := do
  callObject .list name
  let created := (← get).engine.created
  let replace (created : List String) : EngineObjectM Unit :=
    modify fun o => { o with engine := { o.engine with created := created } }
  match name with
  | "clear" | "__init__" => replace []
  | "pop" => if created.isEmpty then throw .noItem else replace created.dropLast
  | "reverse" => replace created.reverse
  | "sort" => replace (created.mergeSort fun a b => decide (a ≤ b))
  | _ => return

/-- Calls a member of the attributes as a whole. -/
def callAttributes (name : String) : EngineObjectM Unit := do
  callObject .object name
  let held := (← get).held
  match name with
  | "clear" => modify fun o => { o with held := [] }
  | "popitem" =>
    if held.isEmpty then throw .noEntries
    modify fun o => { o with held := held.dropLast }
  | _ => return

/-- Calls a member of the engine itself; it can be made anew, with a handle of its own. -/
def callOwn (name : String) : EngineObjectM Unit := do
  callObject .engine name
  if name = "__init__" then set ({} : EngineObject)

/-- Calls a member of a member of the engine. -/
def callPart (part : String) (kind : MemberPart) (name : String) : EngineObjectM Unit :=
  match kind, name with
  | .value type, _ => callObject type name
  | .attributes, _ => callAttributes name
  | .type, _ => callMember .engineType name (.noTypeAttribute ObjectType.engineType.name name)
  | .method, "__call__" | .builtIn _, "__call__" => callOwn part
  | .method, "__func__" => callObject .engineType part
  | .method, _ => callObject .method name
  | .builtIn type, _ => callObject type name

/-- Calls a member of a service. A factory call of the service is kept by the engine. -/
def callService (service name : String) : EngineObjectM Reply := do
  if (ObjectType.service.member? name).isSome then
    callObject .service name
    return .other
  if "create_".toList.isPrefixOf name.toList then require Engine.createdName
  onEngine (Engine.create service name)
  require Engine.handleName
  return .handle

/-- Calls a member of a part without arguments. -/
def ask (part name : String) : EngineObjectM Reply := do
  let held := (← get).held
  if part = Engine.handleName && held.contains part then onEngine (Engine.call name [])
  else if part = Engine.createdName && held.contains part then
    callCreated name
    return .other
  else
    match ObjectType.engine.member? part with
    | some member =>
      callPart part (.of part member) name
      return .other
    | none => callService part name

/-- The factory calls so far, as an engine shows them that still has its handle. -/
def shownCreated : EngineObjectM (List String) := do
  require Engine.handleName
  require Engine.createdName
  return (← get).engine.created

end EngineObject
end QueryBinding
