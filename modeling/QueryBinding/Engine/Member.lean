import QueryBinding.Engine.Handle.Call
/-!
Calls on the handle of an engine by name. A name that is no member of the handle is a call that the
handle takes and keeps; the members act on the handle as an object.
-/
namespace QueryBinding.Engine

/-- Whether a handle has a member or an attribute of that name. -/
def isMember (name : String) : Bool :=
  Handle.attributeNames.contains name || (Handle.type.member? name).isSome

/-- The engine whose handle holds the given attributes. An attribute that no engine can have keeps
its old value. -/
def withHandle (h : Handle) (e : Engine) : Engine :=
  { e with
    calls :=
      match h.attributes.lookup Handle.logName with
      | some (.log items) => items.filterMap fun item => item.toCall.toOption
      | _ => e.calls
    results :=
      match h.attributes.lookup Handle.resultsName with
      | some (.value (.list items)) => items
      | _ => e.results
    total :=
      match h.attributes.lookup Handle.totalName with
      | some (.value d) => if d.isNull then none else some d
      | _ => e.total
    failure :=
      match h.attributes.lookup Handle.failureName with
      | some (.value _) => none
      | some (.failure failure) => some failure
      | _ => e.failure }

/-- Lets the handle of the engine act. -/
def onHandle (action : HandleM α) : EngineM α := ExceptT.mk do
  let e ← get
  let (result, h) := action.run.run (Handle.ofEngine e)
  set (e.withHandle h)
  return result

/-- Calls the handle. -/
def call (name : String) (args : List Datum) : EngineM Reply := do
  if isMember name then onHandle (Handle.call name args)
  else
    take name args
    return .handle

end QueryBinding.Engine
