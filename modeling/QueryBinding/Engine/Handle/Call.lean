import QueryBinding.Engine.Handle
import QueryBinding.Engine.ObjectType
/-!
Calls on a handle by name: of a member that it has, or else of a name that it takes and keeps in its
log. Among its members are those that every object has, which read, replace and remove attributes;
an attribute hides the member of its name. A call that is refused leaves no trace.
-/
namespace QueryBinding.Handle

/-- The results that a handle is made with. -/
def givenResults (args : List Datum) : Except Failure (List Datum) :=
  match args.head? with
  | none => .ok []
  | some d =>
    match d.elements? with
    | some elements => .ok elements
    | none => .error (.misuse (.notIterable d.typeName))

/-- Makes the handle anew, with results, a count and a failure. -/
def renew (args : List Datum) : HandleM Unit := do
  write logName (.log [])
  write resultsName (.value (.list (← givenResults args)))
  write totalName (.value ((args.drop 1).head?.getD .null))
  write failureName (.value ((args.drop 2).head?.getD .null))

def type : ObjectType := .handle

/-- Members that count before the attributes of their names. -/
def foremost : List String := ["__class__", "__dict__", "__weakref__"]

/-- Replaces an attribute, or all of them. -/
def replace (name : String) (d : Datum) : HandleM Unit := do
  match name, d with
  | "__class__", d => throw (.misuse (.member (.newType d.typeName)))
  | "__weakref__", _ => throw (.fixedAttribute type.name name)
  | "__dict__", .object entries =>
    modify fun h => { h with attributes := entries.map fun (name, d) => (name, .value d) }
  | "__dict__", d => throw (.misuse (.member (.newAttributes d.typeName)))
  | name, d => write name (.value d)

/-- Removes an attribute, or all of them. -/
def remove (name : String) : HandleM Unit := do
  match name with
  | "__class__" => throw (.misuse (.member .typeRemoval))
  | "__weakref__" => throw (.fixedAttribute type.name name)
  | "__dict__" => modify fun h => { h with attributes := [] }
  | name =>
    if (← read name).isNone then throw (.noAttribute type.name name)
    modify fun h => { h with attributes := h.attributes.filter (·.1 != name) }

/-- What is found under a name where no call is meant. -/
def lookUp (name : String) : HandleM Reply := do
  match name with
  | "__dict__" => return .attributes (← get).attributes
  | "__weakref__" => return .value .null
  | "__class__" => return .other
  | name =>
    match ← read name with
    | some held => return .ofAttribute held
    | none =>
      if name = "__module__" then return .value (.text "sieve.testing.recording")
      else if (type.member? name).isSome then return .other
      else throw (.noAttribute type.name name)

/-- A call for a name that the handle has no member for. -/
def fallBack (name : Datum) : Except Failure Reply :=
  match name with
  | .text s => if "_".toList.isPrefixOf s.toList then .error (.unknownMember s) else .ok .other
  | name => .error (.noAttribute name.typeName "startswith")

/-- The text of the handle in a layout, of which there is none. -/
def layOut (layout : Datum) : Except Failure Reply :=
  match layout with
  | .text s => if s = "" then .ok .other else .error (.misuse (.member (.layoutOf type.name)))
  | .null => .error (.misuse (.member (.layout Datum.null.literal)))
  | layout => .error (.misuse (.member (.layout layout.typeName)))

/-- The names of the members in the order in which they are told. -/
def directory : List String :=
  ["__module__", "__doc__", "__init__", "__getattr__", "_terminal", "list", "list_page", "count",
    "names", "filter_calls", "ordering_calls", "terminal_calls", "__dict__", "__weakref__",
    "__new__", "__repr__", "__hash__", "__str__", "__getattribute__", "__setattr__", "__delattr__",
    "__lt__", "__le__", "__eq__", "__ne__", "__gt__", "__ge__", "__reduce_ex__", "__reduce__",
    "__getstate__", "__subclasshook__", "__init_subclass__", "__format__", "__sizeof__", "__dir__",
    "__class__"]

/-- The size of a handle without its attributes. -/
def bareSize : Int := 24

/-- The name of an attribute. -/
def attributeName (d : Datum) : Except Failure String :=
  match d with
  | .text name => .ok name
  | d => .error (.misuse (.member (.attributeName d.typeName)))

/-- Lets a member answer that takes the given number of arguments. -/
def answer (member : String) (args : List Datum) : HandleM Reply := do
  match member, args with
  | "list", _ => list
  | "list_page", [first, max] => listPage first max
  | "count", _ => count
  | "names", _ => names
  | "filter_calls", _ => callsThat (·.isFilter)
  | "ordering_calls", _ => callsThat (·.isOrdering)
  | "terminal_calls", _ => terminalCalls
  | "_terminal", name :: args =>
    terminal name args
    return .value .null
  | "__init__", args =>
    renew args
    return .value .null
  | "__class__", args =>
    discard (givenResults args)
    return .other
  | "__new__", [] => throw (.misuse (.member (.madeOfNothing "object")))
  | "__new__", d :: _ => throw (.misuse (.member (.made d.typeName)))
  | "__setattr__", [name, d] =>
    replace (← attributeName name) d
    return .value .null
  | "__delattr__", [name] =>
    remove (← attributeName name)
    return .value .null
  | "__getattribute__", [name] => lookUp (← attributeName name)
  | "__getattr__", [name] => fallBack name
  | "__format__", [layout] => layOut layout
  | "__reduce_ex__", [version] =>
    if version.index?.isSome then return .other
    else throw (.misuse (.member (.version version.typeName)))
  | "__getstate__", _ =>
    let attributes := (← get).attributes
    return if attributes.isEmpty then .value .null else .attributes attributes
  | "__dir__", _ =>
    let names := Entries.keys (← get).attributes ++ directory
    return .value (.list (names.eraseDups.map .text))
  | "__sizeof__", _ => return .value (.number bareSize)
  | "__init_subclass__", _ => return .value .null
  | _, _ => return .other

/-- Calls a member. -/
def callMember (name : String) (member : Member) (args : List Datum) : HandleM Reply := do
  match member.refusal? type.name name args.length with
  | some failure => throw failure
  | none => answer name args

/-- Keeps a call, which may be rejected. -/
def take (name : String) (args : List Datum) : HandleM Reply := do
  if "_".toList.isPrefixOf name.toList then throw (.unknownMember name)
  keep (.text name) args
  match (← get).rejects.lookup name with
  | some failure => throw failure
  | none => return .handle

/-- Calls the handle by any name. -/
def call (name : String) (args : List Datum) : HandleM Reply := do
  let found ← read name
  match found, type.member? name with
  | some held, member =>
    match member.filter fun _ => foremost.contains name with
    | some member => callMember name member args
    | none => throw (.misuse (.notCallable held.typeName))
  | none, some member => callMember name member args
  | none, none => take name args

/-- Calls the handle by a name that must be a text. -/
def callNamed (name : Datum) (args : List Datum) : HandleM Reply := do
  call (← attributeName name) args

end QueryBinding.Handle
