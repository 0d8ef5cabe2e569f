import QueryBinding.Engine
import QueryBinding.Entries
/-!
Handles as objects. A handle holds its log, its results, its count and its failure as attributes.
An attribute may be missing or hold any value, and then its methods fail in their own ways; a name
without an attribute stands for a call.
-/
namespace QueryBinding

/-- What stands in a log: a call, whose name need not be a text, or a value that was put there. -/
inductive LogItem where
  | call (name : Datum) (args : List Datum)
  | value (value : Datum)
deriving Repr

namespace LogItem

def ofCall (c : Call) : LogItem := call (.text c.name) c.args

def name : LogItem → Except Failure Datum
  | call name _ => .ok name
  | value d => .error (.noAttribute d.typeName "name")

/-- The call that stands in a log; its name must be a text. -/
def toCall : LogItem → Except Failure Call
  | call (.text name) args => .ok ⟨name, args⟩
  | call name _ => .error (.noAttribute name.typeName "startswith")
  | value d => .error (.noAttribute d.typeName "name")

/-- Whether a terminal call stands in a log; its name must be one that can be looked for. -/
def isTerminal : LogItem → Except Failure Bool
  | call (.text name) args => .ok (Call.isTerminal ⟨name, args⟩)
  | call (.list items) _ => .error (.misuse (.notKey (Datum.list items).typeName))
  | call (.object entries) _ => .error (.misuse (.notKey (Datum.object entries).typeName))
  | call .. => .ok false
  | value d => .error (.noAttribute d.typeName "name")

end LogItem

/-- What a handle holds under a name. -/
inductive Attribute where
  | value (value : Datum)
  | log (items : List LogItem)
  | failure (failure : Failure)
deriving Repr

def Attribute.typeName : Attribute → String
  | value d => d.typeName
  | log _ => (Datum.list []).typeName
  | failure f => f.kind.name

/-- What a call on a handle gives. -/
inductive Reply where
  /-- The handle itself. -/
  | handle
  | value (value : Datum)
  | log (items : List LogItem)
  | attributes (entries : List (String × Attribute))
  /-- A thing that has no form of its own. -/
  | other
deriving Repr

namespace Reply

/-- Whether a call gave the handle itself. -/
def isHandle : Reply → Bool
  | handle => true
  | _ => false

def ofAttribute : Attribute → Reply
  | .value d => value d
  | .log items => log items
  | .failure _ => other

end Reply

structure Handle where
  attributes : List (String × Attribute)
  /-- Calls that fail, by name. -/
  rejects : List (String × Failure) := []
deriving Repr

/-- A computation that calls a handle and may fail. -/
abbrev HandleM := ExceptT Failure (StateM Handle)

namespace Handle

def logName : String := "calls"

def resultsName : String := "results"

def totalName : String := "total"

def failureName : String := "error"

def attributeNames : List String := [logName, resultsName, totalName, failureName]

/-- The handle of an engine. -/
def ofEngine (e : Engine) : Handle where
  attributes :=
    [(logName, .log (e.calls.map .ofCall)), (resultsName, .value (.list e.results)),
      (totalName, .value (e.total.getD .null)),
      (failureName, e.failure.elim (.value .null) .failure)]
  rejects := e.rejects

def read (name : String) : HandleM (Option Attribute) := return (← get).attributes.lookup name

def write (name : String) (held : Attribute) : HandleM Unit :=
  modify fun h => { h with attributes := Entries.put name held h.attributes }

/-- The type of what is found under a name; a name without an attribute stands for a call. -/
def foundType : Option Attribute → String
  | some held => held.typeName
  | none => "function"

/-- Keeps a call in the log. -/
def keep (name : Datum) (args : List Datum) : HandleM Unit := do
  match ← read logName with
  | some (.log items) => write logName (.log (items ++ [.call name args]))
  | some (.value (.list items)) => write logName (.log (items.map .value ++ [.call name args]))
  | found => throw (.noAttribute (foundType found) "append")

/-- Keeps a terminal call, which may fail. -/
def terminal (name : Datum) (args : List Datum) : HandleM Unit := do
  keep name args
  match ← read failureName with
  | some (.value .null) => return
  | some (.failure failure) => throw failure
  | _ => throw (.misuse .notFailure)

def terminalName : String := "_terminal"

/-- Lets the handle's own method keep a terminal call. -/
def viaTerminal (name : String) (args : List Datum) : HandleM Unit := do
  match ← read terminalName with
  | some held => throw (.misuse (.notCallable held.typeName))
  | none => terminal (.text name) args

/-- What going through an attribute gives. -/
def items (found : Option Attribute) : Except Failure (List LogItem) :=
  match found with
  | some (.log items) => .ok items
  | some (.value d) =>
    match d.elements? with
    | some elements => .ok (elements.map .value)
    | none => .error (.misuse (.notIterable d.typeName))
  | found => .error (.misuse (.notIterable (foundType found)))

def list : HandleM Reply := do
  viaTerminal "list" []
  return .log (← items (← read resultsName))

def listPage (first max : Datum) : HandleM Reply := do
  viaTerminal "list_page" [first, max]
  let found ← read resultsName
  let stop ← first.sumIndex? max
  match found with
  | some (.value d) => return .value (← d.slice first.index? stop)
  | found => throw (.misuse (.notSubscriptable (foundType found)))

/-- The number of items under a name. -/
def size (found : Option Attribute) : Except Failure Nat :=
  match items found with
  | .ok items => .ok items.length
  | .error _ => .error (.misuse (.notSized (foundType found)))

def count : HandleM Reply := do
  viaTerminal "count" []
  match ← read totalName with
  | some (.value .null) => return .value (.number (← size (← read resultsName)))
  | some held => return .ofAttribute held
  | none => return .other

def namesOf (items : List LogItem) : Except Failure (List Datum) := items.mapM LogItem.name

def callsOf (items : List LogItem) : Except Failure (List Call) := items.mapM LogItem.toCall

/-- The items of a log that are terminal calls. -/
def terminalsOf (items : List LogItem) : Except Failure (List LogItem) := do
  let marks ← items.mapM LogItem.isTerminal
  return ((items.zip marks).filter (·.2)).map (·.1)

def names : HandleM Reply := do
  return .value (.list (← namesOf (← items (← read logName))))

/-- The calls in the log that pass a test. -/
def callsThat (test : Call → Bool) : HandleM Reply := do
  let calls ← callsOf (← items (← read logName))
  return .log ((calls.filter test).map .ofCall)

def terminalCalls : HandleM Reply := do
  return .log (← terminalsOf (← items (← read logName)))

end Handle
end QueryBinding
