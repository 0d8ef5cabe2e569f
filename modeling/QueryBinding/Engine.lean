import QueryBinding.Datum.Portion
/-!
A recording engine. It hands out one query handle, which takes any filter, ordering or direction
call and keeps them all in order; a terminal call lists or counts the canned results, or fails
with the canned failure. Factory calls on the engine are kept apart from calls on the handle.
The members that a handle has of its own are not calls of this kind (`Engine.call`).
-/
namespace QueryBinding

/-- A call on a query handle. -/
structure Call where
  name : String
  args : List Datum := []
deriving Repr

namespace Call

def directions : List String := ["asc", "desc"]

def terminals : List String := ["list", "list_page", "count"]

def isOrdering (c : Call) : Bool :=
  "order_by_".toList.isPrefixOf c.name.toList || directions.contains c.name

def isTerminal (c : Call) : Bool := terminals.contains c.name

/-- A call that is neither an ordering, a direction nor a terminal call. -/
def isFilter (c : Call) : Bool := !c.isOrdering && !c.isTerminal

/-- Equality of calls, as `Datum.agrees` sees their arguments. -/
def agrees (c d : Call) : Bool := c.name == d.name && Datum.listAgrees c.args d.args

end Call

structure Engine where
  results : List Datum := []
  /-- The count, if it is not the number of results. -/
  total : Option Datum := none
  /-- The failure of every terminal call. -/
  failure : Option Failure := none
  /-- Calls that fail, by name. -/
  rejects : List (String × Failure) := []
  /-- The calls on the handle so far. -/
  calls : List Call := []
  /-- The factory calls so far. -/
  created : List String := []
deriving Repr

/-- A computation that calls the engine and may fail. -/
abbrev EngineM := ExceptT Failure (StateM Engine)

namespace Engine

def filterCalls (e : Engine) : List Call := e.calls.filter (·.isFilter)

def orderingCalls (e : Engine) : List Call := e.calls.filter (·.isOrdering)

def terminalCalls (e : Engine) : List Call := e.calls.filter (·.isTerminal)

def record (c : Call) (e : Engine) : Engine := { e with calls := e.calls ++ [c] }

/-- Calls the handle by any name. One that begins with an underscore is no call and leaves no
trace. -/
def take (name : String) (args : List Datum) : EngineM Unit := do
  if "_".toList.isPrefixOf name.toList then throw (.unknownMember name)
  modify (record ⟨name, args⟩)
  match (← get).rejects.lookup name with
  | some failure => throw failure
  | none => return

/-- Records a terminal call, which may fail. -/
def terminal (name : String) (args : List Datum) : EngineM Unit := do
  modify (record ⟨name, args⟩)
  match (← get).failure with
  | some failure => throw failure
  | none => return

def list : EngineM (List Datum) := do
  terminal "list" []
  return (← get).results

def listPage (first max : Int) : EngineM (List Datum) := do
  terminal "list_page" [.number first, .number max]
  return Portion.between (← get).results first (first + max)

def count : EngineM Datum := do
  terminal "count" []
  let e ← get
  return e.total.getD (.number e.results.length)

/-- Asks a service of the engine for a query handle; it is the same handle every time. -/
def create (service factory : String) : EngineM Unit := do
  if !"_service".toList.isSuffixOf service.toList then throw (.unknownMember service)
  if !"create_".toList.isPrefixOf factory.toList then throw (.unknownMember factory)
  modify fun e => { e with created := e.created ++ [factory] }

end Engine
end QueryBinding
