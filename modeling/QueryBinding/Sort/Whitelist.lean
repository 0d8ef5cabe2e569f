import QueryBinding.Engine.Member
import QueryBinding.Entries
/-!
Whitelists of sort fields: the fields that results may be ordered by, each with its ordering call.
The direction is a call of its own, made after the ordering call.
-/
namespace QueryBinding

structure SortWhitelist where
  /-- The ordering call of each field. -/
  orderings : List (String × String)
  nodup : (Entries.keys orderings).Nodup

namespace SortWhitelist

def empty : SortWhitelist := ⟨[], List.nodup_nil⟩

/-- Further fields; a field that is there already keeps its place and gets the new call. -/
def extend (whitelist : SortWhitelist) (pairs : List (String × String)) : SortWhitelist :=
  ⟨Entries.putAll whitelist.orderings pairs, Entries.nodup_keys_putAll whitelist.nodup⟩

def ofList (pairs : List (String × String)) : SortWhitelist := empty.extend pairs

def names (whitelist : SortWhitelist) : List String := Entries.keys whitelist.orderings

def size (whitelist : SortWhitelist) : Nat := whitelist.orderings.length

def contains (whitelist : SortWhitelist) (field : String) : Bool :=
  (whitelist.orderings.lookup field).isSome

/-- The ordering call of a field. -/
def ordering (whitelist : SortWhitelist) (field : String) : Except Failure String :=
  match whitelist.orderings.lookup field with
  | some call => .ok call
  | none => .error (.unknownKey field)

/-- Applies a criterion to the engine's handle: the ordering call, then the direction. -/
def apply (whitelist : SortWhitelist) (criterion : SortCriterion) : EngineM Unit := do
  discard (Engine.call (← whitelist.ordering criterion.field) [])
  discard (Engine.call criterion.order.symbol [])

end SortWhitelist
end QueryBinding
