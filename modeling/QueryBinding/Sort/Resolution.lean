import QueryBinding.Query.Type
/-!
Sort resolution: criteria are accepted only if a query type can order its results by their fields.
Criteria that arrive as two lists of parameter values are paired by position.
-/
namespace QueryBinding

/-- The criterion that a value describes. -/
def SortCriterion.construct (d : Datum) : Except Failure SortCriterion :=
  Failure.ofReading "SortCriterion" (readCriterion d)

/-- The direction that a parameter value asks for. -/
def SortOrder.ofParameter (s : String) : Except Failure SortOrder :=
  match ofSymbol? s with
  | some order => .ok order
  | none => .error (.binding SortCriterion.orderKey (.text s) .sortOrder)

/-- The direction that a value names. -/
def SortOrder.ofDatum (d : Datum) : Except Failure SortOrder :=
  match d with
  | .text s =>
    match ofSymbol? s with
    | some order => .ok order
    | none => .error (.unknownDirection d)
  | _ => .error (.unknownDirection d)

namespace QueryType

/-- Fails unless results of the type can be ordered by the field. -/
def checkSortField (type : QueryType) (field : String) : Except Failure Unit :=
  if type.isValidSortField field then .ok () else .error (.sortField field type.name)

def checkSortFields (type : QueryType) : List String → Except Failure Unit
  | [] => .ok ()
  | field :: fields => do
    type.checkSortField field
    type.checkSortFields fields

/-- The criteria themselves, if results can be ordered by all their fields; otherwise the failure
of the first one by which they cannot. -/
def resolve (type : QueryType) (criteria : List SortCriterion) :
    Except Failure (List SortCriterion) := do
  type.checkSortFields (criteria.map (·.field))
  return criteria

/-- Pairs fields and directions by position. Unknown fields are reported first, then directions
that are none, then lists of unequal length. -/
def criteriaOf (type : QueryType) (fields orders : List String) :
    Except Failure (List SortCriterion) := do
  type.checkSortFields fields
  let orders ← orders.mapM SortOrder.ofParameter
  if fields.length = orders.length then
    return List.zipWith (fun field order => ⟨field, order⟩) fields orders
  else throw (.invalidRequest .unpairedSorting)

end QueryType
end QueryBinding
