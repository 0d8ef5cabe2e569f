import QueryBinding.Parameter.Binding
import QueryBinding.Sort.Resolution
/-!
Queries: values for the fields of a query type, and sort criteria. A query is made from request
parameters, from a request body, or from field values; whichever way it is made, its values have
the types of their fields and its criteria are ones that the type admits.
-/
namespace QueryBinding

open Reading

structure Query where
  type : QueryType
  /-- The fields that were set, in the order of the type's fields. -/
  given : List (String × Datum)
  /-- The sort criteria, the primary one first, if they were set. -/
  sorting : Option (List SortCriterion)

namespace Query

/-- The value of a field; a field that was not set has the value null. -/
def value (q : Query) (field : String) : Datum := (q.given.lookup field).getD .null

def criteria (q : Query) : List SortCriterion := q.sorting.getD []

/-- The names of the fields that were set. -/
def setFields (q : Query) : List String :=
  (if q.sorting.isSome then [sortingField] else []) ++ Entries.keys q.given

def isSet (q : Query) (field : String) : Bool := q.setFields.contains field

/-- A query with the given criteria, checked or not. -/
def sortedBy (type : QueryType) (criteria : List SortCriterion) : Query :=
  if type.replacesSorting then ⟨type, [(sortingField, .list (criteria.map .criterion))], none⟩
  else ⟨type, [], some criteria⟩

/-- The criterion that a value is. -/
def criterionOf : Datum → Except Failure SortCriterion
  | .criterion c => .ok c
  | d => .error (.noAttribute d.typeName "field")

/-- The criteria that going through a value gives. -/
def criteriaIn (d : Datum) : Except Failure (List SortCriterion) :=
  match d.elements? with
  | some items => items.mapM criterionOf
  | none => .error (.misuse (.notIterable d.typeName))

/-- The criteria by which results are ordered. A field in the place of the sorting is gone through
as if it held criteria. -/
def ordering (q : Query) : Except Failure (List SortCriterion) :=
  if q.type.replacesSorting then criteriaIn (q.value sortingField) else .ok q.criteria

/-- The value of the field of that name, if the query has one. -/
def field? (q : Query) (name : String) : Option Datum :=
  if q.type.fields.any (·.name == name) then some (q.value name) else none

/-- Fails if a field hides the operation; its value cannot be called. -/
def require (q : Query) (operation : QueryOperation) : Except Failure Unit :=
  match q.field? operation.name with
  | some d => .error (.misuse (.notCallable d.typeName))
  | none => .ok ()

/-- The fields that results may be ordered by, unless a field of the query hides them. -/
def sortFields (q : Query) : Except Failure SortWhitelist :=
  match q.field? Declaration.sortFieldsName with
  | some d => .error (.noAttribute d.typeName "apply")
  | none => .ok q.type.sortFields

end Query

/-- What a request has to say about a query: its parameters, or its body, which should be an
object. -/
inductive QueryInput where
  | parameters (raw : RawParameters)
  | body (body : Datum)

namespace QueryType

/-! ### Field values -/

/-- A list of criteria. -/
def readCriteria : Datum → Reading (List SortCriterion)
  | .list items => readItems readCriterion items
  | d => refuse .notSequence d

/-- The criteria among field values, unless a field of the type takes their place. -/
def readSorting (type : QueryType) (entries : List (String × Datum)) :
    Reading (Option (List SortCriterion)) :=
  match entries.lookup sortingField with
  | some d =>
    if type.replacesSorting then .ok none
    else inside (.name sortingField) ((readCriteria d).map some)
  | none => .ok none

/-- No entry but those of the type's fields. -/
def readOthers (type : QueryType) (entries : List (String × Datum)) : Reading Unit :=
  ofIssues (Field.unexpected (sortingField :: type.fields.map (·.name)) entries)

/-- The query that field values describe. The sorting is read first, then the fields in order, and
entries that belong to no field come last. -/
def read (type : QueryType) (entries : List (String × Datum)) : Reading Query :=
  (both (type.readSorting entries)
    (both (Field.readGiven type.fields (.object entries)) (type.readOthers entries))).map
      fun (sorting, given, _) => ⟨type, given, sorting⟩

/-- A query of the right types, if its criteria are ones that the type admits. -/
def accept (q : Query) : Except Failure Query := do
  discard (q.type.resolve (← q.ordering))
  return q

/-- The query that field values describe. -/
def construct (type : QueryType) (entries : List (String × Datum)) : Except Failure Query := do
  accept (← Failure.ofReading type.name (type.read entries))

/-! ### Request parameters -/

/-- The entry that sets the sorting, unless there are no criteria. -/
def sortingEntry (criteria : List Datum) : List (String × Datum) :=
  if criteria.isEmpty then [] else [(sortingField, .list criteria)]

/-- The query that request parameters describe. -/
def fromParameters (type : QueryType) (raw : RawParameters) : Except Failure Query := do
  let values ← type.parameters.bind raw
  let criteria ← type.criteriaOf (raw.values SortCriterion.byKey)
    (raw.values SortCriterion.orderKey)
  type.construct (values ++ sortingEntry (criteria.map .criterion))

/-! ### Request bodies -/

/-- The entry of a body under a key; null counts as absent. -/
def bodyValue? (body : List (String × Datum)) (key : String) : Option Datum :=
  (body.lookup key).filter (!·.isNull)

/-- The texts of a list whose items are all texts. -/
def texts? : List Datum → Option (List String)
  | [] => some []
  | .text s :: items => (texts? items).map (s :: ·)
  | _ :: _ => none

/-- The values of a sort key of a body: none, one text or a list of texts. -/
def sortValues (body : List (String × Datum)) (key : String) : Except Failure (List String) :=
  match bodyValue? body key with
  | none => .ok []
  | some (.text s) => .ok [s]
  | some (.list items) =>
    match texts? items with
    | some texts => .ok texts
    | none => .error (.binding key (.list items) .texts)
  | some d => .error (.binding key d .texts)

/-- The criteria of a body that are objects of their own, not yet read. -/
def sortingItems (body : List (String × Datum)) : Except Failure (List Datum) :=
  match bodyValue? body sortingField with
  | none => .ok []
  | some (.list items) => .ok items
  | some d => .error (.binding sortingField d .sortCriteria)

/-- The field values of a body, in the order of the parameters. -/
def bodyValues (type : QueryType) (body : List (String × Datum)) : List (String × Datum) :=
  type.parameters.toList.filterMap fun p => (bodyValue? body p.name).map fun d => (p.field, d)

/-- The field that an issue is about. -/
def issueField (issue : Issue) : String :=
  match issue.path with
  | .name field :: _ => field
  | .index i :: _ => (Datum.number i).display
  | [] => ""

/-- An issue, under the name that requests use for its field. -/
def bindingFailure (type : QueryType) (issue : Issue) : Failure :=
  .binding (type.parameters.externalName (issueField issue)) issue.input (.fault issue.fault)

/-- The query that a request body describes. -/
def fromBody (type : QueryType) (body : List (String × Datum)) : Except Failure Query := do
  let fields ← sortValues body SortCriterion.byKey
  let orders ← sortValues body SortCriterion.orderKey
  let criteria ← type.criteriaOf fields orders
  let items ← sortingItems body
  match type.read (type.bodyValues body ++ sortingEntry (criteria.map .criterion ++ items)) with
  | .ok q => accept q
  | .error issues => .error (type.bindingFailure issues.first)

def ofInput (type : QueryType) : QueryInput → Except Failure Query
  | .parameters raw => type.fromParameters raw
  | .body (.object entries) => type.fromBody entries
  | .body d => .error (.noAttribute d.typeName "get")

end QueryType

/-! ### Engine calls -/

namespace Query

/-- The filter calls that a query stands for, in order. -/
def filterCalls (q : Query) : List Call :=
  q.type.filters.flatMap fun rule => rule.callsFor (q.value rule.field)

/-- Makes the filter calls that a rule gives, unless the value of its field cannot be used. -/
def applyFilter (q : Query) (rule : FilterRule) : EngineM Unit := do
  let d := q.value rule.field
  match rule.failure? d with
  | some failure => throw failure
  | none => (rule.callsFor d).forM fun c => discard (Engine.call c.name c.args)

/-- Applies one criterion, if the type admits it. -/
def applySort (q : Query) (criterion : SortCriterion) : EngineM Unit := do
  q.require .sort
  q.require .checkField
  q.type.checkSortField criterion.field
  (← q.sortFields).apply criterion

/-- Gets a handle from the engine, then filters and orders it. The sorting is checked before the
engine is touched. -/
def build (q : Query) : EngineM Unit := do
  q.require .build
  let criteria ← q.type.resolve (← q.ordering)
  q.require .getHandle
  Engine.create q.type.factory.service q.type.factory.method
  q.require .filter
  q.type.filters.forM q.applyFilter
  criteria.forM q.applySort

end Query
end QueryBinding
