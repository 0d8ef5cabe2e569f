import QueryBinding.Parameter
import QueryBinding.Query.Filter
import QueryBinding.Sort.Whitelist
import QueryBinding.Validation.Record
/-!
Query types: which parameters a query accepts, the typed fields that they set, the fields that its
results may be ordered by, and the engine calls that it stands for. Every parameter of a query type
sets a field that the type has.
-/
namespace QueryBinding

/-- The call that gets a query handle from a service of the engine. -/
structure Factory where
  service : String
  method : String
deriving DecidableEq, Repr

/-- The field that holds the sort criteria of every query. -/
def sortingField : String := "sorting"

/-- Whether `name` is one of the filter fields. -/
def declares (fields : List Field) (name : String) : Bool :=
  name != sortingField && fields.any (·.name == name)

/-- The operations by which a query gets to the engine. A field of a query that has the name of an
operation hides it. -/
inductive QueryOperation where
  /-- Builds the query as a whole. -/
  | build
  /-- Gets a handle from the engine. -/
  | getHandle
  | filter
  | sort
  /-- Tells whether results can be ordered by a field. -/
  | checkField
deriving DecidableEq, Repr

namespace QueryOperation

def name : QueryOperation → String
  | build => "to_query"
  | getHandle => "new_engine_query"
  | filter => "apply_filters"
  | sort => "apply_sort"
  | checkField => "is_valid_sort_field"

end QueryOperation

structure QueryType where
  name : String
  parameters : ParameterTable
  fields : List Field
  sortFields : SortWhitelist
  factory : Factory
  filters : List FilterRule
  declares_field : ∀ p ∈ parameters.toList, declares fields p.field = true

namespace QueryType

/-- Whether a field of the type is named like the sorting and takes its place. -/
def replacesSorting (type : QueryType) : Bool := type.fields.any (·.name == sortingField)

/-- The query type of the given parts, unless one of the parameters sets no field of it. -/
def of (name : String) (parameters : ParameterTable) (fields : List Field)
    (sortFields : SortWhitelist) (factory : Factory) (filters : List FilterRule) :
    Except Failure QueryType :=
  match h : parameters.toList.find? fun p => !declares fields p.field with
  | some p => .error (.undeclaredField name p.name p.field)
  | none =>
    .ok { name, parameters, fields, sortFields, factory, filters
          declares_field := fun p mem => by simpa using List.find?_eq_none.1 h p mem }

def isValidSortField (type : QueryType) (field : String) : Bool := type.sortFields.contains field

end QueryType

/-- A query type as it is written down: a base, and what is added to it. -/
structure Declaration where
  name : String
  base : Option QueryType := none
  parameters : List Parameter := []
  fields : List (String × FieldType) := []
  sortFields : List (String × String) := []

namespace Declaration

/-- Where a query type without a base gets its handle. -/
def customFactory : Factory := ⟨"custom_service", "create_custom_query"⟩

/-- The fields after one more is declared; a field of the same name is replaced in its place. The
place of the sorting is the first one. -/
def addField (fields : List Field) (field : Field) : List Field :=
  if fields.any (·.name == field.name) then
    fields.map fun f => if f.name = field.name then field else f
  else if field.name = sortingField then field :: fields
  else fields ++ [field]

/-- Whether a declared name is that of a field; one that begins with an underscore is none. -/
def isFieldName (name : String) : Bool := !"_".toList.isPrefixOf name.toList

/-- The rules of a base for the fields that an extension of it has. -/
def adaptRules (rules : List FilterRule) (fields : List Field) : List FilterRule :=
  rules.map fun rule =>
    match fields.find? (·.name == rule.field) with
    | some field => rule.adapted field.type
    | none => rule

/-- A name that no field of a query type can have. -/
def reservedField : String := "model_config"

/-- Fails if a type cannot have the declared names. -/
def checkNames (d : Declaration) : Except Failure Unit :=
  if d.fields.any (·.1 == reservedField) then .error (.reservedField reservedField)
  else if d.name.toList.contains '\x00' then .error .typeName
  else .ok ()

/-- The name under which a query type knows its parameters. -/
def parametersName : String := "parameters"

/-- The name under which a query type knows the fields that its results may be ordered by. -/
def sortFieldsName : String := "sort_fields"

def declaresField (d : Declaration) (name : String) : Bool := d.fields.any (·.1 == name)

/-- The parameters of the base, and those that are added to them. -/
def parameterTable (d : Declaration) : Except Failure ParameterTable := do
  let inherited := (d.base.map (·.parameters)).getD .empty
  let table ← inherited.extend d.parameters
  return if d.declaresField parametersName then inherited else table

/-- The sort fields of the base, and those that are added to them. -/
def whitelist (d : Declaration) : SortWhitelist :=
  let inherited := (d.base.map (·.sortFields)).getD .empty
  if d.declaresField sortFieldsName then inherited else inherited.extend d.sortFields

/-- The query type that a declaration describes. Declared fields may be left out or null, and each
is the name of its own filter call; the filters of the base come first. A field with the name of
what a declaration adds stands in its place, so that the base's remains. -/
def toQueryType (d : Declaration) : Except Failure QueryType := do
  let parameters ← d.parameterTable
  d.checkNames
  let declared := (d.fields.filter (isFieldName ·.1)).map fun (name, type) =>
    { name, type : Field }
  let fields := declared.foldl addField ((d.base.map (·.fields)).getD [])
  let inherited := adaptRules ((d.base.map (·.filters)).getD []) fields
  QueryType.of d.name parameters fields d.whitelist ((d.base.map (·.factory)).getD customFactory)
    (inherited ++ declared.map fun field => .named field.name)

end Declaration
end QueryBinding
