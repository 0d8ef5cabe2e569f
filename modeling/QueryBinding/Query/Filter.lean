import QueryBinding.Engine.Member
import QueryBinding.Validation.FieldType
/-!
Filter rules: which calls on the engine's handle the value of a field stands for. An unset field
has the value null, and null stands for no call. A rule is made for a type of values; where a field
gets another type, the rule becomes the one that `adapted` gives.
-/
namespace QueryBinding

namespace Datum

/-- The items of a list; other values have none. -/
def items : Datum → List Datum
  | list items => items
  | _ => []

end Datum

/-- The call that compares a variable with a value. -/
def VariableOperator.call : VariableOperator → String
  | equals => "variable_value_equals"
  | notEquals => "variable_value_not_equals"
  | greaterThan => "variable_value_greater_than"
  | greaterThanOrEquals => "variable_value_greater_than_or_equal"
  | lessThan => "variable_value_less_than"
  | lessThanOrEquals => "variable_value_less_than_or_equal"
  | like => "variable_value_like"

/-- What a rule would do with a value that is not of the kind that the rule is made for. -/
inductive MisfitUse where
  | asArguments
  | asFilters
deriving DecidableEq, Repr

/-- Why a value cannot be used so. Texts can be gone through, but they are no filters. -/
def MisfitUse.failure : MisfitUse → Datum → Failure
  | asArguments, d => .misuse (.notSpreadable d.typeName)
  | asFilters, .text s => .noAttribute (Datum.text s).typeName "operator"
  | asFilters, .list (item :: _) => .noAttribute item.typeName "operator"
  | asFilters, d => .misuse (.notIterable d.typeName)

inductive FilterRule where
  /-- The value is the argument of a call. -/
  | argument (field call : String)
  /-- A yes stands for a call without arguments. -/
  | marker (field call : String)
  /-- The items of a list are the arguments of a call. -/
  | arguments (field call : String)
  /-- The characters of a text are the arguments of a call. -/
  | characters (field call : String)
  /-- Every variable filter of a list stands for a call of its own. -/
  | comparisons (field : String)
  /-- A value that counts as a yes cannot be used, and the query is not built; any other value
  stands for no call. -/
  | misfit (field : String) (use : MisfitUse)
  /-- The field is the name of the call: a flag is a marker, the items of a list are arguments, and
  any other value is the argument. -/
  | named (field : String)
deriving DecidableEq, Repr

namespace FilterRule

def field : FilterRule → String
  | argument field _ | marker field _ | arguments field _ | characters field _ | comparisons field
  | misfit field _ | named field => field

def argumentCalls (call : String) (d : Datum) : List Call :=
  if d.isNull then [] else [⟨call, [d]⟩]

def markerCalls (call : String) (d : Datum) : List Call :=
  if d.isTruthy then [⟨call, []⟩] else []

def argumentsCalls (call : String) (d : Datum) : List Call :=
  if d.items.isEmpty then [] else [⟨call, d.items⟩]

/-- The characters of a text, each a text of its own; other values have none. -/
def characterTexts : Datum → List Datum
  | .text s => s.toList.map fun c => .text (String.singleton c)
  | _ => []

def variableCall? : Datum → Option Call
  | .filter v => some ⟨v.operator.call, [.text v.name, .text v.value]⟩
  | _ => none

def namedCalls (call : String) : Datum → List Call
  | .flag b => markerCalls call (.flag b)
  | .list items => argumentsCalls call (.list items)
  | d => argumentCalls call d

/-- The calls that a value of the rule's field stands for. -/
def callsFor : FilterRule → Datum → List Call
  | argument _ call, d => argumentCalls call d
  | marker _ call, d => markerCalls call d
  | arguments _ call, d => argumentsCalls call d
  | characters _ call, d => argumentsCalls call (.list (characterTexts d))
  | comparisons _, d => d.items.filterMap variableCall?
  | misfit .., _ => []
  | named field, d => namedCalls field d

/-- The failure that the value of the rule's field leads to, if it cannot be used. -/
def failure? : FilterRule → Datum → Option Failure
  | misfit _ use, d => if d.isTruthy then some (use.failure d) else none
  | _, _ => none

/-- The rule for a field that has got another type. -/
def adapted : FilterRule → FieldType → FilterRule
  | arguments field call, .text => characters field call
  | arguments field call, .texts | arguments field call, .filters => arguments field call
  | arguments field _, _ => misfit field .asArguments
  | comparisons field, .filters => comparisons field
  | comparisons field, _ => misfit field .asFilters
  | rule, _ => rule

end FilterRule
end QueryBinding
