/-!
Filters on a named variable: the name, a comparison, and the operand as text.
-/
namespace QueryBinding

inductive VariableOperator where
  | equals
  | notEquals
  | greaterThan
  | greaterThanOrEquals
  | lessThan
  | lessThanOrEquals
  | like
deriving DecidableEq, Repr

namespace VariableOperator

def all : List VariableOperator :=
  [equals, notEquals, greaterThan, greaterThanOrEquals, lessThan, lessThanOrEquals, like]

/-- The word that stands for a comparison in requests. -/
def symbol : VariableOperator → String
  | equals => "eq"
  | notEquals => "neq"
  | greaterThan => "gt"
  | greaterThanOrEquals => "gteq"
  | lessThan => "lt"
  | lessThanOrEquals => "lteq"
  | like => "like"

/-- The name of a comparison in messages. -/
def name : VariableOperator → String
  | equals => "EQUALS"
  | notEquals => "NOT_EQUALS"
  | greaterThan => "GREATER_THAN"
  | greaterThanOrEquals => "GREATER_THAN_OR_EQUALS"
  | lessThan => "LESS_THAN"
  | lessThanOrEquals => "LESS_THAN_OR_EQUALS"
  | like => "LIKE"

def ofSymbol? (s : String) : Option VariableOperator := all.find? (·.symbol == s)

theorem ofSymbol?_symbol (op : VariableOperator) : ofSymbol? op.symbol = some op := by
  cases op <;> decide +kernel

end VariableOperator

structure VariableFilter where
  name : String
  operator : VariableOperator
  value : String
deriving DecidableEq, Repr

/-- The filter as one text, its parts joined by underscores. -/
def VariableFilter.text (v : VariableFilter) : String :=
  v.name ++ "_" ++ v.operator.symbol ++ "_" ++ v.value

end QueryBinding
