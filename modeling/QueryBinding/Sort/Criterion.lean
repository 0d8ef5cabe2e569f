/-!
Sort criteria: a field that results are ordered by, and a direction.
-/
namespace QueryBinding

inductive SortOrder where
  | asc
  | desc
deriving DecidableEq, Repr

namespace SortOrder

def all : List SortOrder := [asc, desc]

/-- The word for a direction, in requests and as a call on an engine query. -/
def symbol : SortOrder → String
  | asc => "asc"
  | desc => "desc"

/-- The name of a direction in messages. -/
def name : SortOrder → String
  | asc => "ASC"
  | desc => "DESC"

def ofSymbol? (s : String) : Option SortOrder := all.find? (·.symbol == s)

theorem ofSymbol?_symbol (order : SortOrder) : ofSymbol? order.symbol = some order := by
  cases order <;> decide +kernel

end SortOrder

structure SortCriterion where
  field : String
  order : SortOrder := .asc
deriving DecidableEq, Repr

namespace SortCriterion

/-- The request key for the field of a criterion. -/
def byKey : String := "sortBy"

/-- The request key for the direction of a criterion. -/
def orderKey : String := "sortOrder"

end SortCriterion
end QueryBinding
