import QueryBinding.Calendar.DateFault
import QueryBinding.Datum.Text
/-!
Issues: what is wrong with a value, where in the input it lies, and the value itself. A reading
either gives a value or all the issues of its input, of which there is at least one, in the order in
which they were met.
-/
namespace QueryBinding

/-- One step from a value to a part of it. -/
inductive PathStep where
  | name (name : String)
  | index (index : Nat)
deriving DecidableEq, Repr

/-- A lower bound on integers. -/
inductive IntBound where
  | atLeast (least : Int)
  | above (bound : Int)
deriving DecidableEq, Repr

namespace IntBound

def Admits : IntBound → Int → Prop
  | atLeast least, n => least ≤ n
  | above bound, n => bound < n

instance (bound : IntBound) (n : Int) : Decidable (bound.Admits n) := by
  cases bound <;> unfold Admits <;> infer_instance

end IntBound

/-- What is wrong with a value. -/
inductive Fault where
  | notText
  | notInteger
  | integerText
  | integerSize
  | integerFraction
  | notFinite
  | outOfBounds (bound : IntBound)
  | notFlag
  | flagText
  | notMoment
  | momentFault (fault : MomentFault)
  | momentText (fault : DateFault)
  | notList
  | notSequence
  | notChoice (options : List String)
  | notRecord (name : String)
  | noAttributes
  | missing
  | unexpected
deriving DecidableEq, Repr

namespace Fault

/-- The short name of a fault. -/
def code : Fault → String
  | notText => "string_type"
  | notInteger => "int_type"
  | integerText => "int_parsing"
  | integerSize => "int_parsing_size"
  | integerFraction => "int_from_float"
  | notFinite => "finite_number"
  | outOfBounds (.atLeast _) => "greater_than_equal"
  | outOfBounds (.above _) => "greater_than"
  | notFlag => "bool_type"
  | flagText => "bool_parsing"
  | notMoment => "datetime_type"
  | momentFault _ => "datetime_parsing"
  | momentText _ => "datetime_from_date_parsing"
  | notList => "list_type"
  | notSequence => "tuple_type"
  | notChoice _ => "enum"
  | notRecord _ => "model_type"
  | noAttributes => "model_attributes_type"
  | missing => "missing"
  | unexpected => "extra_forbidden"

/-- Quoted alternatives, with commas between them and an `or` before the last. -/
def alternatives : List String → String
  | [] => ""
  | [option] => "'" ++ option ++ "'"
  | [first, last] => "'" ++ first ++ "' or '" ++ last ++ "'"
  | first :: rest => "'" ++ first ++ "', " ++ alternatives rest

def message : Fault → String
  | notText => "Input should be a valid string"
  | notInteger => "Input should be a valid integer"
  | integerText => "Input should be a valid integer, unable to parse string as an integer"
  | integerSize => "Unable to parse input string as an integer, exceeded maximum size"
  | integerFraction => "Input should be a valid integer, got a number with a fractional part"
  | notFinite => "Input should be a finite number"
  | outOfBounds (.atLeast least) =>
    "Input should be greater than or equal to " ++ (Datum.number least).display
  | outOfBounds (.above bound) => "Input should be greater than " ++ (Datum.number bound).display
  | notFlag => "Input should be a valid boolean"
  | flagText => "Input should be a valid boolean, unable to interpret input"
  | notMoment => "Input should be a valid datetime"
  | momentFault fault => "Input should be a valid datetime, " ++ fault.message
  | momentText fault => "Input should be a valid datetime or date, " ++ fault.message
  | notList => "Input should be a valid list"
  | notSequence => "Input should be a valid tuple"
  | notChoice options => "Input should be " ++ alternatives options
  | notRecord name => "Input should be a valid dictionary or instance of " ++ name
  | noAttributes => "Input should be a valid dictionary or object to extract fields from"
  | missing => "Field required"
  | unexpected => "Extra inputs are not permitted"

end Fault

structure Issue where
  path : List PathStep
  fault : Fault
  input : Datum
deriving Repr

/-- The same issue of a value that holds the former one a step inside. -/
def Issue.inside (step : PathStep) (issue : Issue) : Issue :=
  { issue with path := step :: issue.path }

/-- Issues in the order in which they were met, at least one. -/
structure Issues where
  first : Issue
  rest : List Issue := []
deriving Repr

namespace Issues

def toList (issues : Issues) : List Issue := issues.first :: issues.rest

def map (f : Issue → Issue) (issues : Issues) : Issues := ⟨f issues.first, issues.rest.map f⟩

instance : Append Issues where
  append issues more := ⟨issues.first, issues.rest ++ more.toList⟩

theorem toList_map (f : Issue → Issue) (issues : Issues) :
    (issues.map f).toList = issues.toList.map f := rfl

theorem toList_append (issues more : Issues) :
    (issues ++ more).toList = issues.toList ++ more.toList := rfl

end Issues

abbrev Reading (α : Type) := Except Issues α

namespace Reading

/-- The value itself is at fault. -/
def refuse (fault : Fault) (input : Datum) : Reading α := .error ⟨⟨[], fault, input⟩, []⟩

/-- The same reading, for a part that lies one step inside the input. -/
def inside (step : PathStep) : Reading α → Reading α
  | .ok a => .ok a
  | .error issues => .error (issues.map (.inside step))

/-- Both values, or the issues of both. -/
def both : Reading α → Reading β → Reading (α × β)
  | .ok a, .ok b => .ok (a, b)
  | .ok _, .error issues => .error issues
  | .error issues, .ok _ => .error issues
  | .error issues, .error more => .error (issues ++ more)

/-- No value at all, if there are no issues. -/
def ofIssues : List Issue → Reading Unit
  | [] => .ok ()
  | first :: rest => .error ⟨first, rest⟩

/-- The values of all elements, or the issues of all that fail. -/
def gather (read : α → Reading β) : List α → Reading (List β)
  | [] => .ok []
  | a :: as => (both (read a) (gather read as)).map fun (b, bs) => b :: bs

end Reading
end QueryBinding
