import QueryBinding.Calendar.IsoText
import QueryBinding.Datum
import QueryBinding.Number.Shortest
import QueryBinding.Text.Quoted
/-!
The text of a value in messages. A text by itself is shown as it is; inside a list or an object it
is quoted. A filter or a criterion is shown part by part, each part after its name: by itself with
blanks between the parts, inside a list or an object in parentheses after the name of its type.
`tupleText` shows the arguments of a call.
-/
namespace QueryBinding.Datum

/-- Parts with a comma and a space between them. -/
def commaSeparated (parts : List String) : String := String.intercalate ", " parts

/-- The name of the type of a value in messages. -/
def typeName : Datum → String
  | null => "NoneType"
  | flag _ => "bool"
  | number _ => "int"
  | real _ => "float"
  | text _ => "str"
  | moment _ => "datetime.datetime"
  | filter _ => "VariableQueryParameter"
  | criterion _ => "SortCriterion"
  | list _ => "list"
  | object _ => "dict"

/-- One choice of a type, with the word that requests use for it. -/
def choiceText (type name word : String) : String :=
  "<" ++ type ++ "." ++ name ++ ": " ++ Text.quoted word ++ ">"

/-- What a filter or a criterion consists of, each part after its name. -/
def parts : Datum → List String
  | filter v =>
    ["name=" ++ Text.quoted v.name,
      "operator=" ++ choiceText "VariableOperator" v.operator.name v.operator.symbol,
      "value=" ++ Text.quoted v.value]
  | criterion c =>
    ["field=" ++ Text.quoted c.field,
      "order=" ++ choiceText "SortOrder" c.order.name c.order.symbol]
  | _ => []

/-- The parts of a value in parentheses, after the name of its type. -/
def recordText (d : Datum) : String := d.typeName ++ "(" ++ commaSeparated d.parts ++ ")"

mutual

/-- The text of a value with every text in quotes. -/
def literal : Datum → String
  | null => "None"
  | flag true => "True"
  | flag false => "False"
  | number n => String.ofList (Numeral.ofInt n)
  | real x => x.text
  | text s => Text.quoted s
  | moment m => String.ofList (IsoText.write m)
  | filter v => recordText (filter v)
  | criterion c => recordText (criterion c)
  | list items => "[" ++ commaSeparated (literals items) ++ "]"
  | object entries => "\x7b" ++ commaSeparated (entryLiterals entries) ++ "\x7d"

def literals : List Datum → List String
  | [] => []
  | d :: ds => literal d :: literals ds

def entryLiterals : List (String × Datum) → List String
  | [] => []
  | (key, d) :: entries => (Text.quoted key ++ ": " ++ literal d) :: entryLiterals entries

end

/-- The text of a value by itself. -/
def display : Datum → String
  | text s => s
  | filter v => String.intercalate " " (filter v).parts
  | criterion c => String.intercalate " " (criterion c).parts
  | d => d.literal

/-- The text of a count. -/
def countText (n : Nat) : String := (number n).display

/-- Values in parentheses; a single one is followed by a comma. -/
def tupleText : List Datum → String
  | [] => "()"
  | [d] => "(" ++ d.literal ++ ",)"
  | ds => "(" ++ commaSeparated (literals ds) ++ ")"

example : (list [text "a", null, object [("k", flag true)]]).display =
    "['a', None, \x7b'k': True\x7d]" := by decide +kernel

example : (criterion ⟨"a", .desc⟩).display = "field='a' order=<SortOrder.DESC: 'desc'>" ∧
    (list [criterion ⟨"a", .asc⟩]).display =
      "[SortCriterion(field='a', order=<SortOrder.ASC: 'asc'>)]" := by decide +kernel

end QueryBinding.Datum
