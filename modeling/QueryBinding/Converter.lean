import QueryBinding.Failure
import QueryBinding.Text.Pieces
import QueryBinding.Validation.FieldType
/-!
Converters from the text of a request parameter to a typed value. A converter reads one text, or
all texts of a parameter that was given several times.
-/
namespace QueryBinding

structure Converter where
  /-- The name that the converter is known by. -/
  kind : String
  convert : String → Except Failure Datum
  convertAll : List String → Except Failure Datum

namespace Converter

/-- A text is refused for a reason. -/
def refuse (s : String) (reason : Reason) : Except Failure α :=
  .error (.conversion (.text s) reason)

/-! ### Reading one text -/

/-- Exactly `true` or `false`. -/
def readFlagWord (s : String) : Except Failure Bool :=
  if s = "true" then .ok true
  else if s = "false" then .ok false
  else refuse s .flagWord

/-- ASCII digits after an optional sign. -/
def readNumeral (s : String) : Except Failure Int :=
  let (negative, digits) := Numeral.splitSign s.toList
  if !Numeral.isDigits digits then refuse s .integer
  else if Failure.largestDigitCount < digits.length then .error (.digitLimit digits.length)
  else .ok (Numeral.signed negative (Numeral.value digits))

/-- An ISO 8601 text. One that does not begin like a calendar day is refused, so that numbers are
not taken for unix time. -/
def readIsoText (s : String) : Except Failure Moment :=
  if (IsoText.dayNumbers? s.toList).isNone then refuse s .moment
  else
    match readMomentText s with
    | .ok moment => .ok moment
    | .error _ => refuse s .moment

def comma : Text.Separator := ⟨',', []⟩

/-- A filter written `name_operator_value`; the value may hold underscores, the name may not. -/
def readVariable (cs : List Char) : Except Reason VariableFilter :=
  let name := cs.takeWhile (· != '_')
  match cs.dropWhile (· != '_') with
  | [] => .error .variableFormat
  | _ :: rest =>
    let word := rest.takeWhile (· != '_')
    match rest.dropWhile (· != '_') with
    | [] => .error .variableFormat
    | _ :: value =>
      if name.isEmpty then .error .variableFormat
      else
        match VariableOperator.ofSymbol? (String.ofList word) with
        | some operator => .ok ⟨String.ofList name, operator, String.ofList value⟩
        | none => .error (.variableOperator (String.ofList word))

/-- Filters with commas between them and blanks around them. -/
def readVariables (s : String) : Except Failure (List VariableFilter) :=
  match (Text.split comma s.toList).mapM (readVariable ∘ Text.trim) with
  | .ok filters => .ok filters
  | .error reason => refuse s reason

/-! ### Converters -/

/-- A converter that reads each of several texts by itself. -/
def ofScalar (kind : String) (read : String → Except Failure Datum) : Converter where
  kind
  convert := read
  convertAll texts := (texts.mapM read).map .list

def string : Converter := ofScalar "string" fun s => .ok (.text s)

def boolean : Converter := ofScalar "boolean" fun s => (readFlagWord s).map .flag

def integer : Converter := ofScalar "integer" fun s => (readNumeral s).map .number

def date : Converter := ofScalar "date" fun s => (readIsoText s).map .moment

/-- Every text between two given ones. -/
def enclosed (kind before after : String) : Converter :=
  ofScalar kind fun s => .ok (.text (before ++ s ++ after))

def ofTexts (items : List String) : Datum := .list (items.map .text)

/-- The items of a text, and of several texts in order. -/
def separatedList (kind : String) (sep : Text.Separator) : Converter where
  kind
  convert s := .ok (ofTexts (Text.items sep s))
  convertAll texts := .ok (ofTexts (Text.itemsOfAll sep texts))

/-- Like `separatedList`, but of equal items only the first is kept. -/
def separatedSet (kind : String) (sep : Text.Separator) : Converter where
  kind
  convert s := .ok (ofTexts (Text.items sep s).eraseDups)
  convertAll texts := .ok (ofTexts (texts.flatMap fun s => (Text.items sep s).eraseDups).eraseDups)

def stringList : Converter := separatedList "string-list" comma

def stringSet : Converter := separatedSet "string-set" comma

def ofFilters (filters : List VariableFilter) : Datum := .list (filters.map .filter)

def variableList : Converter where
  kind := "variable-list"
  convert s := (readVariables s).map ofFilters
  convertAll texts := (texts.mapM readVariables).map fun filters => ofFilters filters.flatten

end Converter
end QueryBinding
