import QueryBinding.Failure.Cause
import QueryBinding.Failure.Kind
import QueryBinding.Failure.TypeFault
/-!
Failures: why a request, a query or a call on the engine did not succeed. Each cause is a value of
its own; `kind` places it in a tree of kinds, of which callers catch a branch, and `message` says
it in words.
-/
namespace QueryBinding

inductive Failure where
  | invalidRequest (fault : RequestFault)
  | conversion (value : Datum) (reason : Reason)
  | binding (parameter : String) (value : Datum) (reason : Reason)
  /-- Results cannot be ordered by a field. -/
  | sortField (field queryType : String)
  | engineExecution (reason : String)
  /-- A value is not of the type `subject`. -/
  | validation (subject : String) (issues : Issues)
  /-- A numeral has too many digits. -/
  | digitLimit (digits : Nat)
  | duplicateParameter (name : String)
  | duplicateField (field : String)
  | undeclaredField (queryType parameter field : String)
  | misuse (fault : TypeFault)
  /-- Settings cannot be looked for. -/
  | source (fault : SourceFault)
  /-- A value of so many parts should be a pair. -/
  | notPair (parts : Nat)
  | unknownKey (key : String)
  /-- The first of several values was asked for where there is none. -/
  | noValue
  | unknownMember (name : String)
  /-- A value of a type has no such attribute. -/
  | noAttribute (type name : String)
  /-- A type has no such attribute. -/
  | noTypeAttribute (type name : String)
  /-- An attribute of the objects of a type cannot be changed. -/
  | fixedAttribute (type name : String)
  /-- The last item was asked for where there is none. -/
  | noItem
  /-- An entry was asked for where there is none. -/
  | noEntries
  /-- A name cannot be that of a type. -/
  | typeName
  /-- A name cannot be that of a field. -/
  | reservedField (name : String)
  /-- An integer is larger than every floating-point number. -/
  | overflow
  | unknownLogLevel (name : String)
  /-- A value names no direction to order results in. -/
  | unknownDirection (value : Datum)
  | unmetExpectation (description : String)
  /-- A failure from outside, with the arguments that it was raised with. -/
  | raised (kind : RaisedKind) (arguments : List Datum)
deriving Repr

namespace Failure

/-- The most digits that a numeral in a request parameter may have. -/
def largestDigitCount : Nat := 4300

def kind : Failure → FailureKind
  | invalidRequest _ => .invalidRequest
  | conversion .. => .conversion
  | binding .. => .binding
  | sortField .. => .sortField
  | engineExecution _ => .engineExecution
  | validation .. => .validation
  | digitLimit _ | duplicateParameter _ | duplicateField _ | notPair _ | unknownDirection _
  | typeName => .value
  | source _ => .source
  | undeclaredField .. | misuse _ => .type
  | unknownKey _ | noEntries => .key
  | noValue | noItem => .index
  | unknownMember _ | noAttribute .. | noTypeAttribute .. | fixedAttribute ..
  | unknownLogLevel _ => .member
  | reservedField _ => .declaration
  | overflow => .overflow
  | unmetExpectation _ => .assertion
  | raised k _ => k.kind

/-- The failure of a kind with the given arguments, if it can be raised with so many. -/
def raise (kind : RaisedKind) (arguments : List Datum) : Except Failure Failure :=
  match kind.arguments? with
  | none => .ok (raised kind arguments)
  | some names =>
    if arguments.length = names.length then .ok (raised kind arguments)
    else
      let callee := kind.kind.name ++ ".__init__()"
      .error (misuse (.arguments (.ofCount callee names arguments.length)))

/-- The value that was read, or the failure to read a value of the type `subject`. -/
def ofReading (subject : String) : Reading α → Except Failure α
  | .ok a => .ok a
  | .error issues => .error (validation subject issues)

/-- Whether a failure is of a kind or of a kind inside it. -/
def isA (failure : Failure) (k : FailureKind) : Bool := failure.kind.isA k

def conversionMessage (value reason : String) : String :=
  "Cannot convert value '" ++ value ++ "': " ++ reason

def bindingMessage (parameter value reason : String) : String :=
  "Cannot set query parameter '" ++ parameter ++ "' to value '" ++ value ++ "': " ++ reason

def sortFieldMessage (field queryType : String) : String :=
  "sortBy parameter has invalid value '" ++ field ++ "' for " ++ queryType

def executionMessage (reason : String) : String := "Query engine rejected the query: " ++ reason

def reservedFieldMessage (name : String) : String :=
  "`" ++ name ++ "` cannot be used as a model field name. Use `" ++ name ++
    "` for model configuration.\n\nFor further information visit https:" ++
    "//errors.pydantic.dev/2.14/u/model-config-invalid-field-name"

/-- The message of a failure from outside. -/
def raisedMessage : RaisedKind → List Datum → String
  | _, [] => ""
  | .conversion, [value, reason] => conversionMessage value.display reason.display
  | .binding, [parameter, value, reason] =>
    bindingMessage parameter.display value.display reason.display
  | .sortField, [field, queryType] => sortFieldMessage field.display queryType.display
  | .engineExecution, [reason] => executionMessage reason.display
  | .key, [key] => key.literal
  | _, [text] => text.display
  | _, arguments => Datum.tupleText arguments

def message : Failure → String
  | invalidRequest fault => fault.message
  | conversion value reason => conversionMessage value.display reason.message
  | binding parameter value reason => bindingMessage parameter value.display reason.message
  | sortField field queryType => sortFieldMessage field queryType
  | engineExecution reason => executionMessage reason
  | validation subject issues => issues.summary subject
  | digitLimit digits =>
    "Exceeds the limit (" ++ Datum.countText largestDigitCount ++
      " digits) for integer string conversion: value has " ++ Datum.countText digits ++
      " digits; use sys.set_int_max_str_digits() to increase the limit"
  | duplicateParameter name => "Duplicate parameter name '" ++ name ++ "'"
  | duplicateField field => "Duplicate target field '" ++ field ++ "'"
  | undeclaredField queryType parameter field =>
    queryType ++ ": parameter '" ++ parameter ++ "' targets unknown field '" ++ field ++ "'"
  | misuse fault => fault.message
  | source fault => fault.message
  | notPair parts =>
    if parts < 2 then
      "not enough values to unpack (expected 2, got " ++ Datum.countText parts ++ ")"
    else "too many values to unpack (expected 2)"
  | unknownKey key => Text.quoted key
  | noValue => "list index out of range"
  | unknownMember name => name
  | noAttribute type name => "'" ++ type ++ "' object has no attribute '" ++ name ++ "'"
  | noTypeAttribute type name => "type object '" ++ type ++ "' has no attribute '" ++ name ++ "'"
  | fixedAttribute type name =>
    "attribute '" ++ name ++ "' of '" ++ type ++ "' objects is not writable"
  | noItem => "pop from empty list"
  | noEntries => Text.quoted "popitem(): dictionary is empty"
  | typeName => "type name must not contain null characters"
  | reservedField name => reservedFieldMessage name
  | overflow => "int too large to convert to float"
  | unknownLogLevel name => "module 'logging' has no attribute '" ++ name ++ "'"
  | unknownDirection value => value.literal ++ " is not a valid SortOrder"
  | unmetExpectation description => "Expectation not met: " ++ description
  | raised kind arguments => raisedMessage kind arguments

/-- The message of a failure, and below it everything that is wrong with a value. -/
def text : Failure → String
  | validation subject issues => issues.report subject
  | failure => failure.message

/-- What a failure tells about itself, by name. -/
def details : Failure → List (String × Datum)
  | conversion value reason => [("value", value), ("reason", .text reason.message)]
  | binding parameter value reason =>
    [("parameter", .text parameter), ("value", value), ("reason", .text reason.message)]
  | sortField field queryType => [("field", .text field), ("query_type", .text queryType)]
  | engineExecution reason => [("reason", .text reason)]
  | raised .conversion [value, reason] => [("value", value), ("reason", reason)]
  | raised .binding [parameter, value, reason] =>
    [("parameter", parameter), ("value", value), ("reason", reason)]
  | raised .sortField [field, queryType] => [("field", field), ("query_type", queryType)]
  | raised .engineExecution [reason] => [("reason", reason)]
  | _ => []

end Failure
end QueryBinding
