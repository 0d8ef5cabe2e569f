/-!
Kinds of failure: a tree, of which callers catch a branch. `lineage` leads from a kind to the root.
-/
namespace QueryBinding

/-- The kinds of failure, from the root of the tree to its leaves. -/
inductive FailureKind where
  | any
  | service
  | invalidRequest
  | conversion
  | binding
  | sortField
  | engineExecution
  | notFound
  | engine
  | engineUnavailable
  | runtime
  | engineRejected
  | declaration
  | value
  | validation
  | source
  | lookup
  | key
  | index
  | type
  | member
  | assertion
  | arithmetic
  | overflow
deriving DecidableEq, Repr

namespace FailureKind

def all : List FailureKind :=
  [any, service, invalidRequest, conversion, binding, sortField, engineExecution, notFound, engine,
    engineUnavailable, runtime, engineRejected, declaration, value, validation, source, lookup, key,
    index, type, member, assertion, arithmetic, overflow]

/-- A kind and the kinds that contain it, up to the root. -/
def lineage : FailureKind → List FailureKind
  | any => [any]
  | service => [service, any]
  | invalidRequest => [invalidRequest, service, any]
  | conversion => [conversion, invalidRequest, service, any]
  | binding => [binding, conversion, invalidRequest, service, any]
  | sortField => [sortField, invalidRequest, service, any]
  | engineExecution => [engineExecution, invalidRequest, service, any]
  | notFound => [notFound, service, any]
  | engine => [engine, any]
  | engineUnavailable => [engineUnavailable, engine, any]
  | runtime => [runtime, any]
  | engineRejected => [engineRejected, runtime, any]
  | declaration => [declaration, runtime, any]
  | value => [value, any]
  | validation => [validation, value, any]
  | source => [source, value, any]
  | lookup => [lookup, any]
  | key => [key, lookup, any]
  | index => [index, lookup, any]
  | type => [type, any]
  | member => [member, any]
  | assertion => [assertion, any]
  | arithmetic => [arithmetic, any]
  | overflow => [overflow, arithmetic, any]

def isA (k ancestor : FailureKind) : Bool := k.lineage.contains ancestor

/-- The name of a kind in log records and messages. -/
def name : FailureKind → String
  | any => "Exception"
  | service => "SieveError"
  | invalidRequest => "InvalidRequestError"
  | conversion => "ConversionError"
  | binding => "BindingError"
  | sortField => "SortValidationError"
  | engineExecution => "EngineExecutionError"
  | notFound => "NotFoundError"
  | engine => "QueryEngineError"
  | engineUnavailable => "EngineUnavailable"
  | runtime => "RuntimeError"
  | engineRejected => "EngineRejected"
  | declaration => "PydanticUserError"
  | value => "ValueError"
  | validation => "ValidationError"
  | source => "SettingsError"
  | lookup => "LookupError"
  | key => "KeyError"
  | index => "IndexError"
  | type => "TypeError"
  | member => "AttributeError"
  | assertion => "AssertionError"
  | arithmetic => "ArithmeticError"
  | overflow => "OverflowError"

def ofName? (s : String) : Option FailureKind := all.find? (·.name == s)

end FailureKind

/-- The kinds of failure that collaborators can raise. -/
inductive RaisedKind where
  | service
  | invalidRequest
  | conversion
  | binding
  | sortField
  | engineExecution
  | notFound
  | engine
  | engineUnavailable
  | runtime
  | engineRejected
  | value
  | lookup
  | key
deriving DecidableEq, Repr

namespace RaisedKind

def all : List RaisedKind :=
  [service, invalidRequest, conversion, binding, sortField, engineExecution, notFound, engine,
    engineUnavailable, runtime, engineRejected, value, lookup, key]

def kind : RaisedKind → FailureKind
  | service => .service
  | invalidRequest => .invalidRequest
  | conversion => .conversion
  | binding => .binding
  | sortField => .sortField
  | engineExecution => .engineExecution
  | notFound => .notFound
  | engine => .engine
  | engineUnavailable => .engineUnavailable
  | runtime => .runtime
  | engineRejected => .engineRejected
  | value => .value
  | lookup => .lookup
  | key => .key

def ofName? (s : String) : Option RaisedKind := all.find? (·.kind.name == s)

/-- The names of the arguments that a failure of a kind is raised with, unless these are free. -/
def arguments? : RaisedKind → Option (List String)
  | invalidRequest => some ["message"]
  | conversion => some ["value", "reason"]
  | binding => some ["parameter", "value", "reason"]
  | sortField => some ["field", "query_type"]
  | engineExecution => some ["reason"]
  | _ => none

end RaisedKind

end QueryBinding
