import QueryBinding.Failure.ArgumentFault
import QueryBinding.Failure.MemberFault
/-!
Type faults: why a value cannot be used in the way that was asked for.
-/
namespace QueryBinding

inductive TypeFault where
  | arguments (fault : ArgumentFault)
  | member (fault : MemberFault)
  | notCallable (type : String)
  | notSpreadable (type : String)
  | notIterable (type : String)
  /-- A value does not consist of parts. -/
  | notUnpackable (type : String)
  /-- A value has no number of items. -/
  | notSized (type : String)
  | notSubscriptable (type : String)
  /-- A value cannot be a key or be looked for in a set. -/
  | notKey (type : String)
  | notAddable (left right : String)
  | notSubtractable (left right : String)
  | notJoinable (left right : String)
  | notIndex
  | notLevel
  | notFailure
  | notPath (type : String)
  | notText (type : String)
  /-- The arguments of a call that go by name are not given as entries. -/
  | notEntries (callee type : String)
  /-- An argument is given by place and by name. -/
  | repeatedArgument (callee name : String)
deriving DecidableEq, Repr

namespace TypeFault

/-- A call that a handle records as messages name it. -/
def recordedName : String :=
  "sieve.testing.recording.RecordingQuery.__getattr__.<locals>.record()"

def message : TypeFault → String
  | arguments fault => fault.message
  | member fault => fault.message
  | notCallable type => "'" ++ type ++ "' object is not callable"
  | notSpreadable type => recordedName ++ " argument after * must be an iterable, not " ++ type
  | notIterable type => "'" ++ type ++ "' object is not iterable"
  | notUnpackable type => "cannot unpack non-iterable " ++ type ++ " object"
  | notSized type => "object of type '" ++ type ++ "' has no len()"
  | notSubscriptable type => "'" ++ type ++ "' object is not subscriptable"
  | notKey type => "unhashable type: '" ++ type ++ "'"
  | notAddable left right =>
    "unsupported operand type(s) for +: '" ++ left ++ "' and '" ++ right ++ "'"
  | notSubtractable left right =>
    "unsupported operand type(s) for -: '" ++ left ++ "' and '" ++ right ++ "'"
  | notJoinable left right =>
    "can only concatenate " ++ left ++ " (not \"" ++ right ++ "\") to " ++ left
  | notIndex => "slice indices must be integers or None or have an __index__ method"
  | notLevel => "level must be an integer"
  | notFailure => "exceptions must derive from BaseException"
  | notPath type => "expected str, bytes or os.PathLike object, not " ++ type
  | notText type => "expected string or bytes-like object, got '" ++ type ++ "'"
  | notEntries callee type => callee ++ " argument after ** must be a mapping, not " ++ type
  | repeatedArgument callee name =>
    callee ++ " got multiple values for argument '" ++ name ++ "'"

end TypeFault
end QueryBinding
