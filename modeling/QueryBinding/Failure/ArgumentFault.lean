import QueryBinding.Datum.Text
/-!
Numbers of arguments that a callee does not take, each with its wording. What the callee itself
counts as its first argument is counted only where a bound of its own is named.
-/
namespace QueryBinding

inductive ArgumentFault where
  /-- Too many arguments. -/
  | surplus (callee : String) (allowed given : Nat)
  /-- Too many arguments, where some may be left out. -/
  | surplusOf (callee : String) (least most given : Nat)
  | missing (callee : String) (names : List String)
  /-- Not the expected number of arguments, told with what goes before it. -/
  | unexpected (before : String) (expected given : Nat)
  | notNone (callee : String) (given : Nat)
  | notOne (callee : String) (given : Nat)
  | notSome (callee : String) (given : Nat)
deriving DecidableEq, Repr

namespace ArgumentFault

open Datum (countText)

/-- What is wrong with a number of arguments that is not that of `names`. -/
def ofCount (callee : String) (names : List String) (given : Nat) : ArgumentFault :=
  if given < names.length then missing callee (names.drop given)
  else surplus callee (names.length + 1) (given + 1)

/-- A word for a thing that is there `n` times. -/
def counted (n : Nat) (word : String) : String := if n = 1 then word else word ++ "s"

/-- Quoted names, of which the last follows a comma and an `and`. -/
def series : List String → String
  | [] => ""
  | [last] => "and '" ++ last ++ "'"
  | first :: rest => "'" ++ first ++ "', " ++ series rest

/-- One, two or more names in quotes. -/
def enumeration : List String → String
  | [] => ""
  | [name] => "'" ++ name ++ "'"
  | [first, last] => "'" ++ first ++ "' and '" ++ last ++ "'"
  | names => series names

def message : ArgumentFault → String
  | surplus callee allowed given =>
    callee ++ " takes " ++ countText allowed ++ " positional " ++ counted allowed "argument" ++
      " but " ++ countText given ++ " were given"
  | surplusOf callee least most given =>
    callee ++ " takes from " ++ countText least ++ " to " ++ countText most ++
      " positional arguments but " ++ countText given ++ " were given"
  | missing callee names =>
    callee ++ " missing " ++ countText names.length ++ " required positional " ++
      counted names.length "argument" ++ ": " ++ enumeration names
  | unexpected before expected given =>
    before ++ countText expected ++ " " ++ counted expected "argument" ++ ", got " ++
      countText given
  | notNone callee given => callee ++ " takes no arguments (" ++ countText given ++ " given)"
  | notOne callee given =>
    callee ++ " takes exactly one argument (" ++ countText given ++ " given)"
  | notSome callee given =>
    callee ++ " takes at least 1 argument (" ++ countText given ++ " given)"

end ArgumentFault
end QueryBinding
