import QueryBinding.Failure
import QueryBinding.Text.Pieces
/-!
ULIDs: identifiers of 26 digits in base 32. Their alphabet has no `I`, `L`, `O` and `U`; lower-case
letters are read like upper-case ones, and upper case is written. The first digit is at most seven,
because an identifier has 128 bits.
-/
namespace QueryBinding

structure Ulid where
  digits : List (Fin 32)
  length_eq : digits.length = 26
  head_le : ∀ d ∈ digits.head?, d.val ≤ 7
deriving DecidableEq, Repr

namespace Ulid

def alphabet : List Char :=
  ['0', '1', '2', '3', '4', '5', '6', '7', '8', '9', 'A', 'B', 'C', 'D', 'E', 'F',
    'G', 'H', 'J', 'K', 'M', 'N', 'P', 'Q', 'R', 'S', 'T', 'V', 'W', 'X', 'Y', 'Z']

def writeDigit (d : Fin 32) : Char := alphabet.get d

/-- The digit that a character stands for, in either case. -/
def readDigit? (c : Char) : Option (Fin 32) :=
  (List.finRange 32).find? fun d => writeDigit d == c.toUpper

theorem readDigit?_writeDigit (d : Fin 32) : readDigit? (writeDigit d) = some d := by
  revert d
  decide +kernel

def write (u : Ulid) : List Char := u.digits.map writeDigit

def read? (cs : List Char) : Option Ulid := do
  let digits ← cs.mapM readDigit?
  if h : digits.length = 26 ∧ ∀ d ∈ digits.head?, d.val ≤ 7 then
    some ⟨digits, h.1, h.2⟩
  else none

/-- The identifier that a request header continues, or none if the header is absent or blank and a
new operation begins. -/
def ofHeader : Option String → Except Failure (Option Ulid)
  | none => .ok none
  | some s =>
    let text := Text.trim s.toList
    if text.isEmpty then .ok none
    else
      match read? text with
      | some u => .ok (some u)
      | none => .error (.invalidRequest (.correlationId s))

end Ulid
end QueryBinding
