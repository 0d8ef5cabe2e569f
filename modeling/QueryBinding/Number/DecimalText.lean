import QueryBinding.Number.Binary64
import QueryBinding.Number.Numeral
/-!
Numbers written in decimal: an optional sign, digits with perhaps a point before, among or after
them, and perhaps an exponent.
-/
namespace QueryBinding

structure DecimalText where
  negative : Bool
  /-- The digits before the point. -/
  whole : List Char
  /-- The digits after the point, if there is one. -/
  fraction : Option (List Char)
  /-- The power of ten that the number is multiplied by, if it is written. -/
  exponent : Option Int
deriving DecidableEq, Repr

namespace DecimalText

/-- The exponent that ends a text; it may be missing. -/
def exponent? : List Char → Option (Option Int)
  | [] => some none
  | c :: cs =>
    let (negative, digits) := Numeral.splitSign cs
    if (c = 'e' ∨ c = 'E') ∧ Numeral.isDigits digits then
      some (some (Numeral.signed negative (Numeral.value digits)))
    else none

/-- The parts of a text that is a decimal number. -/
def read? (cs : List Char) : Option DecimalText := do
  let (negative, cs) := Numeral.splitSign cs
  let whole := cs.takeWhile Char.isDigit
  let (fraction, rest) :=
    match cs.dropWhile Char.isDigit with
    | '.' :: cs => (some (cs.takeWhile Char.isDigit), cs.dropWhile Char.isDigit)
    | cs => (none, cs)
  if whole.isEmpty && (fraction.getD []).isEmpty then none
  else return ⟨negative, whole, fraction, ← exponent? rest⟩

/-- Whether a number is written as an integer: without a point and without an exponent. -/
def isInteger (text : DecimalText) : Bool := text.fraction.isNone && text.exponent.isNone

/-- The part before the point as an integer. -/
def wholeValue (text : DecimalText) : Int :=
  Numeral.signed text.negative (Numeral.value text.whole)

/-- The nearest floating-point number. -/
def toBinary64 (text : DecimalText) : Binary64 :=
  let fraction := text.fraction.getD []
  .ofDecimal text.negative (Numeral.value (text.whole ++ fraction))
    (text.exponent.getD 0 - fraction.length)

example : (read? "-12.50".toList).map toBinary64 = some (.finite true 25 (-1)) := by
  decide +kernel
example : (read? ".5e1".toList).map toBinary64 = some (.finite false 5 0) := by decide +kernel
example : read? ".".toList = none := by decide +kernel

end DecimalText
end QueryBinding
