/-!
Decimal numerals: reading runs of ASCII digits, and writing integers in full.
-/
namespace QueryBinding.Numeral

/-- The number that a run of digits denotes; leading zeros are allowed. -/
def value (digits : List Char) : Nat := Nat.ofDigitChars 10 digits 0

/-- The digits of `n` without leading zeros; zero has one digit. -/
def digits (n : Nat) : List Char := Nat.toDigits 10 n

/-- The last `width` digits of `n`, with leading zeros. -/
def padded : (width n : Nat) → List Char
  | 0, _ => []
  | width + 1, n => padded width (n / 10) ++ [Nat.digitChar (n % 10)]

/-- An integer in full, with a minus sign if it is negative. -/
def ofInt : Int → List Char
  | .ofNat n => digits n
  | .negSucc n => '-' :: digits (n + 1)

/-- A nonempty text of digits only. -/
def isDigits (cs : List Char) : Bool := !cs.isEmpty && cs.all Char.isDigit

/-- The sign of a numeral (`true` for a minus) and what follows it. -/
def splitSign : List Char → Bool × List Char
  | '-' :: cs => (true, cs)
  | '+' :: cs => (false, cs)
  | cs => (false, cs)

/-- The integer with the given sign and magnitude. -/
def signed (negative : Bool) (magnitude : Nat) : Int :=
  if negative then -(magnitude : Int) else magnitude

theorem value_digits (n : Nat) : value (digits n) = n :=
  Nat.ofDigitChars_toDigits (by decide) (by decide)

example : value "0042".toList = 42 ∧ padded 3 7 = "007".toList ∧ ofInt (-5) = "-5".toList := by
  decide +kernel

end QueryBinding.Numeral
