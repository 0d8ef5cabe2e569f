/-!
Binary floating-point numbers with 53 significant bits, as exact values: a sign, a significand and
a power of two. A decimal is read by rounding it to the nearest such number, a tie to the even one.
-/
namespace QueryBinding

/-- `(-1)^negative · significand · 2^exponent`, an infinity, or what is not a number. Values are
kept reduced: the significand is odd, or it and the exponent are zero. -/
inductive Binary64 where
  | finite (negative : Bool) (significand : Nat) (exponent : Int)
  | infinite (negative : Bool)
  | nan
deriving DecidableEq, Repr

namespace Binary64

/-- Significant bits of a number. -/
def precision : Nat := 53

/-- The least exponent of a significand of full precision. -/
def leastExponent : Int := -1074

/-- Every finite magnitude is below two to this power. -/
def exponentLimit : Int := 1024

/-- The number of binary digits of `n`. -/
def bitLength (n : Nat) : Nat := if n = 0 then 0 else n.log2 + 1

/-- The same value with an odd significand. -/
def reduce (significand : Nat) (exponent : Int) : Nat × Int :=
  if h : significand = 0 then (0, 0)
  else if significand % 2 = 0 then reduce (significand / 2) (exponent + 1)
  else (significand, exponent)
termination_by significand
decreasing_by omega

/-- The integer nearest to `num / den`, a half to the even one. -/
def roundDiv (num den : Nat) : Nat :=
  let floor := num / den
  let twice := 2 * (num % den)
  if twice < den then floor
  else if den < twice then floor + 1
  else if floor % 2 = 0 then floor else floor + 1

/-- `num / den · base^exponent` as a fraction of naturals. -/
def scaled (base : Nat) (exponent : Int) (num den : Nat) : Nat × Nat :=
  if 0 ≤ exponent then (num * Nat.pow base exponent.toNat, den)
  else (num, den * Nat.pow base (-exponent).toNat)

/-- The exponent at which `num / den` has a significand of full precision. -/
def exponentFor (num den : Nat) : Int :=
  let guess : Int := (bitLength num : Int) - bitLength den - precision
  let (n, d) := scaled 2 (-guess) num den
  max (if precision < bitLength (n / d) then guess + 1 else guess) leastExponent

/-- The significand and the exponent of the number nearest to `num / den`, not reduced. -/
def nearest (num den : Nat) : Nat × Int :=
  let exponent := exponentFor num den
  let (n, d) := scaled 2 (-exponent) num den
  (roundDiv n d, exponent)

/-- The number nearest to `num / den`, as a fraction. -/
def nearestFraction (num den : Nat) : Nat × Nat :=
  let (significand, exponent) := nearest num den
  scaled 2 exponent significand 1

/-- The number nearest to `±num / den`. -/
def ofRatio (negative : Bool) (num den : Nat) : Binary64 :=
  let (significand, exponent) := nearest num den
  let (significand, exponent) := reduce significand exponent
  if exponentLimit < bitLength significand + exponent then infinite negative
  else finite negative significand exponent

/-- From this power of ten on every magnitude is too large. -/
def largestPower : Int := 310

/-- Magnitudes below this power of ten are nearest to zero. -/
def leastPower : Int := -330

/-- The number nearest to `±digits · 10^exponent`. -/
def ofDecimal (negative : Bool) (digits : Nat) (exponent : Int) : Binary64 :=
  if digits = 0 ∨ bitLength digits + exponent < leastPower then finite negative 0 0
  else if largestPower ≤ exponent then infinite negative
  else
    let (num, den) := scaled 10 exponent digits 1
    ofRatio negative num den

def ofInt (n : Int) : Binary64 := ofRatio (n < 0) n.natAbs 1

/-- The integer that a number equals, if there is one. -/
def integer? : Binary64 → Option Int
  | finite negative significand exponent =>
    if 0 ≤ exponent then
      let magnitude := significand * Nat.pow 2 exponent.toNat
      some (if negative then -(magnitude : Int) else magnitude)
    else none
  | infinite _ | nan => none

def isFinite : Binary64 → Bool
  | finite .. => true
  | infinite _ | nan => false

/-- Equality of numbers; what is not a number equals nothing. -/
def agrees (x y : Binary64) : Bool := x != nan && x == y

example : ofDecimal true 25 (-1) = finite true 5 (-1) := by decide +kernel
example : (ofDecimal false 70 (-1)).integer? = some 7 := by decide +kernel
example : ofDecimal false 1 (-1) = finite false 3602879701896397 (-55) := by decide +kernel
example : ofDecimal true 0 (-1) = finite true 0 0 := by decide +kernel

end Binary64
end QueryBinding
