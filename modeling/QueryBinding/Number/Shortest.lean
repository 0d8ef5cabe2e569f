import QueryBinding.Number.Binary64
import QueryBinding.Number.Numeral
/-!
The shortest decimal text of a binary floating-point number: the fewest digits that read back as
the number, and of those the nearest to it. Magnitudes from `10^-4` to below `10^16` are written
positionally, the others with an exponent.
-/
namespace QueryBinding.Binary64

/-- A positive magnitude and the open interval that rounds to it, in quarter units of its last
place: `low < value < high`, each times `num / den`. The ends belong to it if `closed`. -/
structure Neighbourhood where
  value : Nat
  low : Nat
  high : Nat
  closed : Bool
  num : Nat
  den : Nat

def Neighbourhood.of (significand : Nat) (exponent : Int) : Neighbourhood :=
  let shift := min (precision - bitLength significand) (exponent - leastExponent).toNat
  let full := significand * Nat.pow 2 shift
  let smallest := full = Nat.pow 2 (precision - 1) ∧ leastExponent < exponent - shift
  let (num, den) := scaled 2 (exponent - shift - 2) 1 1
  { value := 4 * full
    low := if smallest then 4 * full - 1 else 4 * full - 2
    high := 4 * full + 2
    closed := full % 2 = 0
    num, den }

/-- The power of ten just above `num / den`: it lies in `[10^(k-1), 10^k)`. -/
def decimalExponent (num den : Nat) : Int :=
  let guess : Int := (Numeral.digits num).length - (Numeral.digits den).length
  let (n, d) := scaled 10 (-guess) num den
  if d ≤ n then guess + 1 else guess

/-- Of the two multiples of `10^step` around the value, the nearer that lies in the interval. -/
def Neighbourhood.onGrid? (v : Neighbourhood) (step : Int) : Option Nat :=
  let (num, den) := scaled 10 (-step) v.num v.den
  let inside (c : Nat) : Bool :=
    if v.closed then v.low * num ≤ c * den && c * den ≤ v.high * num
    else v.low * num < c * den && c * den < v.high * num
  let below := v.value * num / den
  let above := below + 1
  let nearest := roundDiv (v.value * num) den
  if inside nearest then some nearest
  else if inside below then some below
  else if inside above then some above
  else none

/-- The digits and the decimal exponent `k` of the shortest decimal `0.digits · 10^k`, trying from
`count` digits on; `tries` more counts may be tried. -/
def shortestFrom (v : Neighbourhood) (k : Int) (count : Nat) : (tries : Nat) → List Char × Int
  | 0 => (Numeral.digits (roundDiv (v.value * v.num) v.den), k)
  | tries + 1 =>
    match v.onGrid? (k - count) with
    | some c =>
      let digits := Numeral.digits c
      (digits, k + (digits.length - count : Int))
    | none => shortestFrom v k (count + 1) tries

/-- `digits` without trailing zeros, and `k` with `0.digits · 10^k` the shortest decimal. -/
def shortest (significand : Nat) (exponent : Int) : List Char × Int :=
  let v := Neighbourhood.of significand exponent
  let (digits, k) := shortestFrom v (decimalExponent (v.value * v.num) v.den) 1 17
  ((digits.reverse.dropWhile (· == '0')).reverse, k)

/-- `0.digits · 10^k` without an exponent, with at least one digit on either side of the point. -/
def positional (digits : List Char) (k : Int) : List Char :=
  if k ≤ 0 then '0' :: '.' :: (List.replicate (-k).toNat '0' ++ digits)
  else
    let whole := digits.take k.toNat ++ List.replicate (k.toNat - digits.length) '0'
    let fraction := digits.drop k.toNat
    whole ++ '.' :: (if fraction.isEmpty then ['0'] else fraction)

/-- `0.digits · 10^k` with one digit before the point and an exponent of at least two digits. -/
def scientific (digits : List Char) (k : Int) : List Char :=
  let exponent := k - 1
  let power := Numeral.digits exponent.natAbs
  let sign := if exponent < 0 then '-' else '+'
  digits.take 1 ++ (if digits.length ≤ 1 then [] else '.' :: digits.drop 1) ++
    'e' :: sign :: (List.replicate (2 - power.length) '0' ++ power)

/-- The text of a number. -/
def text : Binary64 → String
  | nan => "nan"
  | infinite negative => if negative then "-inf" else "inf"
  | finite negative significand exponent =>
    let magnitude :=
      if significand = 0 then "0.0".toList
      else
        let (digits, k) := shortest significand exponent
        if -4 < k ∧ k ≤ 16 then positional digits k else scientific digits k
    String.ofList (if negative then '-' :: magnitude else magnitude)

example : (ofDecimal false 123456789 (-3)).text = "123456.789" := by decide +kernel
example : (ofDecimal true 10000000000000000 (-1)).text = "-1000000000000000.0" := by decide +kernel
example : (ofDecimal false 1 (-5)).text = "1e-05" := by decide +kernel

end QueryBinding.Binary64
