import QueryBinding.Calendar.Moment
import QueryBinding.Number.DecimalText
/-!
Moments as distances from the start of 1970 in UTC. A number counts seconds up to twenty thousand
million in absolute value, and milliseconds beyond. The count reaches from the start of year 0 to
the end of the year 9999, and no moment lies in year 0.
-/
namespace QueryBinding

/-- Why a number, or a day and a time, denote no moment. -/
inductive MomentFault where
  | tooEarly
  | tooLate
  | yearZero
  | notANumber
deriving DecidableEq, Repr

def MomentFault.message : MomentFault → String
  | tooEarly => "dates before 0000 are not supported as unix timestamps"
  | tooLate => "dates after 9999 are not supported as unix timestamps"
  | yearZero => "year 0 is out of range"
  | notANumber => "NaN values not permitted"

namespace UnixTime

/-- The largest absolute value that counts seconds. -/
def largestSeconds : Nat := 20000000000

/-- The microseconds in a second. -/
def perSecond : Nat := 1000000

/-- The microseconds in a millisecond. -/
def perMillisecond : Nat := 1000

/-- The first second of year 0. -/
def firstSecond : Int := -62167219200

/-- The last second of the year 9999. -/
def lastSecond : Int := 253402300799

/-- The day that lies `days` after 1 January 1970. The count starts anew at 1 March of each four
hundredth year, so that leap days come last in every cycle. -/
def date? (days : Int) : Option Date :=
  let shifted := days + 719468
  let cycle := Int.fdiv shifted 146097
  let dayOfCycle := (Int.fmod shifted 146097).toNat
  let yearOfCycle :=
    (dayOfCycle - dayOfCycle / 1460 + dayOfCycle / 36524 - dayOfCycle / 146096) / 365
  let dayOfYear := dayOfCycle - (365 * yearOfCycle + yearOfCycle / 4 - yearOfCycle / 100)
  let monthFromMarch := (5 * dayOfYear + 2) / 153
  let day := dayOfYear - (153 * monthFromMarch + 2) / 5 + 1
  let month := if monthFromMarch < 10 then monthFromMarch + 3 else monthFromMarch - 9
  let year := cycle * 400 + yearOfCycle + (if month ≤ 2 then 1 else 0)
  Date.of? year.toNat month day

/-- The moment `microseconds` after the start of 1970. -/
def ofMicroseconds (microseconds : Int) : Except MomentFault Moment :=
  let second := Int.fdiv microseconds 1000000
  let secondOfDay := (Int.fmod second 86400).toNat
  if second < firstSecond then .error .tooEarly
  else if lastSecond < second then .error .tooLate
  else
    match date? (Int.fdiv second 86400),
      TimeOfDay.of? (secondOfDay / 3600) (secondOfDay / 60 % 60) (secondOfDay % 60)
        (Int.fmod microseconds 1000000).toNat with
    | some date, some time =>
      match Moment.of? date time (some .utc) with
      | some moment => .ok moment
      | none => .error .yearZero
    | _, _ => .error .tooLate

/-- The moment that an integer denotes. -/
def ofInt (n : Int) : Except MomentFault Moment :=
  ofMicroseconds (n * (if n.natAbs ≤ largestSeconds then perSecond else perMillisecond : Nat))

/-- The microseconds in `±num / den` units of `unit` microseconds each. The part of a unit, and its
microseconds, are floating-point numbers; these are rounded to an integer, a half upwards. -/
def microseconds (unit : Nat) (negative : Bool) (num den : Nat) : Int :=
  let value := Numeral.signed negative num
  let (n, d) := Binary64.nearestFraction (Int.fmod value den).toNat den
  let (n, d) := Binary64.nearestFraction (n * unit) d
  Int.fdiv value den * unit + ((2 * n + d) / (2 * d) : Nat)

/-- The moment that a floating-point number denotes. -/
def ofReal : Binary64 → Except MomentFault Moment
  | .nan => .error .notANumber
  | .infinite negative => .error (if negative then .tooEarly else .tooLate)
  | .finite negative significand exponent =>
    let (num, den) := Binary64.scaled 2 exponent significand 1
    let unit := if num ≤ largestSeconds * den then perSecond else perMillisecond
    ofMicroseconds (microseconds unit negative num den)

/-- The decimal number that a text holds. Only a number with a point may have an exponent. -/
def number? (cs : List Char) : Option DecimalText :=
  (DecimalText.read? cs).filter fun text => text.fraction.isSome || text.exponent.isNone

/-- The moment that a decimal number denotes. One with a point is a floating-point number. -/
def ofText (text : DecimalText) : Except MomentFault Moment :=
  if text.isInteger then ofInt text.wholeValue else ofReal text.toBinary64

example : microseconds perMillisecond true 13 4 = -3250 := by decide +kernel
example : microseconds perSecond true 1 2000000 = 0 := by decide +kernel

end UnixTime
end QueryBinding
