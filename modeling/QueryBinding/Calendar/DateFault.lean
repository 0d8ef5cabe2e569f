import QueryBinding.Calendar.IsoText
import QueryBinding.Calendar.UnixTime
/-!
What is wrong with a text that should be a calendar day and is none: the first fault that reading
it from the left as `YYYY-MM-DD` meets.
-/
namespace QueryBinding

inductive DateFault where
  | tooShort
  | year
  | separator
  | month
  | day
  | monthRange
  | dayRange
  | extra
  /-- The text is a number, but the moment that it counts to is out of range. -/
  | unixTime (fault : MomentFault)
deriving DecidableEq, Repr

namespace DateFault

def message : DateFault → String
  | tooShort => "input is too short"
  | year => "invalid character in year"
  | separator => "invalid date separator, expected \x60-\x60"
  | month => "invalid character in month"
  | day => "invalid character in day"
  | monthRange => "month value is outside expected range of 1-12"
  | dayRange => "day value is outside expected range"
  | extra => "unexpected extra characters at the end of the input"
  | unixTime fault => fault.message

/-- A step that must succeed, or else the fault is the given one. -/
def must (fault : DateFault) : Option α → Except DateFault α
  | some a => .ok a
  | none => .error fault

/-- Nothing, if a text begins with a calendar day, or else its first fault. -/
def checkDay (cs : List Char) : Except DateFault Unit := do
  if (String.ofList cs).utf8ByteSize < 10 then throw tooShort
  let (y, cs) ← must year (IsoText.digits? 4 cs)
  let cs ← must separator (IsoText.after? '-' cs)
  let (m, cs) ← must month (IsoText.digits? 2 cs)
  let cs ← must separator (IsoText.after? '-' cs)
  let (d, _) ← must day (IsoText.digits? 2 cs)
  if m = 0 ∨ 12 < m then throw monthRange
  if d = 0 ∨ daysInMonth y m < d then throw dayRange

/-- The first fault of a text that is no calendar day; a day at its front is followed by more. -/
def of (cs : List Char) : DateFault :=
  match checkDay cs with
  | .error fault => fault
  | .ok () => extra

end DateFault
end QueryBinding
