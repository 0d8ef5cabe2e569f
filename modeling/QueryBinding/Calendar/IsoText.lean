import QueryBinding.Calendar.Moment
import QueryBinding.Number.Numeral
/-!
The ISO 8601 text of a moment. `write` gives one text for each moment:
`YYYY-MM-DDTHH:MM:SS`, six fraction digits unless they are all zero, and the offset as `+HH:MM`.
`read?` takes more: a day alone means midnight; the day and the time may be parted by `T`, `t`, a
space or `_`; seconds may be left out; a fraction may follow a comma and may have any number of
digits, of which six count; the offset may be `Z`, `z`, or have no colon.
-/
namespace QueryBinding.IsoText

/-! ### Reading -/

/-- A number of exactly `count` digits, and what follows it. -/
def digits? (count : Nat) (cs : List Char) : Option (Nat × List Char) :=
  let front := cs.take count
  if front.length = count ∧ front.all Char.isDigit then
    some (Numeral.value front, cs.drop count)
  else none

/-- What follows the character `c`. -/
def after? (c : Char) : List Char → Option (List Char)
  | [] => none
  | d :: cs => if d = c then some cs else none

/-- `YYYY-MM-DD` as three numbers. -/
def dayNumbers? (cs : List Char) : Option ((Nat × Nat × Nat) × List Char) := do
  let (year, cs) ← digits? 4 cs
  let (month, cs) ← digits? 2 (← after? '-' cs)
  let (day, cs) ← digits? 2 (← after? '-' cs)
  return ((year, month, day), cs)

def date? (cs : List Char) : Option (Date × List Char) := do
  let ((year, month, day), cs) ← dayNumbers? cs
  return (← Date.of? year month day, cs)

/-- The microseconds that fraction digits stand for; digits after the sixth are cut off. -/
def microseconds (digits : List Char) : Nat :=
  Numeral.value ((digits ++ List.replicate 6 '0').take 6)

/-- The fraction after the seconds: nothing, or a point or comma and at least one digit. -/
def fraction? : List Char → Option (Nat × List Char)
  | [] => some (0, [])
  | c :: cs =>
    if c = '.' ∨ c = ',' then
      let digits := cs.takeWhile Char.isDigit
      if digits.isEmpty then none else some (microseconds digits, cs.dropWhile Char.isDigit)
    else some (0, c :: cs)

/-- The seconds with their fraction, if a colon announces them. -/
def seconds? : List Char → Option ((Nat × Nat) × List Char)
  | [] => some ((0, 0), [])
  | c :: cs =>
    if c = ':' then do
      let (second, cs) ← digits? 2 cs
      let (microsecond, cs) ← fraction? cs
      return ((second, microsecond), cs)
    else some ((0, 0), c :: cs)

def time? (cs : List Char) : Option (TimeOfDay × List Char) := do
  let (hour, cs) ← digits? 2 cs
  let (minute, cs) ← digits? 2 (← after? ':' cs)
  let ((second, microsecond), cs) ← seconds? cs
  return (← TimeOfDay.of? hour minute second microsecond, cs)

/-- `HH:MM` or `HHMM`, to the end of the text, as minutes. -/
def clockMinutes? (cs : List Char) : Option Nat := do
  let (hour, cs) ← digits? 2 cs
  let (minute, cs) ← digits? 2 ((after? ':' cs).getD cs)
  if minute < 60 ∧ cs = [] then some (hour * 60 + minute) else none

/-- The offset that ends a text; the minus sign may also be U+2212. -/
def offset? : List Char → Option (Option UtcOffset)
  | [] => some none
  | c :: cs =>
    if (c = 'Z' ∨ c = 'z') ∧ cs = [] then some (some .utc)
    else if c = '+' then do
      return some (← UtcOffset.of? (← clockMinutes? cs))
    else if c = '-' ∨ c = '\u2212' then do
      return some (← UtcOffset.of? (-(← clockMinutes? cs)))
    else none

def isDayTimeMark (c : Char) : Bool := c = 'T' || c = 't' || c = ' ' || c = '_'

/-- The day, the time and the offset that a text holds. -/
def parts? (cs : List Char) : Option (Date × TimeOfDay × Option UtcOffset) := do
  let (date, cs) ← date? cs
  match cs with
  | [] => return (date, .midnight, none)
  | c :: cs =>
    if isDayTimeMark c then
      let (time, cs) ← time? cs
      return (date, time, ← offset? cs)
    else none

/-- The moment that a text denotes. -/
def read? (cs : List Char) : Option Moment := do
  let (date, time, offset) ← parts? cs
  Moment.of? date time offset

/-! ### Writing -/

def writeDate (d : Date) : List Char :=
  Numeral.padded 4 d.year ++ '-' :: Numeral.padded 2 d.month ++ '-' :: Numeral.padded 2 d.day

def writeTime (t : TimeOfDay) : List Char :=
  Numeral.padded 2 t.hour ++ ':' :: Numeral.padded 2 t.minute ++ ':' :: Numeral.padded 2 t.second ++
    (if t.microsecond = 0 then [] else '.' :: Numeral.padded 6 t.microsecond)

def writeOffset : Option UtcOffset → List Char
  | none => []
  | some offset =>
    let minutes := offset.minutes.natAbs
    (if offset.minutes < 0 then '-' else '+') ::
      (Numeral.padded 2 (minutes / 60) ++ ':' :: Numeral.padded 2 (minutes % 60))

def write (m : Moment) : List Char :=
  writeDate m.date ++ 'T' :: writeTime m.time ++ writeOffset m.offset

example : (read? "2012-02-29 14:42:05,1234567-0030".toList).map write =
    some "2012-02-29T14:42:05.123456-00:30".toList := by decide +kernel

end QueryBinding.IsoText
