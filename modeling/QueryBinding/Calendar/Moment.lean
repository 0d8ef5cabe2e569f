/-!
Calendar days of the years 0 to 9999, times of day to the microsecond, and moments: a day and a
time, with an offset from UTC in whole minutes if it is known. Every value of these types is a
real one; days that no month has cannot be built. Year 0 can be written, but no moment lies in it.
-/
namespace QueryBinding

def isLeapYear (year : Nat) : Bool :=
  year % 4 == 0 && (year % 100 != 0 || year % 400 == 0)

def daysInMonth (year month : Nat) : Nat :=
  if month = 2 then (if isLeapYear year then 29 else 28)
  else if month = 4 ∨ month = 6 ∨ month = 9 ∨ month = 11 then 30
  else 31

structure Date where
  year : Nat
  month : Nat
  day : Nat
  year_le : year ≤ 9999
  month_mem : 1 ≤ month ∧ month ≤ 12
  day_mem : 1 ≤ day ∧ day ≤ daysInMonth year month
deriving DecidableEq, Repr

/-- The day with the given numbers, if the calendar has it. -/
def Date.of? (year month day : Nat) : Option Date :=
  if h : year ≤ 9999 ∧ (1 ≤ month ∧ month ≤ 12) ∧
      (1 ≤ day ∧ day ≤ daysInMonth year month) then
    some ⟨year, month, day, h.1, h.2.1, h.2.2⟩
  else none

structure TimeOfDay where
  hour : Nat
  minute : Nat
  second : Nat
  microsecond : Nat
  hour_lt : hour < 24
  minute_lt : minute < 60
  second_lt : second < 60
  microsecond_lt : microsecond < 1000000
deriving DecidableEq, Repr

def TimeOfDay.of? (hour minute second microsecond : Nat) : Option TimeOfDay :=
  if h : hour < 24 ∧ minute < 60 ∧ second < 60 ∧ microsecond < 1000000 then
    some ⟨hour, minute, second, microsecond, h.1, h.2.1, h.2.2.1, h.2.2.2⟩
  else none

def TimeOfDay.midnight : TimeOfDay :=
  ⟨0, 0, 0, 0, by decide, by decide, by decide, by decide⟩

/-- A distance from UTC of less than a day, in minutes east. -/
structure UtcOffset where
  minutes : Int
  minutes_lt : minutes.natAbs < 1440
deriving DecidableEq, Repr

def UtcOffset.of? (minutes : Int) : Option UtcOffset :=
  if h : minutes.natAbs < 1440 then some ⟨minutes, h⟩ else none

def UtcOffset.utc : UtcOffset := ⟨0, by decide⟩

/-- A day and a time of day; without an offset the time is local to a place not told. -/
structure Moment where
  date : Date
  time : TimeOfDay
  offset : Option UtcOffset
  one_le_year : 1 ≤ date.year
deriving DecidableEq, Repr

/-- The moment at a time of a day, if the day lies in a year that moments can lie in. -/
def Moment.of? (date : Date) (time : TimeOfDay) (offset : Option UtcOffset) : Option Moment :=
  if h : 1 ≤ date.year then some ⟨date, time, offset, h⟩ else none

theorem Date.of?_self (d : Date) : Date.of? d.year d.month d.day = some d := by
  simp [Date.of?, d.year_le, d.month_mem, d.day_mem]

theorem TimeOfDay.of?_self (t : TimeOfDay) :
    TimeOfDay.of? t.hour t.minute t.second t.microsecond = some t := by
  simp [TimeOfDay.of?, t.hour_lt, t.minute_lt, t.second_lt, t.microsecond_lt]

theorem Moment.of?_self (m : Moment) : Moment.of? m.date m.time m.offset = some m := by
  simp [Moment.of?, m.one_le_year]

end QueryBinding
