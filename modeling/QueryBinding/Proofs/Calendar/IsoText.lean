import QueryBinding.Calendar.IsoText
import QueryBinding.Proofs.Number.Numeral
/-!
The grammar of ISO 8601 texts. Every part of a moment has its texts, and the reader of the part
takes exactly these from the front of what it is given, if what follows cannot belong to them. So a
whole text is read if and only if it denotes a moment. What is written for a moment is one of its
texts, the one that keeps to a fixed form.
-/
namespace QueryBinding

open Numeral

/-! ### Parts of moments by their numbers -/

theorem daysInMonth_le (year month : Nat) : daysInMonth year month ≤ 31 := by
  unfold daysInMonth
  split
  · split <;> decide
  · split <;> decide

theorem Date.of?_eq_some {year month day : Nat} {date : Date} :
    Date.of? year month day = some date ↔
      (date.year, date.month, date.day) = (year, month, day) := by
  constructor
  · intro known
    unfold of? at known
    split at known
    · cases known
      rfl
    · cases known
  · rintro ⟨⟩
    exact date.of?_self

theorem TimeOfDay.of?_eq_some {hour minute second microsecond : Nat} {time : TimeOfDay} :
    TimeOfDay.of? hour minute second microsecond = some time ↔
      (time.hour, time.minute, time.second, time.microsecond) =
        (hour, minute, second, microsecond) := by
  constructor
  · intro known
    unfold of? at known
    split at known
    · cases known
      rfl
    · cases known
  · rintro ⟨⟩
    exact time.of?_self

theorem UtcOffset.of?_eq_some {minutes : Int} {offset : UtcOffset} :
    UtcOffset.of? minutes = some offset ↔ offset.minutes = minutes := by
  constructor
  · intro known
    unfold of? at known
    split at known
    · cases known
      rfl
    · cases known
  · rintro rfl
    exact dif_pos offset.minutes_lt

theorem Moment.of?_eq_some {date : Date} {time : TimeOfDay} {offset : Option UtcOffset}
    {m : Moment} :
    Moment.of? date time offset = some m ↔ (m.date, m.time, m.offset) = (date, time, offset) := by
  constructor
  · intro known
    unfold of? at known
    split at known
    · cases known
      rfl
    · cases known
  · rintro ⟨⟩
    exact m.of?_self

namespace IsoText

/-! ### Texts of the parts -/

/-- Three numbers as `YYYY-MM-DD`. -/
inductive DayNumbers : List Char → Nat × Nat × Nat → Prop
  | mk {ys ms ds : List Char} {year month day : Nat} (yearField : Field 4 year ys)
    (monthField : Field 2 month ms) (dayField : Field 2 day ds) :
    DayNumbers (ys ++ '-' :: (ms ++ '-' :: ds)) (year, month, day)

def DateText (cs : List Char) (date : Date) : Prop :=
  DayNumbers cs (date.year, date.month, date.day)

/-- A fraction of a second, in microseconds; it may be missing. -/
inductive FractionText : List Char → Nat → Prop
  | absent : FractionText [] 0
  | given {mark : Char} {digits : List Char} (marked : mark = '.' ∨ mark = ',')
    (numeral : Digits digits) : FractionText (mark :: digits) (microseconds digits)

/-- The seconds and microseconds behind the minutes; they may be missing. -/
inductive SecondsText : List Char → Nat × Nat → Prop
  | absent : SecondsText [] (0, 0)
  | given {ss fs : List Char} {second microsecond : Nat} (secondField : Field 2 second ss)
    (fraction : FractionText fs microsecond) : SecondsText (':' :: (ss ++ fs)) (second, microsecond)

inductive TimeText : List Char → TimeOfDay → Prop
  | mk {hs ms ss : List Char} {time : TimeOfDay} (hourField : Field 2 time.hour hs)
    (minuteField : Field 2 time.minute ms)
    (seconds : SecondsText ss (time.second, time.microsecond)) :
    TimeText (hs ++ ':' :: (ms ++ ss)) time

/-- Hours and minutes, with a colon between them or without one, as minutes. -/
inductive ClockText : List Char → Nat → Prop
  | mk {hs colon ms : List Char} {hour minute : Nat} (hourField : Field 2 hour hs)
    (parted : colon = [] ∨ colon = [':']) (minuteField : Field 2 minute ms)
    (minute_lt : minute < 60) : ClockText (hs ++ (colon ++ ms)) (hour * 60 + minute)

inductive OffsetText : List Char → Option UtcOffset → Prop
  | absent : OffsetText [] none
  | utc {c : Char} (zulu : c = 'Z' ∨ c = 'z') : OffsetText [c] (some .utc)
  | east {cs : List Char} {minutes : Nat} {offset : UtcOffset} (clock : ClockText cs minutes)
    (same : offset.minutes = minutes) : OffsetText ('+' :: cs) (some offset)
  | west {c : Char} {cs : List Char} {minutes : Nat} {offset : UtcOffset}
    (minus : c = '-' ∨ c = '\u2212') (clock : ClockText cs minutes)
    (same : offset.minutes = -minutes) : OffsetText (c :: cs) (some offset)

/-- A day by itself is its midnight, without an offset. -/
inductive PartsText : List Char → Date × TimeOfDay × Option UtcOffset → Prop
  | day {ds : List Char} {date : Date} (dateText : DateText ds date) :
    PartsText ds (date, .midnight, none)
  | full {ds ts os : List Char} {mark : Char} {date : Date} {time : TimeOfDay}
    {offset : Option UtcOffset} (dateText : DateText ds date) (marked : isDayTimeMark mark = true)
    (timeText : TimeText ts time) (offsetText : OffsetText os offset) :
    PartsText (ds ++ mark :: (ts ++ os)) (date, time, offset)

/-- The texts of a moment. -/
def Denotes (cs : List Char) (m : Moment) : Prop := PartsText cs (m.date, m.time, m.offset)

/-! ### Readers -/

/-- A reader takes the texts of a grammar, and no others, from the front of what it is given; it
takes one as a whole if what follows it is right. -/
structure Takes (read : List Char → Option (α × List Char)) (text : List Char → α → Prop)
    (follows : List Char → Prop) : Prop where
  sound {cs rest : List Char} {a : α} (reads : read cs = some (a, rest)) :
    ∃ front, text front a ∧ cs = front ++ rest
  complete {front rest : List Char} {a : α} (known : text front a) (right : follows rest) :
    read (front ++ rest) = some (a, rest)

theorem Takes.whole {read : List Char → Option (α × List Char)} {text : List Char → α → Prop}
    {follows : List Char → Prop} (takes : Takes read text follows) {cs : List Char} {a : α}
    (known : text cs a) (right : follows []) : read cs = some (a, []) := by
  have reads := takes.complete known right
  rwa [List.append_nil] at reads

/-- Anything may follow. -/
def Anything (_ : List Char) : Prop := True

/-- Nothing that follows belongs to the digits and fractions of a time. -/
def EndsTime (rest : List Char) : Prop :=
  ∀ c ∈ rest.head?, c.isDigit = false ∧ c ≠ ':' ∧ c ≠ '.' ∧ c ≠ ','

theorem EndsTime.noDigitHead {rest : List Char} (ends : EndsTime rest) : NoDigitHead rest :=
  fun c mem => (ends c mem).1

theorem after?_eq_some {c : Char} {cs rest : List Char} :
    after? c cs = some rest ↔ cs = c :: rest := by
  cases cs with
  | nil => simp only [after?, reduceCtorEq]
  | cons d cs =>
    rw [after?, List.cons.injEq]
    split
    · rename_i same
      rw [Option.some.injEq, and_iff_right same]
    · rename_i other
      simp only [reduceCtorEq, other, false_and]

theorem digits_takes (count : Nat) :
    Takes (digits? count) (fun cs n => Field count n cs) Anything where
  sound {cs rest a} reads := by
    unfold digits? at reads
    dsimp only at reads
    split at reads
    · rename_i fits
      cases reads
      exact ⟨cs.take count, ⟨fits.1, List.all_eq_true.1 fits.2, rfl⟩,
        (List.take_append_drop count cs).symm⟩
    · cases reads
  complete {front rest a} field _ := by
    have taken : (front ++ rest).take count = front := List.take_left' field.length
    have dropped : (front ++ rest).drop count = rest := List.drop_left' field.length
    unfold digits?
    dsimp only
    rw [taken, dropped, if_pos ⟨field.length, List.all_eq_true.2 field.ascii⟩, field.denotes]

theorem dayNumbers_takes : Takes dayNumbers? DayNumbers Anything where
  sound {cs rest a} reads := by
    obtain ⟨⟨year, cs₁⟩, reads₁, reads⟩ := Option.bind_eq_some_iff.1 reads
    obtain ⟨cs₂, after₁, reads⟩ := Option.bind_eq_some_iff.1 reads
    obtain ⟨⟨month, cs₃⟩, reads₂, reads⟩ := Option.bind_eq_some_iff.1 reads
    obtain ⟨cs₄, after₂, reads⟩ := Option.bind_eq_some_iff.1 reads
    obtain ⟨⟨day, cs₅⟩, reads₃, same⟩ := Option.bind_eq_some_iff.1 reads
    cases same
    obtain ⟨ys, yearField, rfl⟩ := (digits_takes 4).sound reads₁
    obtain rfl := after?_eq_some.1 after₁
    obtain ⟨ms, monthField, rfl⟩ := (digits_takes 2).sound reads₂
    obtain rfl := after?_eq_some.1 after₂
    obtain ⟨ds, dayField, rfl⟩ := (digits_takes 2).sound reads₃
    refine ⟨_, .mk yearField monthField dayField, ?_⟩
    simp only [List.append_assoc, List.cons_append]
  complete {front rest a} known _ := by
    obtain ⟨yearField, monthField, dayField⟩ := known
    simp only [List.append_assoc, List.cons_append]
    refine Option.bind_eq_some_iff.2 ⟨_, (digits_takes 4).complete yearField trivial, ?_⟩
    refine Option.bind_eq_some_iff.2 ⟨_, after?_eq_some.2 rfl, ?_⟩
    refine Option.bind_eq_some_iff.2 ⟨_, (digits_takes 2).complete monthField trivial, ?_⟩
    refine Option.bind_eq_some_iff.2 ⟨_, after?_eq_some.2 rfl, ?_⟩
    exact Option.bind_eq_some_iff.2 ⟨_, (digits_takes 2).complete dayField trivial, rfl⟩

theorem date_takes : Takes date? DateText Anything where
  sound {cs rest a} reads := by
    obtain ⟨⟨⟨year, month, day⟩, cs₁⟩, reads₁, reads⟩ := Option.bind_eq_some_iff.1 reads
    obtain ⟨date, known, same⟩ := Option.bind_eq_some_iff.1 reads
    cases same
    obtain ⟨front, numbers, rfl⟩ := dayNumbers_takes.sound reads₁
    rw [← Date.of?_eq_some.1 known] at numbers
    exact ⟨front, numbers, rfl⟩
  complete {front rest date} known _ :=
    Option.bind_eq_some_iff.2 ⟨_, dayNumbers_takes.complete known trivial,
      Option.bind_eq_some_iff.2 ⟨date, date.of?_self, rfl⟩⟩

theorem fraction_takes : Takes fraction? FractionText EndsTime where
  sound {cs rest a} reads := by
    cases cs with
    | nil =>
      cases reads
      exact ⟨[], .absent, rfl⟩
    | cons mark cs =>
      rw [fraction?] at reads
      split at reads
      · rename_i marked
        dsimp only at reads
        split at reads
        · cases reads
        · rename_i filled
          cases reads
          have numeral : Digits (cs.takeWhile Char.isDigit) :=
            ⟨fun empty => filled (List.isEmpty_iff.2 empty), ascii_takeWhile cs⟩
          refine ⟨_, .given marked numeral, ?_⟩
          rw [List.cons_append, List.takeWhile_append_dropWhile]
      · cases reads
        exact ⟨[], .absent, rfl⟩
  complete {front rest a} known ends := by
    cases known with
    | absent =>
      cases rest with
      | nil => rfl
      | cons c cs =>
        obtain ⟨_, _, notPoint, notComma⟩ := ends c rfl
        rw [List.nil_append, fraction?, if_neg (not_or.2 ⟨notPoint, notComma⟩)]
    | @given mark digits marked numeral =>
      obtain ⟨taken, dropped⟩ := span_digits numeral.ascii ends.noDigitHead
      have filled : ¬digits.isEmpty = true := fun empty => numeral.filled (List.isEmpty_iff.1 empty)
      rw [List.cons_append, fraction?, if_pos marked]
      dsimp only
      rw [taken, dropped, if_neg filled]

theorem seconds_takes : Takes seconds? SecondsText EndsTime where
  sound {cs rest a} reads := by
    cases cs with
    | nil =>
      cases reads
      exact ⟨[], .absent, rfl⟩
    | cons c cs =>
      rw [seconds?] at reads
      split at reads
      · rename_i colon
        obtain ⟨⟨second, cs₁⟩, reads₁, reads⟩ := Option.bind_eq_some_iff.1 reads
        obtain ⟨⟨microsecond, cs₂⟩, reads₂, same⟩ := Option.bind_eq_some_iff.1 reads
        cases same
        obtain ⟨ss, secondField, rfl⟩ := (digits_takes 2).sound reads₁
        obtain ⟨fs, fraction, rfl⟩ := fraction_takes.sound reads₂
        refine ⟨_, .given secondField fraction, ?_⟩
        rw [colon, List.cons_append, List.append_assoc]
      · cases reads
        exact ⟨[], .absent, rfl⟩
  complete {front rest a} known ends := by
    cases known with
    | absent =>
      cases rest with
      | nil => rfl
      | cons c cs => rw [List.nil_append, seconds?, if_neg (ends c rfl).2.1]
    | given secondField fraction =>
      rw [List.cons_append, List.append_assoc, seconds?, if_pos rfl]
      refine Option.bind_eq_some_iff.2 ⟨_, (digits_takes 2).complete secondField trivial, ?_⟩
      exact Option.bind_eq_some_iff.2 ⟨_, fraction_takes.complete fraction ends, rfl⟩

theorem time_takes : Takes time? TimeText EndsTime where
  sound {cs rest a} reads := by
    obtain ⟨⟨hour, cs₁⟩, reads₁, reads⟩ := Option.bind_eq_some_iff.1 reads
    obtain ⟨cs₂, after₁, reads⟩ := Option.bind_eq_some_iff.1 reads
    obtain ⟨⟨minute, cs₃⟩, reads₂, reads⟩ := Option.bind_eq_some_iff.1 reads
    obtain ⟨⟨⟨second, microsecond⟩, cs₄⟩, reads₃, reads⟩ := Option.bind_eq_some_iff.1 reads
    obtain ⟨time, known, same⟩ := Option.bind_eq_some_iff.1 reads
    cases same
    cases TimeOfDay.of?_eq_some.1 known
    obtain ⟨hs, hourField, rfl⟩ := (digits_takes 2).sound reads₁
    obtain rfl := after?_eq_some.1 after₁
    obtain ⟨ms, minuteField, rfl⟩ := (digits_takes 2).sound reads₂
    obtain ⟨ss, seconds, rfl⟩ := seconds_takes.sound reads₃
    refine ⟨_, .mk hourField minuteField seconds, ?_⟩
    simp only [List.append_assoc, List.cons_append]
  complete {front rest time} known ends := by
    obtain ⟨hourField, minuteField, seconds⟩ := known
    simp only [List.append_assoc, List.cons_append]
    refine Option.bind_eq_some_iff.2 ⟨_, (digits_takes 2).complete hourField trivial, ?_⟩
    refine Option.bind_eq_some_iff.2 ⟨_, after?_eq_some.2 rfl, ?_⟩
    refine Option.bind_eq_some_iff.2 ⟨_, (digits_takes 2).complete minuteField trivial, ?_⟩
    refine Option.bind_eq_some_iff.2 ⟨_, seconds_takes.complete seconds ends, ?_⟩
    exact Option.bind_eq_some_iff.2 ⟨time, time.of?_self, rfl⟩

/-! ### Whole texts -/

variable {cs : List Char}

theorem exists_colon (cs : List Char) :
    ∃ colon, (colon = [] ∨ colon = [':']) ∧ cs = colon ++ (after? ':' cs).getD cs := by
  cases parted : after? ':' cs with
  | none => exact ⟨[], .inl rfl, rfl⟩
  | some rest => exact ⟨[':'], .inr rfl, after?_eq_some.1 parted⟩

theorem getD_after?_colon {colon digits : List Char} (parted : colon = [] ∨ colon = [':'])
    (ascii : ∀ c ∈ digits, c.isDigit = true) :
    (after? ':' (colon ++ digits)).getD (colon ++ digits) = digits := by
  rcases parted with rfl | rfl
  · rw [List.nil_append]
    cases reads : after? ':' digits with
    | none => rfl
    | some rest =>
      have mem : ':' ∈ digits := after?_eq_some.1 reads ▸ List.mem_cons_self
      exact absurd (ascii ':' mem) (by decide)
  · rfl

theorem clockMinutes?_eq_some {minutes : Nat} :
    clockMinutes? cs = some minutes ↔ ClockText cs minutes := by
  constructor
  · intro reads
    obtain ⟨⟨hour, cs₁⟩, reads₁, reads⟩ := Option.bind_eq_some_iff.1 reads
    obtain ⟨⟨minute, cs₂⟩, reads₂, ends⟩ := Option.bind_eq_some_iff.1 reads
    obtain ⟨hs, hourField, rfl⟩ := (digits_takes 2).sound reads₁
    obtain ⟨ms, minuteField, same⟩ := (digits_takes 2).sound reads₂
    obtain ⟨colon, parted, behind⟩ := exists_colon cs₁
    dsimp only at ends
    split at ends
    · rename_i bounded
      obtain ⟨minute_lt, rfl⟩ := bounded
      cases ends
      rw [behind, same, List.append_nil]
      exact .mk hourField parted minuteField minute_lt
    · cases ends
  · intro text
    cases text with
    | @mk hs colon ms hour minute hourField parted minuteField minute_lt =>
      refine Option.bind_eq_some_iff.2 ⟨_, (digits_takes 2).complete hourField trivial, ?_⟩
      refine Option.bind_eq_some_iff.2 ⟨(minute, []), ?_, if_pos ⟨minute_lt, rfl⟩⟩
      rw [getD_after?_colon parted minuteField.ascii]
      exact (digits_takes 2).whole minuteField trivial

theorem offset?_eq_some {offset : Option UtcOffset} :
    offset? cs = some offset ↔ OffsetText cs offset := by
  constructor
  · intro reads
    cases cs with
    | nil =>
      cases reads
      exact .absent
    | cons c cs =>
      rw [offset?] at reads
      split at reads
      · rename_i zulu
        obtain ⟨zulu, rfl⟩ := zulu
        cases reads
        exact .utc zulu
      · split at reads
        · rename_i plus
          subst plus
          obtain ⟨minutes, clocked, reads⟩ := Option.bind_eq_some_iff.1 reads
          obtain ⟨offset, known, same⟩ := Option.bind_eq_some_iff.1 reads
          cases same
          exact .east (clockMinutes?_eq_some.1 clocked) (UtcOffset.of?_eq_some.1 known)
        · split at reads
          · rename_i minus
            obtain ⟨minutes, clocked, reads⟩ := Option.bind_eq_some_iff.1 reads
            obtain ⟨offset, known, same⟩ := Option.bind_eq_some_iff.1 reads
            cases same
            exact .west minus (clockMinutes?_eq_some.1 clocked) (UtcOffset.of?_eq_some.1 known)
          · cases reads
  · intro text
    cases text with
    | absent => rfl
    | utc zulu => exact if_pos ⟨zulu, rfl⟩
    | east clock same =>
      have notZulu : ¬('+' = 'Z' ∨ '+' = 'z') := by decide
      rw [offset?, if_neg (notZulu ·.1), if_pos rfl]
      refine Option.bind_eq_some_iff.2 ⟨_, clockMinutes?_eq_some.2 clock, ?_⟩
      exact Option.bind_eq_some_iff.2 ⟨_, UtcOffset.of?_eq_some.2 same, rfl⟩
    | @west c _ _ _ minus clock same =>
      have notZulu : ¬(c = 'Z' ∨ c = 'z') := by rcases minus with rfl | rfl <;> decide
      have notPlus : c ≠ '+' := by rcases minus with rfl | rfl <;> decide
      rw [offset?, if_neg (notZulu ·.1), if_neg notPlus, if_pos minus]
      refine Option.bind_eq_some_iff.2 ⟨_, clockMinutes?_eq_some.2 clock, ?_⟩
      exact Option.bind_eq_some_iff.2 ⟨_, UtcOffset.of?_eq_some.2 same, rfl⟩

/-- An offset ends a time: no character that begins one belongs to a time. -/
theorem OffsetText.endsTime {offset : Option UtcOffset} (text : OffsetText cs offset) :
    EndsTime cs := by
  intro c mem
  cases text with
  | absent => cases mem
  | utc zulu =>
    obtain rfl := Option.mem_some.1 mem
    rcases zulu with rfl | rfl <;> decide
  | east _ _ =>
    obtain rfl := Option.mem_some.1 mem
    decide
  | west minus _ _ =>
    obtain rfl := Option.mem_some.1 mem
    rcases minus with rfl | rfl <;> decide

theorem parts?_eq_some {parts : Date × TimeOfDay × Option UtcOffset} :
    parts? cs = some parts ↔ PartsText cs parts := by
  constructor
  · intro reads
    obtain ⟨⟨date, cs₁⟩, reads₁, continues⟩ := Option.bind_eq_some_iff.1 reads
    obtain ⟨ds, dateText, rfl⟩ := date_takes.sound reads₁
    cases cs₁ with
    | nil =>
      cases continues
      rw [List.append_nil]
      exact .day dateText
    | cons mark cs₂ =>
      dsimp only at continues
      split at continues
      · rename_i marked
        obtain ⟨⟨time, cs₃⟩, reads₂, reads⟩ := Option.bind_eq_some_iff.1 continues
        obtain ⟨offset, reads₃, same⟩ := Option.bind_eq_some_iff.1 reads
        cases same
        obtain ⟨ts, timeText, rfl⟩ := time_takes.sound reads₂
        exact .full dateText marked timeText (offset?_eq_some.1 reads₃)
      · cases continues
  · intro text
    cases text with
    | day dateText =>
      exact Option.bind_eq_some_iff.2 ⟨_, date_takes.whole dateText trivial, rfl⟩
    | full dateText marked timeText offsetText =>
      refine Option.bind_eq_some_iff.2 ⟨_, date_takes.complete dateText trivial, ?_⟩
      dsimp only
      rw [if_pos marked]
      refine Option.bind_eq_some_iff.2 ⟨_, time_takes.complete timeText offsetText.endsTime, ?_⟩
      exact Option.bind_eq_some_iff.2 ⟨_, offset?_eq_some.2 offsetText, rfl⟩

/-- Reading gives the moment that a text denotes, and there is at most one. -/
theorem read?_eq_some {m : Moment} : read? cs = some m ↔ Denotes cs m := by
  constructor
  · intro reads
    obtain ⟨⟨date, time, offset⟩, read, known⟩ := Option.bind_eq_some_iff.1 reads
    have same := Moment.of?_eq_some.1 known
    have text := parts?_eq_some.1 read
    rw [← same] at text
    exact text
  · intro text
    exact Option.bind_eq_some_iff.2 ⟨_, parts?_eq_some.2 text, m.of?_self⟩

/-! ### Writing -/

/-- The fraction that is written: six digits, or nothing if they are all zero. -/
inductive FractionForm : List Char → Nat → Prop
  | absent : FractionForm [] 0
  | given {ds : List Char} {microsecond : Nat} (field : Field 6 microsecond ds)
    (nonzero : microsecond ≠ 0) : FractionForm ('.' :: ds) microsecond

/-- The offset that is written: a sign, and hours and minutes with a colon between them. -/
inductive OffsetForm : List Char → Option UtcOffset → Prop
  | absent : OffsetForm [] none
  | given {hs ms : List Char} {offset : UtcOffset}
    (hourField : Field 2 (offset.minutes.natAbs / 60) hs)
    (minuteField : Field 2 (offset.minutes.natAbs % 60) ms) :
    OffsetForm ((if offset.minutes < 0 then '-' else '+') :: (hs ++ ':' :: ms)) (some offset)

/-- Of the texts of a moment, the one in which it is written. -/
inductive Form : List Char → Moment → Prop
  | mk {ds hs ms ss fs os : List Char} {m : Moment} (dateText : DateText ds m.date)
    (hourField : Field 2 m.time.hour hs) (minuteField : Field 2 m.time.minute ms)
    (secondField : Field 2 m.time.second ss) (fraction : FractionForm fs m.time.microsecond)
    (offset : OffsetForm os m.offset) :
    Form (ds ++ 'T' :: (hs ++ ':' :: (ms ++ ':' :: (ss ++ fs)) ++ os)) m

theorem FractionForm.text {microsecond : Nat} (form : FractionForm cs microsecond) :
    FractionText cs microsecond := by
  cases form with
  | absent => exact .absent
  | @given ds _ field _ =>
    have numeral : Digits ds :=
      ⟨List.ne_nil_of_length_pos (by rw [field.length]; decide), field.ascii⟩
    have counted : microseconds ds = microsecond := by
      rw [microseconds, List.take_left' field.length, field.denotes]
    have text := FractionText.given (.inl rfl) numeral
    rwa [counted] at text

theorem OffsetForm.text {offset : Option UtcOffset} (form : OffsetForm cs offset) :
    OffsetText cs offset := by
  cases form with
  | absent => exact .absent
  | @given _ _ offset hourField minuteField =>
    have minute_lt : offset.minutes.natAbs % 60 < 60 := Nat.mod_lt _ (by decide)
    have clock := ClockText.mk hourField (.inr rfl) minuteField minute_lt
    rw [Nat.div_add_mod'] at clock
    split
    · have minus : offset.minutes = -offset.minutes.natAbs := by omega
      exact .west (.inl rfl) clock minus
    · have plus : offset.minutes = offset.minutes.natAbs := by omega
      exact .east clock plus

theorem Form.denotes {m : Moment} (form : Form cs m) : Denotes cs m := by
  obtain ⟨dateText, hourField, minuteField, secondField, fraction, offset⟩ := form
  exact .full dateText rfl (.mk hourField minuteField (.given secondField fraction.text))
    offset.text

theorem dateText_writeDate (date : Date) : DateText (writeDate date) date := by
  have year_lt : date.year < 10 ^ 4 := Nat.lt_succ_of_le date.year_le
  have month_lt : date.month < 10 ^ 2 := Nat.lt_of_le_of_lt date.month_mem.2 (by decide)
  have day_le : date.day ≤ 31 :=
    Nat.le_trans date.day_mem.2 (daysInMonth_le date.year date.month)
  have day_lt : date.day < 10 ^ 2 := Nat.lt_of_le_of_lt day_le (by decide)
  unfold DateText writeDate
  rw [List.append_assoc, List.cons_append]
  exact .mk (field_padded year_lt) (field_padded month_lt) (field_padded day_lt)

theorem offsetForm_writeOffset (offset : Option UtcOffset) :
    OffsetForm (writeOffset offset) offset := by
  cases offset with
  | none => exact .absent
  | some offset =>
    have minutes_lt := offset.minutes_lt
    have hour_lt : offset.minutes.natAbs / 60 < 10 ^ 2 := by omega
    have minute_lt : offset.minutes.natAbs % 60 < 10 ^ 2 := by omega
    exact .given (field_padded hour_lt) (field_padded minute_lt)

/-- Every moment is written in its form. -/
theorem form_write (m : Moment) : Form (write m) m := by
  have hour_lt : m.time.hour < 10 ^ 2 := Nat.lt_trans m.time.hour_lt (by decide)
  have minute_lt : m.time.minute < 10 ^ 2 := Nat.lt_trans m.time.minute_lt (by decide)
  have second_lt : m.time.second < 10 ^ 2 := Nat.lt_trans m.time.second_lt (by decide)
  have fraction : FractionForm
      (if m.time.microsecond = 0 then [] else '.' :: padded 6 m.time.microsecond)
      m.time.microsecond := by
    split
    · rename_i whole
      rw [whole]
      exact .absent
    · rename_i broken
      exact .given (field_padded m.time.microsecond_lt) broken
  have form := Form.mk (dateText_writeDate m.date) (field_padded hour_lt)
    (field_padded minute_lt) (field_padded second_lt) fraction (offsetForm_writeOffset m.offset)
  simpa only [write, writeTime, List.append_assoc, List.cons_append] using form

end IsoText
end QueryBinding
