import QueryBinding.Converter
import QueryBinding.Proofs.Calendar.IsoText
import QueryBinding.Proofs.Calendar.UnixTime
import QueryBinding.Proofs.Run
/-!
Dates in requests. A field for moments reads ISO texts, and numbers that count from 1970. The
converter refuses what does not begin like a day before it reads the text as such a field does. No
number begins like a day and every ISO text does, so that the numbers are all that it refuses more.
A moment is found again in what is written for it.
-/
namespace QueryBinding.Converter

open IsoText UnixTime

variable {cs : List Char} {s : String} {m : Moment} {d : Datum}

/-! ### Texts that begin like a day -/

def BeginsLikeDay (cs : List Char) : Prop :=
  ∃ front rest numbers, DayNumbers front numbers ∧ cs = front ++ rest

theorem dayNumbers?_isSome_iff : (dayNumbers? cs).isSome ↔ BeginsLikeDay cs := by
  constructor
  · intro reads
    obtain ⟨⟨numbers, rest⟩, reads⟩ := Option.isSome_iff_exists.1 reads
    obtain ⟨front, known, same⟩ := dayNumbers_takes.sound reads
    exact ⟨front, rest, numbers, known, same⟩
  · rintro ⟨front, rest, numbers, known, rfl⟩
    exact Option.isSome_of_eq_some (dayNumbers_takes.complete known trivial)

theorem BeginsLikeDay.not_isNumber (begins : BeginsLikeDay cs) : ¬IsNumber cs := by
  obtain ⟨front, rest, numbers, known, rfl⟩ := begins
  cases known with
  | @mk ys ms ds year month day yearField _ _ =>
    rw [List.append_assoc, List.cons_append]
    cases ys with
    | nil => exact absurd yearField.length (by decide)
    | cons c ys => exact not_isNumber_of_dash yearField.ascii _

theorem beginsLikeDay_of_partsText {parts : Date × TimeOfDay × Option UtcOffset}
    (text : PartsText cs parts) : BeginsLikeDay cs := by
  cases text with
  | day dateText => exact ⟨cs, [], _, dateText, (List.append_nil cs).symm⟩
  | full dateText _ _ _ => exact ⟨_, _, _, dateText, rfl⟩

theorem parts?_of_isNumber (number : IsNumber cs) : parts? cs = none := by
  cases reads : parts? cs with
  | none => rfl
  | some parts =>
    have begins := beginsLikeDay_of_partsText (parts?_eq_some.1 reads)
    exact absurd number begins.not_isNumber

/-! ### Fields for moments -/

/-- The texts of a moment, and the numbers that count to it, are read as this moment. -/
theorem readMomentText_eq_ok :
    readMomentText s = .ok m ↔
      Denotes s.toList m ∨ ∃ text, number? s.toList = some text ∧ ofText text = .ok m := by
  constructor
  · intro reads
    unfold readMomentText at reads
    split at reads
    · rename_i date time offset known
      split at reads
      · rename_i moment made
        cases reads
        have same := Moment.of?_eq_some.1 made
        have text := parts?_eq_some.1 known
        rw [← same] at text
        exact .inl text
      · cases reads
    · split at reads
      · cases reads
      · rename_i text known
        split at reads
        · rename_i moment counts
          cases reads
          exact .inr ⟨text, known, counts⟩
        · cases reads
        · cases reads
  · unfold readMomentText
    rintro (denotes | ⟨text, known, counts⟩)
    · rw [parts?_eq_some.2 denotes]
      dsimp only
      rw [m.of?_self]
    · rw [parts?_of_isNumber (isNumber_of_number? known)]
      dsimp only
      rw [known]
      dsimp only
      rw [counts]

theorem moment_read_eq_ok :
    FieldType.moment.read (.text s) = .ok d ↔
      ∃ m, (Denotes s.toList m ∨ ∃ text, number? s.toList = some text ∧ ofText text = .ok m) ∧
        .moment m = d := by
  simp only [← readMomentText_eq_ok]
  exact map_eq_ok

/-! ### The converter -/

theorem readIsoText_of_denotes (denotes : Denotes s.toList m) : readIsoText s = .ok m := by
  have kept : ¬(dayNumbers? s.toList).isNone = true := by
    rw [Bool.not_eq_true, Option.isNone_eq_false_iff, dayNumbers?_isSome_iff]
    exact beginsLikeDay_of_partsText denotes
  rw [readIsoText, if_neg kept, readMomentText_eq_ok.2 (.inl denotes)]

theorem readIsoText_of_not_denotes (none : ∀ m, ¬Denotes s.toList m) :
    readIsoText s = refuse s .moment := by
  unfold readIsoText
  split
  · rfl
  · rename_i kept
    rw [Bool.not_eq_true, Option.isNone_eq_false_iff, dayNumbers?_isSome_iff] at kept
    split
    · rename_i m reads
      rcases readMomentText_eq_ok.1 reads with denotes | ⟨text, known, _⟩
      · exact absurd denotes (none m)
      · exact absurd (isNumber_of_number? known) kept.not_isNumber
    · rfl

/-- The converter takes the texts of moments, and nothing else. -/
theorem date_eq_ok : date.convert s = .ok d ↔ ∃ m, Denotes s.toList m ∧ .moment m = d := by
  constructor
  · intro converts
    obtain ⟨m, reads, same⟩ := map_eq_ok.1 converts
    refine ⟨m, ?_, same⟩
    by_contra other
    have none : ∀ m, ¬Denotes s.toList m := by
      intro m' denotes
      cases reads.symm.trans (readIsoText_of_denotes denotes)
      exact other denotes
    cases reads.symm.trans (readIsoText_of_not_denotes none)
  · rintro ⟨m, denotes, same⟩
    exact map_eq_ok.2 ⟨m, readIsoText_of_denotes denotes, same⟩

theorem date_eq_error {failure : Failure} :
    date.convert s = .error failure ↔
      (∀ m, ¬Denotes s.toList m) ∧ failure = .conversion (.text s) .moment := by
  constructor
  · intro fails
    have reads : readIsoText s = .error failure := map_eq_error.1 fails
    have none : ∀ m, ¬Denotes s.toList m := by
      intro m denotes
      cases reads.symm.trans (readIsoText_of_denotes denotes)
    exact ⟨none, Except.error.inj (reads.symm.trans (readIsoText_of_not_denotes none))⟩
  · rintro ⟨none, rfl⟩
    exact map_eq_error.2 (readIsoText_of_not_denotes none)

/-- A field for moments that is given no number reads what the converter does. -/
theorem moment_read_and_not_isNumber :
    (FieldType.moment.read (.text s) = .ok d ∧ ¬IsNumber s.toList) ↔
      ∃ m, Denotes s.toList m ∧ .moment m = d := by
  rw [moment_read_eq_ok]
  constructor
  · rintro ⟨⟨m, denotes | ⟨text, known, _⟩, same⟩, noNumber⟩
    · exact ⟨m, denotes, same⟩
    · exact absurd (isNumber_of_number? known) noNumber
  · rintro ⟨m, denotes, same⟩
    exact ⟨⟨m, .inl denotes, same⟩, (beginsLikeDay_of_partsText denotes).not_isNumber⟩

/-- The converter is a field for moments without the numbers that count from 1970: a text is
converted if and only if the field reads it and it is no number, and to the same moment, and every
other text is refused as a whole. So it refuses no ISO text, and of the numbers it takes none. -/
theorem date_reads_all_but_numbers :
    ∀ s : String,
      (∀ d, date.convert s = .ok d ↔
        FieldType.moment.read (.text s) = .ok d ∧ ¬IsNumber s.toList) ∧
      (∀ failure, date.convert s = .error failure ↔
        (∀ d, FieldType.moment.read (.text s) = .ok d → IsNumber s.toList) ∧
          failure = .conversion (.text s) .moment) ∧
      (∀ d, FieldType.moment.read (.text s) = .ok d ↔
        ∃ m, (Denotes s.toList m ∨ ∃ text, number? s.toList = some text ∧ ofText text = .ok m) ∧
          .moment m = d) ∧
      (∀ m, Denotes s.toList m → date.convert s = .ok (.moment m)) ∧
      (IsNumber s.toList → date.convert s = .error (.conversion (.text s) .moment)) := by
  intro s
  have taken (d : Datum) : date.convert s = .ok d ↔
      FieldType.moment.read (.text s) = .ok d ∧ ¬IsNumber s.toList := by
    rw [date_eq_ok, moment_read_and_not_isNumber]
  have refused (none : ∀ d, ¬date.convert s = .ok d) :
      date.convert s = .error (.conversion (.text s) .moment) := by
    refine date_eq_error.2 ⟨fun m denotes => ?_, rfl⟩
    exact none _ (date_eq_ok.2 ⟨m, denotes, rfl⟩)
  refine ⟨taken, fun failure => ⟨fun fails => ⟨fun d reads => ?_, ?_⟩, ?_⟩,
    fun d => moment_read_eq_ok, fun m denotes => date_eq_ok.2 ⟨m, denotes, rfl⟩, fun number => ?_⟩
  · by_contra noNumber
    cases fails.symm.trans ((taken d).2 ⟨reads, noNumber⟩)
  · exact (date_eq_error.1 fails).2
  · rintro ⟨numbers, rfl⟩
    refine refused fun d converts => ?_
    obtain ⟨reads, noNumber⟩ := (taken d).1 converts
    exact noNumber (numbers d reads)
  · exact refused fun d converts => ((taken d).1 converts).2 number

theorem date_reads_all_but_numbers_fraction :
    (∃ m, Denotes "2012-02-29t14:42z".toList m ∧
      date.convert "2012-02-29t14:42z" = .ok (.moment m)) ∧
    IsNumber "-1.5e3".toList ∧ (∃ d, FieldType.moment.read (.text "-1.5e3") = .ok d) ∧
      date.convert "-1.5e3" = .error (.conversion (.text "-1.5e3") .moment) := by
  obtain ⟨_, _, _, converts, _⟩ := date_reads_all_but_numbers "2012-02-29t14:42z"
  obtain ⟨_, _, _, _, refuses⟩ := date_reads_all_but_numbers "-1.5e3"
  have number : IsNumber "-1.5e3".toList := number?_isSome_iff.1 (by decide +kernel)
  have day : (read? "2012-02-29t14:42z".toList).isSome := by decide +kernel
  obtain ⟨m, denotes⟩ := Option.isSome_iff_exists.1 day
  rw [read?_eq_some] at denotes
  have accepted : (FieldType.moment.read (.text "-1.5e3")).toOption.isSome := by decide +kernel
  refine ⟨⟨m, denotes, converts m denotes⟩, number, ?_, refuses number⟩
  cases reads : FieldType.moment.read (.text "-1.5e3") with
  | ok d => exact ⟨d, rfl⟩
  | error issues =>
    rw [reads] at accepted
    cases accepted

/-! ### What is written -/

theorem date_of_form (form : Form cs m) : date.convert (String.ofList cs) = .ok (.moment m) := by
  refine date_eq_ok.2 ⟨m, ?_, rfl⟩
  rw [String.toList_ofList]
  exact form.denotes

/-- Every moment is written in its form, and found again in it; so is the moment that any text is
converted to. -/
theorem date_inverts_write :
    (∀ m, Form (write m) m) ∧
    (∀ m cs, Form cs m → date.convert (String.ofList cs) = .ok (.moment m)) ∧
    ∀ s d, date.convert s = .ok d →
      ∃ m, d = .moment m ∧ date.convert (String.ofList (write m)) = .ok d := by
  refine ⟨form_write, fun m cs => date_of_form, fun s d converts => ?_⟩
  obtain ⟨m, _, rfl⟩ := date_eq_ok.1 converts
  exact ⟨m, rfl, date_of_form (form_write m)⟩

theorem date_inverts_write_cut :
    ∃ m, write m = "2012-02-29T14:42:05.123456-00:30".toList ∧ Form (write m) m ∧
      date.convert (String.ofList (write m)) = .ok (.moment m) ∧
      date.convert "2012-02-29 14:42:05,1234567-0030" = .ok (.moment m) ∧
      ∃ m', Datum.moment m = .moment m' ∧
        date.convert (String.ofList (write m')) = .ok (.moment m) := by
  obtain ⟨writes, finds, again⟩ := date_inverts_write
  have read : (read? "2012-02-29 14:42:05,1234567-0030".toList).map write =
      some "2012-02-29T14:42:05.123456-00:30".toList := by decide +kernel
  obtain ⟨m, denotes, written⟩ := Option.map_eq_some_iff.1 read
  rw [read?_eq_some] at denotes
  have converts : date.convert "2012-02-29 14:42:05,1234567-0030" = .ok (.moment m) :=
    date_eq_ok.2 ⟨m, denotes, rfl⟩
  exact ⟨m, written, writes m, finds m _ (writes m), converts, again _ _ converts⟩

end QueryBinding.Converter
