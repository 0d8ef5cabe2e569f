import QueryBinding.Converter.Registry
import QueryBinding.Proofs.Number.Numeral
import QueryBinding.Proofs.Query.Binding
/-!
Texts that cannot be converted. A converter `FailsBy` faults of its texts if each of its failures is
one of a text that it was given. The registered converters fail by refusing a text, with one
exception: a numeral of too many digits is not refused. A table of such parameters thus binds a
request, or it tells a parameter and the text that was refused, or it fails for such a numeral.
-/
namespace QueryBinding

namespace Converter

/-- The failures by which a text is refused. -/
def Refusal (s : String) (failure : Failure) : Prop :=
  ∃ reason, failure = .conversion (.text s) reason

/-- A numeral with more digits than integers are read from. -/
structure Overlong (s : String) (digitCount : Nat) : Prop where
  numeral : ∃ sign digits, s.toList = sign ++ digits ∧ sign ∈ [[], ['-'], ['+']] ∧
    digits.length = digitCount ∧ ∀ c ∈ digits, c.isDigit = true
  long : Failure.largestDigitCount < digitCount

theorem refuse_refusal (s : String) (reason : Reason) :
    FailsOnly (Refusal s) (refuse s reason : Except Failure α) :=
  .error ⟨reason, rfl⟩

theorem readFlagWord_refusal (s : String) : FailsOnly (Refusal s) (readFlagWord s) := by
  unfold readFlagWord
  split
  · exact .ok true
  · split
    · exact .ok false
    · exact refuse_refusal s _

theorem readIsoText_refusal (s : String) : FailsOnly (Refusal s) (readIsoText s) := by
  unfold readIsoText
  split
  · exact refuse_refusal s _
  · split
    · exact .ok _
    · exact refuse_refusal s _

theorem readVariables_refusal (s : String) : FailsOnly (Refusal s) (readVariables s) := by
  unfold readVariables
  split
  · exact .ok _
  · exact refuse_refusal s _

/-! ### Numerals -/

/-- A numeral is refused if it is none, and it cannot be read if it is too long. -/
theorem readNumeral_eq_error {s : String} {failure : Failure}
    (fails : readNumeral s = .error failure) :
    Refusal s failure ∨ ∃ n, Overlong s n ∧ failure = .digitLimit n := by
  obtain ⟨sign, signed, parts⟩ := Numeral.splitSign_append s.toList
  unfold readNumeral at fails
  dsimp only at fails
  split at fails
  · exact .inl (refuse_refusal s _ failure fails)
  · rename_i isNumeral
    split at fails
    · rename_i long
      cases fails
      have numeral := Numeral.isDigits_iff.1 (by simpa using isNumeral)
      exact .inr ⟨_, ⟨⟨sign, _, parts, signed, rfl, numeral.ascii⟩, long⟩, rfl⟩
    · cases fails

theorem Overlong.readNumeral_eq {s : String} {n : Nat} (overlong : Overlong s n) :
    readNumeral s = .error (.digitLimit n) := by
  obtain ⟨⟨sign, digits, parts, signed, rfl, ascii⟩, long⟩ := overlong
  have rest : (Numeral.splitSign s.toList).2 = digits :=
    parts ▸ Numeral.splitSign_snd signed (Numeral.splitSign_of_ascii ascii)
  have filled : digits ≠ [] := List.ne_nil_of_length_pos (Nat.zero_lt_of_lt long)
  have isNumeral := Numeral.isDigits_iff.2 ⟨filled, ascii⟩
  unfold readNumeral
  dsimp only
  rw [rest, isNumeral, if_neg (by decide), if_pos long]

/-! ### Converters -/

/-- Fails only with the faults of a text that was given. -/
structure FailsBy (c : Converter) (fault : String → Failure → Prop) : Prop where
  one : ∀ s, FailsOnly (fault s) (c.convert s)
  all : ∀ texts, FailsOnly (fun failure => ∃ s ∈ texts, fault s failure) (c.convertAll texts)

theorem failsOnly_mapM {fault : String → Failure → Prop} {read : String → Except Failure α}
    (each : ∀ s, FailsOnly (fault s) (read s)) (texts : List String) :
    FailsOnly (fun failure => ∃ s ∈ texts, fault s failure) (texts.mapM read) :=
  FailsOnly.mapM fun s given => (each s).mono fun _ faulty => ⟨s, given, faulty⟩

namespace FailsBy

variable {fault : String → Failure → Prop}

theorem ofScalar {kind : String} {read : String → Except Failure Datum}
    (each : ∀ s, FailsOnly (fault s) (read s)) : (ofScalar kind read).FailsBy fault :=
  ⟨each, fun texts => FailsOnly.map _ (failsOnly_mapM each texts)⟩

theorem mono {weaker : String → Failure → Prop} {c : Converter} (h : c.FailsBy fault)
    (implied : ∀ s failure, fault s failure → weaker s failure) : c.FailsBy weaker where
  one s := (h.one s).mono (implied s)
  all texts := (h.all texts).mono fun _ ⟨s, given, faulty⟩ => ⟨s, given, implied s _ faulty⟩

end FailsBy

theorem string_failsBy : string.FailsBy Refusal := .ofScalar fun _ => .ok _

theorem boolean_failsBy : boolean.FailsBy Refusal :=
  .ofScalar fun s => FailsOnly.map _ (readFlagWord_refusal s)

theorem date_failsBy : date.FailsBy Refusal :=
  .ofScalar fun s => FailsOnly.map _ (readIsoText_refusal s)

theorem stringList_failsBy : stringList.FailsBy Refusal := ⟨fun _ => .ok _, fun _ => .ok _⟩

theorem stringSet_failsBy : stringSet.FailsBy Refusal := ⟨fun _ => .ok _, fun _ => .ok _⟩

theorem variableList_failsBy : variableList.FailsBy Refusal where
  one s := FailsOnly.map _ (readVariables_refusal s)
  all texts := FailsOnly.map _ (failsOnly_mapM readVariables_refusal texts)

/-- What can be wrong with a text for a registered converter. -/
inductive TextFault (c : Converter) (s : String) : Failure → Prop
  | refusal {failure : Failure} (refused : Refusal s failure) : TextFault c s failure
  | overlong {n : Nat} (integer : c = .integer) (long : Overlong s n) :
    TextFault c s (.digitLimit n)

theorem integer_failsBy : integer.FailsBy (TextFault integer) :=
  .ofScalar fun s => FailsOnly.map _ fun failure fails => by
    rcases readNumeral_eq_error fails with refused | ⟨n, long, rfl⟩
    · exact .refusal refused
    · exact .overlong rfl long

/-- One of the converters that are registered under a kind. -/
def Registered (c : Converter) : Prop := ∃ kind, ConverterRegistry.standard.get kind = .ok c

theorem Registered.mem {c : Converter} (registered : c.Registered) :
    c ∈ [string, boolean, integer, date, stringList, stringSet, variableList] := by
  obtain ⟨kind, known⟩ := registered
  unfold ConverterRegistry.get at known
  split at known
  · rename_i found
    cases known
    exact List.mem_map_of_mem (f := Prod.snd) (Entries.mem_of_lookup found)
  · cases known

theorem Registered.failsBy {c : Converter} (registered : c.Registered) :
    c.FailsBy (TextFault c) := by
  have refusing {d : Converter} (h : d.FailsBy Refusal) : d.FailsBy (TextFault d) :=
    h.mono fun _ _ refused => .refusal refused
  have known := registered.mem
  simp only [List.mem_cons, List.not_mem_nil, or_false] at known
  rcases known with rfl | rfl | rfl | rfl | rfl | rfl | rfl
  · exact refusing string_failsBy
  · exact refusing boolean_failsBy
  · exact integer_failsBy
  · exact refusing date_failsBy
  · exact refusing stringList_failsBy
  · exact refusing stringSet_failsBy
  · exact refusing variableList_failsBy

end Converter

/-! ### Parameters -/

theorem Parameter.converted_failsOnly {p : Parameter} {fault : String → Failure → Prop}
    (h : p.converter.FailsBy fault) {texts : List String} (given : texts ≠ []) :
    FailsOnly (fun failure => ∃ s ∈ texts, fault s failure) (p.converted texts) := by
  unfold converted
  split
  · exact h.all texts
  · split
    · rename_i s more
      exact (h.one s).mono fun _ faulty => ⟨s, List.mem_cons_self, faulty⟩
    · exact absurd rfl given

/-- The first parameter of a request fails for its first text if that is a numeral too long. -/
theorem Parameter.bindAll_overlong {p : Parameter} (ps : List Parameter) {raw : RawParameters}
    {s : String} {more : List String} {n : Nat} (integer : p.converter = .integer)
    (single : p.multiValued = false) (supplied : raw.values p.name = s :: more)
    (long : Converter.Overlong s n) : bindAll (p :: ps) raw = .error (.digitLimit n) := by
  have reads : p.converter.convert s = .error (.digitLimit n) := by
    rw [integer]
    exact congrArg (Except.map Datum.number) long.readNumeral_eq
  have fails : p.convert (s :: more) = .error (.digitLimit n) := by
    refine convert_eq_error.2 ⟨.digitLimit n, ?_, rfl⟩
    rw [converted, single, if_neg Bool.false_ne_true]
    exact reads
  rw [bindAll, supplied]
  exact bind_eq_error.2 (.inl fails)

namespace ParameterTable

open Converter

/-- Parameters with registered converters are bound, or the request is invalid and one of the texts
that were supplied for a parameter of the table is told with its name, unless an integer has too
many digits. -/
theorem binds_or_refuses (table : ParameterTable)
    (registered : ∀ p ∈ table.toList, p.converter.Registered) (raw : RawParameters) :
    (∃ values, table.bind raw = .ok values) ∨
      ∃ p ∈ table.toList, ∃ s ∈ raw.values p.name,
        (∃ reason, table.bind raw = .error (.binding p.name (.text s) reason) ∧
          (Failure.binding p.name (.text s) reason).isA .invalidRequest = true) ∨
        p.converter = .integer ∧ ∃ n, Overlong s n ∧ table.bind raw = .error (.digitLimit n) := by
  have faults : FailsOnly (fun failure => ∃ p ∈ table.toList, ∃ s ∈ raw.values p.name,
      ∃ cause, TextFault p.converter s cause ∧ cause.about p.name = failure) (table.bind raw) := by
    refine Parameter.bindAll_failsOnly fun p known given failure fails => ?_
    obtain ⟨cause, refuses, told⟩ := Parameter.convert_eq_error.1 fails
    obtain ⟨s, supplied, faulty⟩ :=
      Parameter.converted_failsOnly (registered p known).failsBy given cause refuses
    exact ⟨p, known, s, supplied, cause, faulty, told⟩
  cases bound : table.bind raw with
  | ok values => exact .inl ⟨values, rfl⟩
  | error failure =>
    obtain ⟨p, known, s, supplied, cause, faulty, rfl⟩ := faults failure bound
    refine .inr ⟨p, known, s, supplied, ?_⟩
    cases faulty with
    | refusal refused =>
      obtain ⟨reason, rfl⟩ := refused
      exact .inl ⟨reason, rfl, rfl⟩
    | overlong integer long => exact .inr ⟨integer, _, long, rfl⟩

/-- A table of one integer and of days. -/
def sizesAndDays : ParameterTable where
  toList := [{ name := "size", field := "size", converter := .integer },
    { name := "before", field := "before", converter := .date, multiValued := true }]
  nodup_names := by decide
  nodup_fields := by decide

theorem sizesAndDays_registered : ∀ p ∈ sizesAndDays.toList, p.converter.Registered := by
  simp only [sizesAndDays, List.forall_mem_cons, List.not_mem_nil, false_imp_iff, implies_true,
    and_true]
  exact ⟨⟨"integer", rfl⟩, ⟨"date", rfl⟩⟩

theorem binds_or_refuses_day :
    ∃ raw : RawParameters,
      (∀ p ∈ sizesAndDays.toList, p.converter.Registered) ∧
      raw = RawParameters.normalize
        [("size", .one "-4"), ("before", .many ["2013-01-23", "soon"])] ∧
      sizesAndDays.bind raw = .error (.binding "before" (.text "soon") .moment) ∧
      ((∃ values, sizesAndDays.bind raw = .ok values) ∨
        ∃ p ∈ sizesAndDays.toList, ∃ s ∈ raw.values p.name,
          (∃ reason, sizesAndDays.bind raw = .error (.binding p.name (.text s) reason) ∧
            (Failure.binding p.name (.text s) reason).isA .invalidRequest = true) ∨
          p.converter = .integer ∧
            ∃ n, Overlong s n ∧ sizesAndDays.bind raw = .error (.digitLimit n)) :=
  ⟨_, sizesAndDays_registered, rfl, rfl, binds_or_refuses _ sizesAndDays_registered _⟩

/-- A numeral of one digit too many fails without a word about its parameter, and not as a request
that is invalid. -/
theorem not_refuses_overlong :
    ∃ raw : RawParameters,
      (∀ p ∈ sizesAndDays.toList, p.converter.Registered) ∧
      raw = RawParameters.normalize [("size", .one (String.ofList (List.replicate 4301 '1')))] ∧
      sizesAndDays.bind raw = .error (.digitLimit 4301) ∧
      (Failure.digitLimit 4301).isA .invalidRequest = false ∧
      ¬((∃ values, sizesAndDays.bind raw = .ok values) ∨
        ∃ p ∈ sizesAndDays.toList, ∃ s ∈ raw.values p.name, ∃ reason,
          sizesAndDays.bind raw = .error (.binding p.name (.text s) reason)) := by
  have long : Overlong (String.ofList (List.replicate 4301 '1')) 4301 := by
    refine ⟨⟨[], List.replicate 4301 '1', String.toList_ofList, by simp, List.length_replicate, ?_⟩,
      by decide⟩
    intro c mem
    obtain rfl := List.eq_of_mem_replicate mem
    decide
  have fails : sizesAndDays.bind (RawParameters.normalize
      [("size", .one (String.ofList (List.replicate 4301 '1')))]) = .error (.digitLimit 4301) :=
    Parameter.bindAll_overlong _ rfl rfl rfl long
  refine ⟨_, sizesAndDays_registered, rfl, fails, rfl, ?_⟩
  rintro (⟨values, binds⟩ | ⟨p, _, s, _, reason, refuses⟩)
  · cases fails.symm.trans binds
  · cases fails.symm.trans refuses

end ParameterTable
end QueryBinding
