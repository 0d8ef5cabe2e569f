import QueryBinding.Calendar.UnixTime
import QueryBinding.Proofs.Number.Numeral
/-!
The grammar of the numbers that count from 1970: a sign that may be missing, and digits. A number
with a point may have its digits on either side of it, and an exponent.
-/
namespace QueryBinding

open Numeral

namespace DecimalText

/-- A power of ten behind a number; it may be missing. -/
inductive Exponent : List Char → Prop
  | absent : Exponent []
  | power {mark : Char} {sign digits : List Char} (marked : mark = 'e' ∨ mark = 'E')
    (signed : sign ∈ [[], ['-'], ['+']]) (numeral : Digits digits) :
    Exponent (mark :: (sign ++ digits))

variable {cs : List Char}

theorem Exponent.noDigitHead (power : Exponent cs) : NoDigitHead cs := by
  cases power with
  | absent => exact noDigitHead_nil
  | power marked _ _ =>
    refine noDigitHead_cons ?_ _
    rcases marked with rfl | rfl <;> decide

theorem exponent?_isSome_iff : (exponent? cs).isSome ↔ Exponent cs := by
  constructor
  · intro reads
    cases cs with
    | nil => exact .absent
    | cons mark cs =>
      obtain ⟨sign, signed, parts⟩ := splitSign_append cs
      rw [exponent?] at reads
      dsimp only at reads
      split at reads
      · rename_i marked
        rw [parts]
        exact .power marked.1 signed (isDigits_iff.1 marked.2)
      · cases reads
  · intro power
    cases power with
    | absent => rfl
    | @power mark sign digits marked signed numeral =>
      have rest := splitSign_snd signed (splitSign_of_ascii numeral.ascii)
      rw [exponent?]
      dsimp only
      rw [rest, if_pos ⟨marked, isDigits_iff.2 numeral⟩]
      rfl

theorem eq_nil_of_exponent? (reads : exponent? cs = some none) : cs = [] := by
  cases cs with
  | nil => rfl
  | cons mark cs =>
    rw [exponent?] at reads
    dsimp only at reads
    split at reads <;> cases reads

end DecimalText

namespace UnixTime

open DecimalText

/-- The texts of the numbers that count from 1970. -/
inductive IsNumber : List Char → Prop
  | integer {sign whole : List Char} (signed : sign ∈ [[], ['-'], ['+']])
    (numeral : Digits whole) : IsNumber (sign ++ whole)
  | pointed {sign whole fraction power : List Char} (signed : sign ∈ [[], ['-'], ['+']])
    (numeral : Digits (whole ++ fraction)) (scaled : Exponent power) :
    IsNumber (sign ++ (whole ++ '.' :: (fraction ++ power)))

variable {cs : List Char}

theorem isNumber_of_number? {text : DecimalText} (reads : number? cs = some text) :
    IsNumber cs := by
  obtain ⟨known, simple⟩ := Option.filter_eq_some_iff.1 reads
  obtain ⟨sign, signed, parts⟩ := splitSign_append cs
  have cut := List.takeWhile_append_dropWhile (p := Char.isDigit) (l := (splitSign cs).2)
  have ascii := ascii_takeWhile (splitSign cs).2
  unfold read? at known
  dsimp only at known
  split at known
  · rename_i rest pointed
    have cutRest := List.takeWhile_append_dropWhile (p := Char.isDigit) (l := rest)
    split at known
    · cases known
    · rename_i filled
      obtain ⟨power, scaled, _⟩ := Option.bind_eq_some_iff.1 known
      have exponent := exponent?_isSome_iff.1 (Option.isSome_of_eq_some scaled)
      rw [parts, ← cut, pointed, ← cutRest]
      refine .pointed signed ⟨?_, ?_⟩ exponent
      · intro empty
        obtain ⟨whole, fraction⟩ := List.append_eq_nil_iff.1 empty
        refine filled ?_
        dsimp only
        rw [whole, Option.getD_some, fraction]
        rfl
      · exact List.forall_mem_append.2 ⟨ascii, ascii_takeWhile rest⟩
  · split at known
    · cases known
    · rename_i filled
      obtain ⟨power, scaled, same⟩ := Option.bind_eq_some_iff.1 known
      cases same
      obtain rfl : power = none := Option.isNone_iff_eq_none.1 simple
      have ends : (splitSign cs).2.dropWhile Char.isDigit = [] := eq_nil_of_exponent? scaled
      rw [ends, List.append_nil] at cut
      rw [parts]
      refine .integer signed ⟨?_, ?_⟩
      · intro empty
        refine filled ?_
        rw [cut, empty]
        rfl
      · rw [← cut]
        exact ascii

theorem number?_isSome_iff : (number? cs).isSome ↔ IsNumber cs := by
  constructor
  · intro reads
    obtain ⟨text, reads⟩ := Option.isSome_iff_exists.1 reads
    exact isNumber_of_number? reads
  · intro number
    cases number with
    | @integer sign whole signed numeral =>
      have rest := splitSign_snd signed (splitSign_of_ascii numeral.ascii)
      obtain ⟨front, back⟩ := span_digits numeral.ascii noDigitHead_nil
      rw [List.append_nil] at front back
      have filled : whole.isEmpty = false := List.isEmpty_eq_false_iff.2 numeral.filled
      unfold number? read?
      dsimp only
      rw [rest, back, front]
      dsimp only
      rw [filled]
      rfl
    | @pointed sign whole fraction power signed numeral scaled =>
      obtain ⟨ascii, ascii'⟩ := List.forall_mem_append.1 numeral.ascii
      have unsigned : splitSign (whole ++ '.' :: (fraction ++ power)) =
          (false, whole ++ '.' :: (fraction ++ power)) := by
        cases whole with
        | nil => rfl
        | cons c whole => exact splitSign_cons_of_isDigit (ascii c List.mem_cons_self) _
      have rest := splitSign_snd signed unsigned
      have ends : NoDigitHead ('.' :: (fraction ++ power)) := noDigitHead_cons rfl _
      obtain ⟨front, back⟩ := span_digits ascii ends
      obtain ⟨front', back'⟩ := span_digits ascii' scaled.noDigitHead
      have filled : ¬(whole.isEmpty && fraction.isEmpty) = true := by
        rw [Bool.and_eq_true, List.isEmpty_iff, List.isEmpty_iff, ← List.append_eq_nil_iff]
        exact numeral.filled
      obtain ⟨exponent, reads⟩ := Option.isSome_iff_exists.1 (exponent?_isSome_iff.2 scaled)
      unfold number? read?
      dsimp only
      rw [rest, back, front]
      simp only [front', back', Option.getD_some, if_neg filled, reads]
      rfl

/-- Digits that a dash follows begin no number. -/
theorem not_isNumber_of_dash {c : Char} {digits : List Char}
    (ascii : ∀ d ∈ c :: digits, d.isDigit = true) (rest : List Char) :
    ¬IsNumber (c :: digits ++ '-' :: rest) := by
  intro number
  have reads := number?_isSome_iff.2 number
  have unsigned := splitSign_cons_of_isDigit (ascii c List.mem_cons_self) (digits ++ '-' :: rest)
  have ends : NoDigitHead ('-' :: rest) := noDigitHead_cons rfl rest
  obtain ⟨front, back⟩ := span_digits ascii ends
  rw [List.cons_append] at front back reads
  unfold number? read? at reads
  dsimp only at reads
  rw [unsigned] at reads
  simp only [front, back] at reads
  cases reads

end UnixTime
end QueryBinding
