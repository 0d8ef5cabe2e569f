import QueryBinding.Converter
import QueryBinding.Proofs.Number.LenientNumeral
import QueryBinding.Proofs.Run
/-!
The grammar of integers in requests. A text that is not too long is converted if and only if it is a
numeral, and to the integer that the numeral denotes. Integers are converted back from their own
texts, and a field for integers reads what is converted as the same integer.
-/
namespace QueryBinding.Converter

open Numeral

variable {s : String}

theorem readNumeral_of_denotes {n : Int} (denotes : Denotes s.toList n)
    (short : s.toList.countP Char.isDigit ≤ Failure.largestDigitCount) :
    readNumeral s = .ok n := by
  obtain ⟨numeral, same⟩ := denotes_iff.1 denotes
  have bounded : ¬Failure.largestDigitCount < (splitSign s.toList).2.length := by
    rw [denotes.digitCount]
    omega
  unfold readNumeral
  dsimp only
  rw [isDigits_iff.2 numeral, if_neg (by decide), if_neg bounded, ← same]

theorem readNumeral_of_not_denotes (none : ∀ n, ¬Denotes s.toList n) :
    readNumeral s = refuse s .integer := by
  have noDigits : isDigits (splitSign s.toList).2 = false := by
    rw [Bool.eq_false_iff, Ne, isDigits_iff]
    intro numeral
    exact none _ (denotes_iff.2 ⟨numeral, rfl⟩)
  unfold readNumeral
  dsimp only
  rw [noDigits, if_pos (by decide)]

theorem denotes_of_readNumeral {n : Int} (reads : readNumeral s = .ok n) :
    Denotes s.toList n ∧ s.toList.countP Char.isDigit ≤ Failure.largestDigitCount := by
  unfold readNumeral at reads
  dsimp only at reads
  split at reads
  · cases reads
  · rename_i isNumeral
    split at reads
    · cases reads
    · rename_i short
      have numeral : Digits (splitSign s.toList).2 := isDigits_iff.1 (by simpa using isNumeral)
      have denotes := denotes_iff.2 ⟨numeral, (Except.ok.inj reads).symm⟩
      rw [denotes.digitCount] at short
      exact ⟨denotes, by omega⟩

theorem integer_eq_ok {d : Datum} :
    integer.convert s = .ok d ↔ ∃ n, readNumeral s = .ok n ∧ .number n = d := map_eq_ok

theorem integer_eq_error {failure : Failure} :
    integer.convert s = .error failure ↔ readNumeral s = .error failure := map_eq_error

theorem integer_ofInt {n : Int} (short : (digits n.natAbs).length ≤ Failure.largestDigitCount) :
    integer.convert (String.ofList (ofInt n)) = .ok (.number n) := by
  have text : (String.ofList (ofInt n)).toList = ofInt n := String.toList_ofList
  refine integer_eq_ok.2 ⟨n, readNumeral_of_denotes ?_ ?_, rfl⟩
  · rw [text]
    exact denotes_ofInt n
  · rw [text, countP_ofInt]
    exact short

/-- A field for integers reads a text that is converted as the same integer. -/
theorem read_of_integer {d : Datum} (converts : integer.convert s = .ok d) :
    FieldType.integer.read (.text s) = .ok d := by
  obtain ⟨n, reads, rfl⟩ := integer_eq_ok.1 converts
  obtain ⟨denotes, short⟩ := denotes_of_readNumeral reads
  have lenient := LenientNumeral.read_of_denotes denotes short
  rw [FieldType.read, readInteger, lenient]
  rfl

end QueryBinding.Converter
