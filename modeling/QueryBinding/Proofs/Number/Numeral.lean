import Mathlib.Algebra.Group.Nat.Defs
import QueryBinding.Number.Numeral
/-!
Numerals as texts. A numeral is a run of digits behind a sign that may be missing, and it denotes an
integer in decimal; every integer is written as a numeral that denotes it. A field of some width is
a run of exactly so many digits, and so are numbers written that must not outgrow it.
-/
namespace QueryBinding.Numeral

/-- Digits, at least one, and nothing else. -/
structure Digits (cs : List Char) : Prop where
  filled : cs ≠ []
  ascii : ∀ c ∈ cs, c.isDigit = true

theorem isDigits_iff {cs : List Char} : isDigits cs = true ↔ Digits cs := by
  simp only [isDigits, Bool.and_eq_true, Bool.not_eq_true', List.isEmpty_eq_false_iff,
    List.all_eq_true]
  exact ⟨fun h => ⟨h.1, h.2⟩, fun h => ⟨h.filled, h.ascii⟩⟩

theorem Digits.countP_eq {cs : List Char} (digits : Digits cs) :
    cs.countP Char.isDigit = cs.length :=
  List.countP_eq_length.2 digits.ascii

/-! ### Signs -/

theorem splitSign_append (cs : List Char) :
    ∃ sign ∈ [[], ['-'], ['+']], cs = sign ++ (splitSign cs).2 := by
  unfold splitSign
  split <;> simp

theorem splitSign_cons_of_isDigit {c : Char} (digit : c.isDigit = true) (cs : List Char) :
    splitSign (c :: cs) = (false, c :: cs) := by
  unfold splitSign
  split
  · rename_i same
    cases same
    exact absurd digit (by decide)
  · rename_i same
    cases same
    exact absurd digit (by decide)
  · rfl

theorem splitSign_of_ascii {cs : List Char} (ascii : ∀ c ∈ cs, c.isDigit = true) :
    splitSign cs = (false, cs) := by
  cases cs with
  | nil => rfl
  | cons c cs => exact splitSign_cons_of_isDigit (ascii c List.mem_cons_self) cs

/-- A sign is told from what follows it, if that has no sign of its own. -/
theorem splitSign_snd {sign cs : List Char} (signed : sign ∈ [[], ['-'], ['+']])
    (unsigned : splitSign cs = (false, cs)) : (splitSign (sign ++ cs)).2 = cs := by
  simp only [List.mem_cons, List.not_mem_nil, or_false] at signed
  rcases signed with rfl | rfl | rfl
  · rw [List.nil_append, unsigned]
  · rfl
  · rfl

/-! ### Runs of digits -/

/-- No digit begins a text, so that digits in front of it end where it starts. -/
def NoDigitHead (rest : List Char) : Prop := ∀ c ∈ rest.head?, c.isDigit = false

theorem noDigitHead_nil : NoDigitHead [] := fun _ mem => nomatch mem

theorem noDigitHead_cons {c : Char} (other : c.isDigit = false) (cs : List Char) :
    NoDigitHead (c :: cs) := by
  intro d mem
  obtain rfl := Option.mem_some.1 mem
  exact other

theorem ascii_takeWhile (cs : List Char) :
    ∀ c ∈ cs.takeWhile Char.isDigit, c.isDigit = true :=
  List.all_eq_true.1 List.all_takeWhile

theorem span_digits {digits rest : List Char} (ascii : ∀ c ∈ digits, c.isDigit = true)
    (ends : NoDigitHead rest) :
    (digits ++ rest).takeWhile Char.isDigit = digits ∧
      (digits ++ rest).dropWhile Char.isDigit = rest := by
  rw [List.takeWhile_append_of_pos ascii, List.dropWhile_append_of_pos ascii]
  cases rest with
  | nil => exact ⟨List.append_nil digits, rfl⟩
  | cons c cs =>
    have other : ¬c.isDigit = true := by
      rw [ends c rfl]
      exact Bool.false_ne_true
    rw [List.takeWhile_cons_of_neg other, List.dropWhile_cons_of_neg other]
    exact ⟨List.append_nil digits, rfl⟩

/-! ### Integers -/

/-- A text is a numeral of an integer: digits, with a sign in front of them or without one. -/
inductive Denotes : List Char → Int → Prop
  | plain {digits : List Char} (numeral : Digits digits) : Denotes digits (value digits)
  | plus {digits : List Char} (numeral : Digits digits) : Denotes ('+' :: digits) (value digits)
  | minus {digits : List Char} (numeral : Digits digits) : Denotes ('-' :: digits) (-value digits)

theorem denotes_iff {cs : List Char} {n : Int} :
    Denotes cs n ↔
      Digits (splitSign cs).2 ∧ n = signed (splitSign cs).1 (value (splitSign cs).2) := by
  constructor
  · intro denotes
    cases denotes with
    | plain numeral =>
      rw [splitSign_of_ascii numeral.ascii]
      exact ⟨numeral, rfl⟩
    | plus numeral => exact ⟨numeral, rfl⟩
    | minus numeral => exact ⟨numeral, rfl⟩
  · rintro ⟨numeral, rfl⟩
    unfold splitSign at numeral ⊢
    split at numeral
    · exact .minus numeral
    · exact .plus numeral
    · exact .plain numeral

theorem Denotes.digitCount {cs : List Char} {n : Int} (denotes : Denotes cs n) :
    (splitSign cs).2.length = cs.countP Char.isDigit := by
  cases denotes with
  | plain numeral => rw [splitSign_of_ascii numeral.ascii, numeral.countP_eq]
  | plus numeral => exact (List.countP_cons_of_neg (by decide)).trans numeral.countP_eq |>.symm
  | minus numeral => exact (List.countP_cons_of_neg (by decide)).trans numeral.countP_eq |>.symm

theorem digits_digits (n : Nat) : Digits (digits n) :=
  ⟨Nat.toDigits_ne_nil, fun _ mem => Nat.isDigit_of_mem_toDigits (by decide) (by decide) mem⟩

theorem denotes_ofInt (n : Int) : Denotes (ofInt n) n := by
  cases n with
  | ofNat n =>
    have denotes := Denotes.plain (digits_digits n)
    rwa [value_digits] at denotes
  | negSucc n =>
    have denotes := Denotes.minus (digits_digits (n + 1))
    rwa [value_digits] at denotes

theorem countP_ofInt (n : Int) :
    (ofInt n).countP Char.isDigit = (digits n.natAbs).length := by
  cases n with
  | ofNat n => exact (digits_digits n).countP_eq
  | negSucc n => exact (List.countP_cons_of_neg (by decide)).trans (digits_digits _).countP_eq

/-! ### Fixed width -/

/-- Exactly `width` digits, which denote `n`. -/
structure Field (width n : Nat) (cs : List Char) : Prop where
  length : cs.length = width
  ascii : ∀ c ∈ cs, c.isDigit = true
  denotes : value cs = n

theorem value_snoc (cs : List Char) {d : Nat} (small : d < 10) :
    value (cs ++ [Nat.digitChar d]) = 10 * value cs + d := by
  rw [value, Nat.ofDigitChars_append, Nat.ofDigitChars_cons_digitChar_of_lt_ten small,
    Nat.ofDigitChars_nil, value]

/-- A number that fits in a field fills it. -/
theorem field_padded {width n : Nat} (fits : n < 10 ^ width) : Field width n (padded width n) := by
  induction width generalizing n with
  | zero =>
    have zero : n = 0 := by omega
    subst zero
    exact ⟨rfl, by simp [padded], rfl⟩
  | succ width ih =>
    have front := ih (n := n / 10) (by omega)
    have small : n % 10 < 10 := Nat.mod_lt n (by decide)
    refine ⟨?_, ?_, ?_⟩
    · rw [padded, List.length_append, front.length, List.length_singleton]
    · intro c mem
      rw [padded, List.mem_append, List.mem_singleton] at mem
      rcases mem with mem | rfl
      · exact front.ascii c mem
      · rw [Nat.isDigit_digitChar]
        exact decide_eq_true small
    · rw [padded, value_snoc _ small, front.denotes]
      omega

end QueryBinding.Numeral
