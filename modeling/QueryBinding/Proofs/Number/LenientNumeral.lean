import Mathlib.Data.List.TakeWhile
import QueryBinding.Number.LenientNumeral
import QueryBinding.Proofs.Number.Numeral
/-!
Lenient numerals. A numeral that is not too long has no adornments but a plus sign and leading
zeros; reading it leniently takes these away and gives the integer that it denotes.
-/
namespace QueryBinding.LenientNumeral

open Numeral

/-! ### Adornments that a numeral does not have -/

/-- A character of a numeral. -/
def IsMark (c : Char) : Prop := c.isDigit = true ∨ c = '-' ∨ c = '+'

theorem IsMark.ne {c d : Char} (mark : IsMark c) (other : ¬IsMark d) : c ≠ d :=
  fun same => other (same ▸ mark)

theorem IsMark.not_isSpace {c : Char} (mark : IsMark c) : Text.isSpace c = false := by
  rcases mark with digit | rfl | rfl
  · simp only [Char.isDigit, Bool.and_eq_true, decide_eq_true_eq, ge_iff_le,
      UInt32.le_iff_toNat_le] at digit
    obtain ⟨low, high⟩ := digit
    change 48 ≤ c.toNat at low
    change c.toNat ≤ 57 at high
    simp only [Text.isSpace, Bool.or_eq_false_iff, Bool.and_eq_false_imp, decide_eq_true_eq,
      decide_eq_false_iff_not, beq_eq_false_iff_ne]
    omega
  · decide
  · decide

theorem marks_of_digits {cs : List Char} (digits : Digits cs) : ∀ c ∈ cs, IsMark c :=
  fun c mem => .inl (digits.ascii c mem)

theorem marks_cons {c : Char} {cs : List Char} (mark : IsMark c) (digits : Digits cs) :
    ∀ d ∈ c :: cs, IsMark d :=
  List.forall_mem_cons.2 ⟨mark, marks_of_digits digits⟩

variable {cs : List Char}

theorem trim_of_marks (marks : ∀ c ∈ cs, IsMark c) : Text.trimWhere Text.isSpace cs = cs := by
  have front {ds : List Char} (known : ∀ c ∈ ds, IsMark c) : ds.dropWhile Text.isSpace = ds := by
    cases ds with
    | nil => rfl
    | cons d ds => exact List.dropWhile_cons_of_neg (by
        rw [(known d List.mem_cons_self).not_isSpace]
        decide)
  have back : ∀ c ∈ cs.reverse, IsMark c := fun c mem => marks c (List.mem_reverse.1 mem)
  rw [Text.trimWhere, front marks, front back, List.reverse_reverse]

theorem withoutFraction?_of_marks (marks : ∀ c ∈ cs, IsMark c) : withoutFraction? cs = some cs := by
  have pointless : ∀ c ∈ cs, (c != '.') = true := by
    intro c mem
    exact bne_iff_ne.2 ((marks c mem).ne (by unfold IsMark; decide))
  rw [withoutFraction?, List.dropWhile_eq_nil_iff.2 pointless,
    List.takeWhile_eq_self_iff.2 pointless]
  rfl

theorem underscoresApart_of_marks (marks : ∀ c ∈ cs, IsMark c) : underscoresApart cs = true := by
  induction cs with
  | nil => rfl
  | cons c cs ih =>
    obtain ⟨mark, others⟩ := List.forall_mem_cons.1 marks
    have distinct := mark.ne (d := '_') (by unfold IsMark; decide)
    rw [underscoresApart]
    · exact ih others
    · rintro _ rfl
      contradiction

theorem withoutUnderscores?_of_marks (marks : ∀ c ∈ cs, IsMark c) :
    withoutUnderscores? cs = some cs := by
  have distinct : ∀ c ∈ cs, c ≠ '_' := fun c mem =>
    (marks c mem).ne (by unfold IsMark; decide)
  have first : cs.head? ≠ some '_' := fun same => distinct _ (List.mem_of_head? same) rfl
  have last : cs.getLast? ≠ some '_' := fun same => distinct _ (List.mem_of_getLast? same) rfl
  have kept : cs.filter (· != '_') = cs :=
    List.filter_eq_self.2 fun c mem => bne_iff_ne.2 (distinct c mem)
  simp only [withoutUnderscores?, first, last, underscoresApart_of_marks marks, kept,
    Bool.not_true, Bool.false_eq_true, or_self, if_false]

/-! ### Leading zeros -/

/-- The digits without leading zeros. -/
structure Stripped (digits rest : List Char) : Prop where
  numeral : Digits rest
  bare : hasLeadingZero rest = false
  same : value rest = value digits
  shorter : rest.length ≤ digits.length

theorem Stripped.zero_cons {digits rest : List Char} (stripped : Stripped digits rest) :
    Stripped ('0' :: digits) rest where
  numeral := stripped.numeral
  bare := stripped.bare
  same := stripped.same
  shorter := Nat.le_succ_of_le stripped.shorter

theorem stripped_self {c : Char} {digits : List Char} (numeral : Digits (c :: digits))
    (nonzero : c ≠ '0') : Stripped (c :: digits) (c :: digits) where
  numeral := numeral
  bare := by
    unfold hasLeadingZero
    split
    · rename_i same
      exact absurd (List.cons.inj same).1 nonzero
    · rfl
  same := rfl
  shorter := Nat.le_refl _

theorem afterZero?_digits {digits : List Char} (ascii : ∀ c ∈ digits, c.isDigit = true) :
    ∃ rest, afterZero? '0' digits = some rest ∧ Stripped ('0' :: digits) rest := by
  induction digits with
  | nil => exact ⟨['0'], rfl, ⟨isDigits_iff.1 rfl, rfl, rfl, Nat.le_refl _⟩⟩
  | cons c digits ih =>
    obtain ⟨digit, others⟩ := List.forall_mem_cons.1 ascii
    by_cases zero : c = '0'
    · subst zero
      obtain ⟨rest, strips, stripped⟩ := ih others
      exact ⟨rest, strips, stripped.zero_cons⟩
    · have further : ¬(c = '0' ∨ c = '_') := by
        rintro (same | rfl)
        · exact zero same
        · exact absurd digit (by decide)
      refine ⟨c :: digits, ?_, (stripped_self ⟨by simp, ascii⟩ zero).zero_cons⟩
      rw [afterZero?, if_neg further, if_pos (.inl digit)]

theorem withoutLeadingZeros?_digits {digits : List Char} (numeral : Digits digits) :
    ∃ rest, withoutLeadingZeros? digits = some rest ∧ Stripped digits rest := by
  cases digits with
  | nil => exact absurd rfl numeral.filled
  | cons c digits =>
    obtain ⟨digit, others⟩ := List.forall_mem_cons.1 numeral.ascii
    by_cases zero : c = '0'
    · subst zero
      exact afterZero?_digits others
    · refine ⟨c :: digits, ?_, stripped_self numeral zero⟩
      rw [withoutLeadingZeros?, if_neg zero, if_pos (.inl digit)]

/-! ### Reading numerals -/

theorem isOversized_eq_false (few : cs.countP Char.isDigit ≤ largestCount) :
    isOversized cs = false := by
  have part : ((splitMinus cs).2.takeWhile Char.isDigit).Sublist cs := by
    refine (List.takeWhile_sublist _).trans ?_
    unfold splitMinus
    split
    · exact List.sublist_cons_self _ _
    · exact List.Sublist.refl _
  have count : ((splitMinus cs).2.takeWhile Char.isDigit).length ≤ cs.countP Char.isDigit := by
    rw [← List.countP_eq_length.2 (ascii_takeWhile (splitMinus cs).2)]
    exact part.countP_le
  have bounded : ¬largestCount < ((splitMinus cs).2.takeWhile Char.isDigit).length := by omega
  simp only [isOversized, bounded, decide_false, Bool.and_false]

/-- A sign that plain numerals may have. -/
def minusSign (negative : Bool) : List Char := if negative then ['-'] else []

theorem plain?_stripped {digits rest : List Char} (negative : Bool)
    (stripped : Stripped digits rest) :
    plain? (minusSign negative ++ rest) = some (signed negative (value digits)) := by
  have split : splitMinus (minusSign negative ++ rest) = (negative, rest) := by
    cases negative with
    | true => rfl
    | false =>
      change splitMinus rest = (false, rest)
      unfold splitMinus
      split
      · exact absurd (stripped.numeral.ascii '-' List.mem_cons_self) (by decide)
      · rfl
  rw [plain?, split]
  dsimp only
  rw [isDigits_iff.2 stripped.numeral, stripped.bare, stripped.same]
  rfl

theorem marks_stripped {digits rest : List Char} (negative : Bool)
    (stripped : Stripped digits rest) : ∀ c ∈ minusSign negative ++ rest, IsMark c := by
  cases negative with
  | true => exact marks_cons (.inr (.inl rfl)) stripped.numeral
  | false => exact marks_of_digits stripped.numeral

/-- What is left after plus sign and zeros has no further adornment, and no more digits. -/
theorem read_of_stripped {digits rest : List Char} (negative : Bool)
    (few : cs.countP Char.isDigit ≤ largestCount) (count : digits.length ≤ cs.countP Char.isDigit)
    (stripped : Stripped digits rest)
    (bare : (withoutPlus? (Text.trimWhere Text.isSpace cs) >>= withoutZeros?) =
      some (minusSign negative ++ rest)) :
    read cs = .ok (signed negative (value digits)) := by
  have marks := marks_stripped negative stripped
  have unadorned : unadorned? cs = some (minusSign negative ++ rest) := by
    rw [unadorned?, ← bind_assoc, bare]
    change (withoutFraction? _ >>= withoutUnderscores?) = _
    rw [withoutFraction?_of_marks marks]
    exact withoutUnderscores?_of_marks marks
  have countRest : (minusSign negative ++ rest).countP Char.isDigit = rest.length := by
    rw [List.countP_append, stripped.numeral.countP_eq]
    cases negative <;> simp [minusSign]
  have short : isOversized (minusSign negative ++ rest) = false := by
    apply isOversized_eq_false
    have := stripped.shorter
    omega
  unfold read
  rw [isOversized_eq_false few, unadorned]
  simp only [Bool.false_eq_true, if_false, Option.filter_some, short, Bool.not_false, if_true,
    Option.bind_eq_bind, Option.bind_some, plain?_stripped negative stripped]

theorem withoutPlus?_of_ascii {digits : List Char} (ascii : ∀ c ∈ digits, c.isDigit = true) :
    withoutPlus? digits = some digits ∧ withoutPlus? ('+' :: digits) = some digits := by
  constructor
  · unfold withoutPlus?
    split
    · exact absurd (ascii '+' List.mem_cons_self) (by decide)
    · exact absurd (ascii '+' List.mem_cons_self) (by decide)
    · rfl
  · unfold withoutPlus?
    split
    · rename_i same
      cases same
      exact absurd (ascii '-' List.mem_cons_self) (by decide)
    · rename_i same
      cases same
      rfl
    · rename_i other
      exact absurd rfl (other digits)

theorem withoutZeros?_of_ascii {digits : List Char} (ascii : ∀ c ∈ digits, c.isDigit = true) :
    withoutZeros? digits = withoutLeadingZeros? digits := by
  unfold withoutZeros?
  split
  · exact absurd (ascii '-' List.mem_cons_self) (by decide)
  · rfl

/-- A numeral with no more digits than may be is read as what it denotes. -/
theorem read_of_denotes {n : Int} (denotes : Denotes cs n)
    (few : cs.countP Char.isDigit ≤ largestCount) : read cs = .ok n := by
  cases denotes with
  | plain numeral =>
    obtain ⟨rest, strips, stripped⟩ := withoutLeadingZeros?_digits numeral
    refine read_of_stripped false few (Nat.le_of_eq numeral.countP_eq.symm)
      stripped ?_
    rw [trim_of_marks (marks_of_digits numeral), (withoutPlus?_of_ascii numeral.ascii).1]
    exact (withoutZeros?_of_ascii numeral.ascii).trans strips
  | plus numeral =>
    obtain ⟨rest, strips, stripped⟩ := withoutLeadingZeros?_digits numeral
    refine read_of_stripped false few
      (Nat.le_of_eq (Denotes.plus numeral).digitCount) stripped ?_
    rw [trim_of_marks (marks_cons (.inr (.inr rfl)) numeral),
      (withoutPlus?_of_ascii numeral.ascii).2]
    exact (withoutZeros?_of_ascii numeral.ascii).trans strips
  | minus numeral =>
    obtain ⟨rest, strips, stripped⟩ := withoutLeadingZeros?_digits numeral
    refine read_of_stripped true few
      (Nat.le_of_eq (Denotes.minus numeral).digitCount) stripped ?_
    rw [trim_of_marks (marks_cons (.inr (.inl rfl)) numeral)]
    exact congrArg (Option.map ('-' :: ·)) strips

end QueryBinding.LenientNumeral
