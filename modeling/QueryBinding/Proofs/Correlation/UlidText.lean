import QueryBinding.Correlation.Ulid
import QueryBinding.Proofs.Run
/-!
The texts of identifiers. An identifier is spelled by its digits, letters in upper or lower case;
what spells one is told by its length, its alphabet and its first digit, and it spells one only.
-/
namespace QueryBinding.Ulid

/-- The texts of identifiers: 26 characters of the alphabet, letters in either case, of which the
first is a digit up to seven. -/
structure IsText (cs : List Char) : Prop where
  length_eq : cs.length = 26
  known : ∀ c ∈ cs, c.toUpper ∈ alphabet
  front : ∀ c ∈ cs.head?, c ≤ '7'

-- Said by `all`, so that it is decided by the characters of the text and not by all there are.
instance (cs : List Char) : Decidable (IsText cs) :=
  decidable_of_iff (cs.length = 26 ∧ cs.all (decide <| ·.toUpper ∈ alphabet) = true ∧
      cs.head?.all (decide <| · ≤ '7') = true) <| by
    simp only [List.all_eq_true, Option.all_eq_true, decide_eq_true_eq]
    exact ⟨fun h => ⟨h.1, h.2.1, h.2.2⟩, fun h => ⟨h.length_eq, h.known, h.front⟩⟩

/-- The text as it is written, but each letter in either case. -/
def Spells (cs : List Char) (u : Ulid) : Prop :=
  List.Forall₂ (fun c d => c = d ∨ c = d.toLower) cs u.write

variable {cs : List Char} {c : Char} {d : Fin 32} {u v : Ulid}

/-! ### Digits -/

theorem toUpper_writeDigit (d : Fin 32) : (writeDigit d).toUpper = writeDigit d := by
  revert d
  decide +kernel

theorem toUpper_toLower_writeDigit (d : Fin 32) :
    (writeDigit d).toLower.toUpper = writeDigit d := by
  revert d
  decide +kernel

theorem eq_or_eq_toLower_toUpper (c : Char) : c = c.toUpper ∨ c = c.toUpper.toLower := by
  by_cases lower : 'a'.val ≤ c.val ∧ c.val ≤ 'z'.val
  · right
    have letters : ∀ n < 26, Char.ofNat (97 + n) = (Char.ofNat (97 + n)).toUpper.toLower := by
      decide +kernel
    have low : 97 ≤ c.toNat := lower.1
    have high : c.toNat ≤ 122 := lower.2
    have letter := letters (c.toNat - 97) (by omega)
    rw [Nat.add_sub_cancel' low, Char.ofNat_toNat] at letter
    exact letter
  · left
    have unchanged : c.toUpper = c := dif_neg lower
    exact unchanged.symm

theorem toUpper_eq_writeDigit :
    c.toUpper = writeDigit d ↔ c = writeDigit d ∨ c = (writeDigit d).toLower := by
  constructor
  · intro same
    rw [← same]
    exact eq_or_eq_toLower_toUpper c
  · rintro (rfl | rfl)
    · exact toUpper_writeDigit d
    · exact toUpper_toLower_writeDigit d

theorem readDigit?_eq_some :
    readDigit? c = some d ↔ c = writeDigit d ∨ c = (writeDigit d).toLower := by
  rw [← toUpper_eq_writeDigit]
  constructor
  · intro reads
    unfold readDigit? at reads
    have found := List.find?_some reads
    exact (beq_iff_eq.1 found).symm
  · intro same
    have reads := readDigit?_writeDigit d
    rw [readDigit?, toUpper_writeDigit, ← same] at reads
    exact reads

/-- A character spells a digit exactly if it is one of the alphabet. -/
theorem exists_spelled_iff :
    (∃ d, c = writeDigit d ∨ c = (writeDigit d).toLower) ↔ c.toUpper ∈ alphabet := by
  simp only [← toUpper_eq_writeDigit]
  constructor
  · rintro ⟨d, same⟩
    rw [same]
    exact List.get_mem alphabet d
  · intro mem
    obtain ⟨d, same⟩ := List.get_of_mem mem
    exact ⟨d, same.symm⟩

theorem le_seven_iff (spelled : c = writeDigit d ∨ c = (writeDigit d).toLower) :
    c ≤ '7' ↔ d.val ≤ 7 := by
  have upper : ∀ d, writeDigit d ≤ '7' ↔ d.val ≤ 7 := by decide +kernel
  have lower : ∀ d, (writeDigit d).toLower ≤ '7' ↔ d.val ≤ 7 := by decide +kernel
  rcases spelled with rfl | rfl
  · exact upper d
  · exact lower d

/-! ### Texts -/

theorem spells_iff :
    Spells cs u ↔ List.Forall₂ (fun c d => c = writeDigit d ∨ c = (writeDigit d).toLower) cs
      u.digits := by
  rw [Spells, write, List.forall₂_map_right_iff]

theorem read?_eq_some : read? cs = some u ↔ Spells cs u := by
  have digits : read? cs = some u ↔ cs.mapM readDigit? = some u.digits := by
    unfold read?
    cases cs.mapM readDigit? with
    | none => simp
    | some ds =>
      change (if h : ds.length = 26 ∧ ∀ d ∈ ds.head?, d.val ≤ 7 then
        some (Ulid.mk ds h.1 h.2) else none) = some u ↔ _
      constructor
      · intro reads
        split at reads
        · cases reads
          rfl
        · cases reads
      · intro same
        cases Option.some.inj same
        rw [dif_pos ⟨u.length_eq, u.head_le⟩]
  rw [digits, mapM_eq_some_iff_forall₂, spells_iff]
  simp only [readDigit?_eq_some]

theorem spells_write (u : Ulid) : Spells u.write u := List.forall₂_same.2 fun _ _ => .inl rfl

theorem front_iff {ds : List (Fin 32)}
    (spelled : List.Forall₂ (fun c d => c = writeDigit d ∨ c = (writeDigit d).toLower) cs ds) :
    (∀ c ∈ cs.head?, c ≤ '7') ↔ ∀ d ∈ ds.head?, d.val ≤ 7 := by
  cases spelled with
  | nil => simp
  | cons head _ => simpa using le_seven_iff head

/-- The texts that spell identifiers are those that look like one. -/
theorem exists_spells_iff : (∃ u, Spells cs u) ↔ IsText cs := by
  constructor
  · rintro ⟨u, spells⟩
    have spelled := spells_iff.1 spells
    refine ⟨spelled.length_eq.trans u.length_eq, fun c mem => ?_, (front_iff spelled).2 u.head_le⟩
    exact exists_spelled_iff.1 (exists_forall₂_iff.1 ⟨u.digits, spelled⟩ c mem)
  · rintro ⟨length, known, front⟩
    obtain ⟨ds, spelled⟩ := exists_forall₂_iff.2 fun c mem => exists_spelled_iff.2 (known c mem)
    let u : Ulid := ⟨ds, spelled.length_eq.symm.trans length, (front_iff spelled).1 front⟩
    exact ⟨u, spells_iff.2 spelled⟩

theorem Spells.ne_nil (spells : Spells cs u) : cs ≠ [] := by
  rintro rfl
  have text := exists_spells_iff.1 ⟨u, spells⟩
  cases text.length_eq

end QueryBinding.Ulid
