import Mathlib.Data.List.DropRight
import QueryBinding.Text.Pieces
/-!
Trimmed texts: those that neither begin nor end with a blank. Trimming gives such a text, which is a
part of the one that is trimmed, and leaves a trimmed text as it is.
-/
namespace QueryBinding.Text

/-- Neither begins nor ends with a blank. -/
structure Trimmed (cs : List Char) : Prop where
  front : ∀ c ∈ cs.head?, isBlank c = false
  back : ∀ c ∈ cs.getLast?, isBlank c = false

-- Said by `Option.all`, so that only the two ends are looked at and not every character there is.
instance (cs : List Char) : Decidable (Trimmed cs) :=
  decidable_of_iff (cs.head?.all (!isBlank ·) = true ∧ cs.getLast?.all (!isBlank ·) = true) <| by
    simp only [Option.all_eq_true, Bool.not_eq_true']
    exact ⟨fun h => ⟨h.1, h.2⟩, fun h => ⟨h.front, h.back⟩⟩

/-- Consists of blanks, if of anything. -/
def Blank (cs : List Char) : Prop := ∀ c ∈ cs, isBlank c = true

instance (cs : List Char) : Decidable (Blank cs) :=
  decidable_of_iff (cs.all isBlank = true) List.all_eq_true

theorem trim_eq_rdropWhile (cs : List Char) :
    trim cs = (cs.dropWhile isBlank).rdropWhile isBlank := rfl

theorem isInfix_trim (cs : List Char) : trim cs <:+: cs := by
  rw [trim_eq_rdropWhile]
  exact (List.rdropWhile_prefix _ _).isInfix.trans (List.dropWhile_suffix _).isInfix

theorem trimmed_trim (cs : List Char) : Trimmed (trim cs) where
  front := by
    intro c begins
    rw [trim_eq_rdropWhile] at begins
    obtain ⟨rest, joined⟩ := List.rdropWhile_prefix isBlank (cs.dropWhile isBlank)
    have first : (cs.dropWhile isBlank).head? = some c := by
      rw [← joined, List.head?_append, begins, Option.some_or]
    have kept := List.head?_dropWhile_not isBlank cs
    rw [first] at kept
    exact kept
  back := by
    intro c ends
    rw [trim_eq_rdropWhile] at ends
    have filled := List.ne_nil_of_mem (List.mem_of_getLast? ends)
    have kept := List.rdropWhile_last_not isBlank _ filled
    rw [List.getLast?_eq_some_getLast filled] at ends
    rw [Option.some.inj ends] at kept
    exact Bool.eq_false_iff.2 kept

theorem trim_of_trimmed {cs : List Char} (trimmed : Trimmed cs) : trim cs = cs := by
  have front : cs.dropWhile isBlank = cs := by
    refine List.dropWhile_eq_self_iff.2 fun long => ?_
    rw [Bool.not_eq_true]
    exact trimmed.front _ (List.head?_eq_getElem?.trans (List.getElem?_eq_getElem long))
  rw [trim_eq_rdropWhile, front]
  refine List.rdropWhile_eq_self_iff.2 fun filled => ?_
  rw [Bool.not_eq_true]
  exact trimmed.back _ (List.getLast?_eq_some_getLast filled)

/-! ### Blanks around a text -/

theorem trim_eq_nil_iff {cs : List Char} : trim cs = [] ↔ Blank cs := by
  rw [trim_eq_rdropWhile, List.rdropWhile_eq_nil_iff]
  constructor
  · intro blank c mem
    rw [← List.takeWhile_append_dropWhile (p := isBlank) (l := cs)] at mem
    rcases List.mem_append.1 mem with mem | mem
    · exact List.mem_takeWhile_imp mem
    · exact blank c mem
  · intro blank c mem
    exact blank c ((List.dropWhile_suffix _).subset mem)

/-- A text is what it is trimmed to, with blanks at either end. -/
theorem exists_trim (cs : List Char) :
    ∃ front back, cs = front ++ (trim cs ++ back) ∧ Blank front ∧ Blank back := by
  refine ⟨cs.takeWhile isBlank, (cs.dropWhile isBlank).rtakeWhile isBlank, ?_, ?_, ?_⟩
  · rw [trim_eq_rdropWhile, List.rdropWhile_append_rtakeWhile, List.takeWhile_append_dropWhile]
  · exact fun c mem => List.mem_takeWhile_imp mem
  · exact fun c mem => List.mem_rtakeWhile_imp mem

/-- Blanks at either end are trimmed away. -/
theorem trim_between {front back : List Char} (frontBlank : Blank front) (backBlank : Blank back)
    (cs : List Char) : trim (front ++ (cs ++ back)) = trim cs := by
  have forwards : (front ++ (cs ++ back)).dropWhile isBlank = (cs ++ back).dropWhile isBlank :=
    List.dropWhile_append_of_pos frontBlank
  have backwards (rest : List Char) :
      (rest ++ back).rdropWhile isBlank = rest.rdropWhile isBlank := by
    have reversed : ∀ c ∈ back.reverse, isBlank c = true := fun c mem =>
      backBlank c (List.mem_reverse.1 mem)
    rw [List.rdropWhile, List.rdropWhile, List.reverse_append,
      List.dropWhile_append_of_pos reversed]
  rw [trim_eq_rdropWhile, trim_eq_rdropWhile, forwards, List.dropWhile_append]
  split
  · rename_i empty
    rw [List.isEmpty_iff.1 empty, List.rdropWhile_nil, List.rdropWhile_eq_nil_iff]
    exact fun c mem => backBlank c ((List.dropWhile_suffix _).subset mem)
  · exact backwards _

end QueryBinding.Text
