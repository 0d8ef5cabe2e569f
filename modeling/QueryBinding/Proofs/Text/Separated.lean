import Mathlib.Data.List.Basic
import Mathlib.Data.List.Infix
import QueryBinding.Text.Pieces
/-!
Cutting a text at a separator undoes writing the separator between pieces, and is undone by it.
What carries the proofs is that no occurrence of the separator lies across the end of a piece: this
holds of separators none of whose beginnings is also their end.
-/
namespace QueryBinding.Text

variable {sep : Separator}

/-- No beginning of the separator is also its end, but for the separator as a whole. -/
def Separator.Borderless (sep : Separator) : Prop :=
  ∀ border, border ≠ [] → border ≠ sep.chars → border <+: sep.chars → ¬border <:+ sep.chars

instance (sep : Separator) : Decidable sep.Borderless :=
  decidable_of_iff (∀ border ∈ sep.chars.inits,
      border ≠ [] → border ≠ sep.chars → ¬border <:+ sep.chars) <| by
    simp only [List.mem_inits, Separator.Borderless]
    exact forall_congr' fun border =>
      ⟨fun h filled differs front => h front filled differs,
        fun h front filled differs => h filled differs front⟩

/-- A text consists of pieces with a separator between them, and no piece holds the separator. -/
structure Separates (sep : Separator) (cs : List Char) (pieces : List (List Char)) : Prop where
  joined : join sep pieces = cs
  nonempty : pieces ≠ []
  whole : ∀ piece ∈ pieces, ¬sep.chars <:+: piece

namespace Separator

theorem chars_ne_nil (sep : Separator) : sep.chars ≠ [] := List.cons_ne_nil _ _

theorem strip?_eq_some {cs rest : List Char} :
    sep.strip? cs = some rest ↔ cs = sep.chars ++ rest := by
  cases cs with
  | nil => simp [strip?, chars]
  | cons c cs =>
    simp only [strip?, chars, List.cons_append, List.cons.injEq]
    constructor
    · intro h
      split at h
      · rename_i front
        cases h
        have known := List.prefix_iff_eq_append.1 (List.isPrefixOf_iff_prefix.1 front.2)
        exact ⟨front.1, known.symm⟩
      · cases h
    · rintro ⟨rfl, rfl⟩
      rw [if_pos ⟨rfl, List.isPrefixOf_iff_prefix.2 (List.prefix_append _ _)⟩, List.drop_left]

theorem strip?_eq_none {cs : List Char} : sep.strip? cs = none ↔ ¬sep.chars <+: cs := by
  rw [Option.eq_none_iff_forall_ne_some]
  constructor
  · rintro h ⟨rest, joined⟩
    exact h rest (strip?_eq_some.2 joined.symm)
  · intro h rest found
    exact h ⟨rest, (strip?_eq_some.1 found).symm⟩

/-- Where the separator does not begin, it does not begin either when more of it follows. -/
theorem Borderless.not_prefix_append (borderless : sep.Borderless) {cs : List Char}
    (filled : cs ≠ []) (apart : ¬sep.chars <+: cs) (rest : List Char) :
    ¬sep.chars <+: cs ++ (sep.chars ++ rest) := by
  rintro ⟨after, joined⟩
  rcases List.append_eq_append_iff.1 joined with ⟨t, whole, _⟩ | ⟨border, whole, split⟩
  · exact apart ⟨t, whole.symm⟩
  · -- The separator ends with `border`, with which it also begins.
    have front : border <+: sep.chars := by
      refine List.prefix_of_prefix_length_le ⟨after, split.symm⟩ ⟨rest, rfl⟩ ?_
      rw [whole, List.length_append]
      omega
    have shorter : border ≠ sep.chars := by
      intro same
      rw [same] at whole
      exact filled (List.append_left_eq_self.1 whole.symm)
    by_cases empty : border = []
    · rw [empty, List.append_nil] at whole
      exact apart ⟨[], by rw [whole, List.append_nil]⟩
    · exact borderless border empty shorter front ⟨cs, whole.symm⟩

end Separator

open Separator

/-! ### Pieces -/

theorem consFirst_ne_nil (c : Char) (pieces : List (List Char)) : consFirst c pieces ≠ [] := by
  cases pieces <;> exact List.cons_ne_nil _ _

theorem consFirst_append {pieces : List (List Char)} (nonempty : pieces ≠ []) (c : Char)
    (more : List (List Char)) : consFirst c (pieces ++ more) = consFirst c pieces ++ more := by
  cases pieces with
  | nil => exact absurd rfl nonempty
  | cons piece pieces => rfl

theorem split_nil (sep : Separator) : split sep [] = [[]] := by
  rw [split]
  rfl

theorem split_chars_append (sep : Separator) (rest : List Char) :
    split sep (sep.chars ++ rest) = [] :: split sep rest := by
  have found : sep.strip? (sep.chars ++ rest) = some rest := strip?_eq_some.2 rfl
  rw [split]
  split
  · rename_i other stripped
    cases found.symm.trans stripped
    rfl
  · rename_i missing
    cases found.symm.trans missing

theorem split_cons {c : Char} {cs : List Char} (apart : ¬sep.chars <+: c :: cs) :
    split sep (c :: cs) = consFirst c (split sep cs) := by
  have missing := strip?_eq_none.2 apart
  rw [split]
  split
  · rename_i other stripped
    cases missing.symm.trans stripped
  · rfl

/-- Induction along the pieces of a text. -/
theorem split_induction (sep : Separator) {motive : List Char → Prop} (nil : motive [])
    (cut : ∀ rest, motive rest → motive (sep.chars ++ rest))
    (step : ∀ c cs, ¬sep.chars <+: c :: cs → motive cs → motive (c :: cs)) (cs : List Char) :
    motive cs := by
  induction cs using split.induct sep with
  | case1 cs rest found ih => exact strip?_eq_some.1 found ▸ cut rest ih
  | case2 => exact nil
  | case3 c cs missing ih => exact step c cs (strip?_eq_none.1 missing) ih

theorem split_ne_nil (sep : Separator) (cs : List Char) : split sep cs ≠ [] := by
  induction cs using split_induction sep with
  | nil => simp [split_nil]
  | cut rest _ => simp [split_chars_append]
  | step c cs apart _ =>
    rw [split_cons apart]
    exact consFirst_ne_nil c _

theorem join_cons {piece : List Char} {pieces : List (List Char)} (nonempty : pieces ≠ []) :
    join sep (piece :: pieces) = piece ++ (sep.chars ++ join sep pieces) := by
  obtain ⟨next, rest, rfl⟩ := List.exists_cons_of_ne_nil nonempty
  rw [join, List.intercalate_cons_cons, List.append_assoc]
  rfl

theorem join_consFirst {pieces : List (List Char)} (nonempty : pieces ≠ []) (c : Char) :
    join sep (consFirst c pieces) = c :: join sep pieces := by
  obtain ⟨piece, rest, rfl⟩ := List.exists_cons_of_ne_nil nonempty
  by_cases last : rest = []
  · subst last
    simp [consFirst, join]
  · rw [consFirst, join_cons last, join_cons last, List.cons_append]

theorem join_split (sep : Separator) (cs : List Char) : join sep (split sep cs) = cs := by
  induction cs using split_induction sep with
  | nil => simp [split_nil, join]
  | cut rest ih => rw [split_chars_append, join_cons (split_ne_nil sep rest), ih, List.nil_append]
  | step c cs apart ih => rw [split_cons apart, join_consFirst (split_ne_nil sep cs), ih]

/-- Pieces do not hold the separator. -/
theorem not_infix_of_mem_split {cs piece : List Char} (mem : piece ∈ split sep cs) :
    ¬sep.chars <:+: piece := by
  induction cs using split_induction sep generalizing piece with
  | nil =>
    rw [split_nil, List.mem_singleton] at mem
    subst mem
    exact fun inside => sep.chars_ne_nil (List.infix_nil.1 inside)
  | cut rest ih =>
    rw [split_chars_append] at mem
    rcases List.mem_cons.1 mem with rfl | mem
    · exact fun inside => sep.chars_ne_nil (List.infix_nil.1 inside)
    · exact ih mem
  | step c cs apart ih =>
    have joined := join_split sep cs
    rw [split_cons apart] at mem
    obtain ⟨first, rest, pieces⟩ := List.exists_cons_of_ne_nil (split_ne_nil sep cs)
    rw [pieces] at mem ih joined
    rcases List.mem_cons.1 mem with rfl | mem
    · -- The first piece is how the text begins, and there the separator does not begin.
      have front : first <+: cs := by
        by_cases last : rest = []
        · exact ⟨[], by simpa [last, join] using joined⟩
        · exact ⟨_, (join_cons last).symm.trans joined⟩
      intro inside
      rcases List.infix_cons_iff.1 inside with begins | inside
      · exact apart (begins.trans ((List.prefix_cons_inj c).2 front))
      · exact ih List.mem_cons_self inside
    · exact ih (List.mem_cons_of_mem _ mem)

/-! ### Texts with a separator between them -/

theorem split_append (borderless : sep.Borderless) (cs rest : List Char) :
    split sep (cs ++ (sep.chars ++ rest)) = split sep cs ++ split sep rest := by
  induction cs using split_induction sep with
  | nil => rw [List.nil_append, split_chars_append, split_nil, List.singleton_append]
  | cut front ih =>
    rw [List.append_assoc, split_chars_append, ih, split_chars_append, List.cons_append]
  | step c cs apart ih =>
    have later := borderless.not_prefix_append (List.cons_ne_nil c cs) apart rest
    rw [List.cons_append] at later ⊢
    rw [split_cons later, ih, consFirst_append (split_ne_nil sep cs), split_cons apart]

/-- Joining texts joins their pieces. -/
theorem split_join (borderless : sep.Borderless) {texts : List (List Char)}
    (nonempty : texts ≠ []) : split sep (join sep texts) = texts.flatMap (split sep) := by
  induction texts with
  | nil => exact absurd rfl nonempty
  | cons cs texts ih =>
    by_cases last : texts = []
    · subst last
      simp [join]
    · rw [join_cons last, split_append borderless, ih last, List.flatMap_cons]

theorem split_of_not_infix {cs : List Char} (whole : ¬sep.chars <:+: cs) : split sep cs = [cs] := by
  induction cs with
  | nil => exact split_nil sep
  | cons c cs ih =>
    have rest := ih fun inside => whole (List.infix_cons inside)
    rw [split_cons fun begins => whole begins.isInfix, rest]
    rfl

theorem separates_split (sep : Separator) (cs : List Char) : Separates sep cs (split sep cs) where
  joined := join_split sep cs
  nonempty := split_ne_nil sep cs
  whole := fun _ mem => not_infix_of_mem_split mem

/-- There is one way only to cut a text at a separator without borders. -/
theorem Separates.eq_split (borderless : sep.Borderless) {cs : List Char}
    {pieces : List (List Char)} (separates : Separates sep cs pieces) : pieces = split sep cs := by
  obtain ⟨rfl, nonempty, whole⟩ := separates
  have each : pieces.flatMap (split sep) = pieces.flatMap fun piece => [piece] :=
    List.flatMap_congr fun piece mem => split_of_not_infix (whole piece mem)
  rw [split_join borderless nonempty, each, List.flatMap_singleton']

/-! ### Separators of one character -/

theorem borderless_singleton (c : Char) : Separator.Borderless ⟨c, []⟩ := by
  rintro border filled differs ⟨rest, joined⟩ _
  obtain ⟨d, more, rfl⟩ := List.exists_cons_of_ne_nil filled
  obtain ⟨rfl, empty⟩ := List.cons.inj joined
  rw [(List.append_eq_nil_iff.1 empty).1] at differs
  exact differs rfl

end QueryBinding.Text
