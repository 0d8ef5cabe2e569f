import Mathlib.Data.List.Induction
/-!
Lists without repetitions. Leaving out the repetitions of parts first does not change what is left
of the whole, since only the first of equal elements counts: what is left stands in the order in
which the elements first occur.
-/
namespace QueryBinding

/-- The second list is the first one without the elements that stand further in front as well. -/
inductive WithoutRepetitions : List α → List α → Prop
  | nil : WithoutRepetitions [] []
  | keep {as bs : List α} {a : α} (rest : WithoutRepetitions as bs) (fresh : a ∉ as) :
    WithoutRepetitions (as ++ [a]) (bs ++ [a])
  | drop {as bs : List α} {a : α} (rest : WithoutRepetitions as bs) (repeated : a ∈ as) :
    WithoutRepetitions (as ++ [a]) bs

theorem WithoutRepetitions.mem_iff {as bs : List α} (h : WithoutRepetitions as bs) (a : α) :
    a ∈ bs ↔ a ∈ as := by
  induction h with
  | nil => rfl
  | keep rest fresh ih => simp [ih]
  | @drop as bs b rest repeated ih =>
    rw [ih, List.mem_append, List.mem_singleton]
    constructor
    · exact .inl
    · rintro (mem | rfl)
      · exact mem
      · exact repeated

variable [BEq α] [LawfulBEq α]

theorem eraseDups_filter (p : α → Bool) (as : List α) :
    (as.filter p).eraseDups = as.eraseDups.filter p := by
  match as with
  | [] => rfl
  | a :: as =>
    have shorter : (as.filter fun b => !b == a).length < as.length + 1 :=
      Nat.lt_succ_of_le (List.length_filter_le _ as)
    have rest := eraseDups_filter p (as.filter fun b => !b == a)
    rw [List.eraseDups_cons]
    cases keeps : p a with
    | true =>
      rw [List.filter_cons_of_pos keeps, List.filter_cons_of_pos keeps, List.eraseDups_cons, ← rest,
        List.filter_filter, List.filter_filter]
      simp only [Bool.and_comm]
    | false =>
      have differs : ∀ b, p b = true → (!b == a) = true := by
        intro b hb
        rw [Bool.not_eq_true', beq_eq_false_iff_ne]
        intro same
        rw [same, keeps] at hb
        cases hb
      rw [List.filter_cons_of_neg (by simp [keeps]), List.filter_cons_of_neg (by simp [keeps]),
        ← rest, List.filter_filter]
      congr 1
      refine List.filter_congr fun b _ => ?_
      cases hb : p b with
      | true => rw [differs b hb, Bool.and_self]
      | false => rfl
termination_by as.length

theorem eraseDups_eraseDups (as : List α) : as.eraseDups.eraseDups = as.eraseDups := by
  match as with
  | [] => rfl
  | a :: as =>
    have shorter : (as.filter fun b => !b == a).length < as.length + 1 :=
      Nat.lt_succ_of_le (List.length_filter_le _ as)
    have rest := eraseDups_eraseDups (as.filter fun b => !b == a)
    rw [List.eraseDups_cons, List.eraseDups_cons, ← eraseDups_filter, List.filter_filter]
    simp only [Bool.and_self, rest]
termination_by as.length

/-- Of the elements of several lists, the repetitions within each list may be left out first. -/
theorem eraseDups_flatMap_eraseDups (f : β → List α) (bs : List β) :
    (bs.flatMap fun b => (f b).eraseDups).eraseDups = (bs.flatMap f).eraseDups := by
  induction bs with
  | nil => rfl
  | cons b bs ih =>
    rw [List.flatMap_cons, List.flatMap_cons, List.eraseDups_append, List.eraseDups_append,
      eraseDups_eraseDups]
    unfold List.removeAll
    rw [eraseDups_filter, eraseDups_filter, ih]
    congr 1
    refine List.filter_congr fun a _ => ?_
    simp only [List.elem_eq_contains, List.contains_eq_mem, List.mem_eraseDups]

/-! ### First occurrences -/

theorem eraseDups_snoc_of_mem {as : List α} {a : α} (repeated : a ∈ as) :
    (as ++ [a]).eraseDups = as.eraseDups := by
  simp [List.eraseDups_append, List.removeAll, repeated]

theorem eraseDups_snoc_of_not_mem {as : List α} {a : α} (fresh : a ∉ as) :
    (as ++ [a]).eraseDups = as.eraseDups ++ [a] := by
  simp [List.eraseDups_append, List.eraseDups_cons, List.removeAll, fresh]

theorem withoutRepetitions_iff {as bs : List α} :
    WithoutRepetitions as bs ↔ bs = as.eraseDups := by
  constructor
  · intro h
    induction h with
    | nil => rfl
    | keep rest fresh ih => rw [eraseDups_snoc_of_not_mem fresh, ih]
    | drop rest repeated ih => rw [eraseDups_snoc_of_mem repeated, ih]
  · rintro rfl
    induction as using List.reverseRecOn with
    | nil => exact .nil
    | append_singleton as a ih =>
      by_cases mem : a ∈ as
      · rw [eraseDups_snoc_of_mem mem]
        exact .drop ih mem
      · rw [eraseDups_snoc_of_not_mem mem]
        exact .keep ih mem

namespace WithoutRepetitions

variable {as bs : List α}

theorem idxOf_snoc (h : WithoutRepetitions as bs) {a c : α} (mem : a ∈ bs) :
    (as ++ [c]).idxOf a = as.idxOf a := by
  rw [List.idxOf_append, if_pos ((h.mem_iff a).1 mem)]

/-- What is kept stands in the order of the first occurrences. -/
theorem pairwise_idxOf (h : WithoutRepetitions as bs) :
    bs.Pairwise fun a b => as.idxOf a < as.idxOf b := by
  induction h with
  | nil => exact .nil
  | @keep as bs c rest fresh ih =>
    have last : (as ++ [c]).idxOf c = as.length := by
      simp [List.idxOf_append, fresh]
    refine List.pairwise_append.2 ⟨?_, List.pairwise_singleton _ _, ?_⟩
    · refine ih.imp_of_mem fun {a b} ha hb before => ?_
      rwa [rest.idxOf_snoc ha, rest.idxOf_snoc hb]
    · intro a mem b only
      rw [List.mem_singleton.1 only, rest.idxOf_snoc mem, last]
      exact List.idxOf_lt_length_of_mem ((rest.mem_iff a).1 mem)
  | @drop as bs c rest repeated ih =>
    refine ih.imp_of_mem fun {a b} ha hb before => ?_
    rwa [rest.idxOf_snoc ha, rest.idxOf_snoc hb]

theorem nodup (h : WithoutRepetitions as bs) : bs.Nodup := by
  refine h.pairwise_idxOf.imp ?_
  rintro a b before rfl
  exact Nat.lt_irrefl _ before

end WithoutRepetitions

theorem nodup_eraseDups (as : List α) : as.eraseDups.Nodup := (withoutRepetitions_iff.2 rfl).nodup

end QueryBinding
