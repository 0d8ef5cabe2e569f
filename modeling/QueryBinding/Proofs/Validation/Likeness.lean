import QueryBinding.Proofs.Validation.Reading
/-!
Values that are alike: the same but for the order of the entries in objects, at any depth. Reading
does not see such an order. Alike values are read as one value, or they have the same issues at the
same places, about values that are alike again.
-/
namespace QueryBinding

theorem rel_cases {R : α → β → Prop} {x : Option α} {y : Option β} (h : Option.Rel R x y) :
    (x = none ∧ y = none) ∨ ∃ a b, x = some a ∧ y = some b ∧ R a b := by
  cases h with
  | none => exact .inl ⟨rfl, rfl⟩
  | some related => exact .inr ⟨_, _, rfl, rfl, related⟩

inductive Datum.Alike : Datum → Datum → Prop
  | refl (d : Datum) : Alike d d
  | list {as bs : List Datum} (items : List.Forall₂ Alike as bs) : Alike (.list as) (.list bs)
  | object {as bs : List (String × Datum)}
      (entries : ∀ key, Option.Rel Alike (as.lookup key) (bs.lookup key)) :
    Alike (.object as) (.object bs)

theorem Datum.Alike.isNull_eq {d e : Datum} (same : d.Alike e) : d.isNull = e.isNull := by
  cases same <;> rfl

/-- Entries in one order, each with values that are alike. -/
def Entries.Alike (as bs : List (String × Datum)) : Prop :=
  List.Forall₂ (fun a b => a.1 = b.1 ∧ a.2.Alike b.2) as bs

theorem Entries.Alike.lookup {as bs : List (String × Datum)} (same : Entries.Alike as bs)
    (key : String) : Option.Rel Datum.Alike (as.lookup key) (bs.lookup key) := by
  induction same with
  | nil => exact .none
  | @cons a b as bs head _ ih =>
    obtain ⟨k, d⟩ := a
    obtain ⟨l, e⟩ := b
    obtain ⟨rfl, alike⟩ := head
    simp only [List.lookup_cons]
    cases key == k with
    | true => exact .some alike
    | false => exact ih

/-- Under permuted keys, each of which stands once, the values are alike. -/
theorem Datum.alike_of_perm {as bs : List (String × Datum)} (nodup : (Entries.keys as).Nodup)
    (same : as.Perm bs) : Alike (.object as) (.object bs) := by
  refine .object fun key => ?_
  rw [Entries.lookup_of_perm nodup same]
  cases bs.lookup key with
  | none => exact .none
  | some d => exact .some (.refl d)

structure Issue.Alike (a b : Issue) : Prop where
  path : a.path = b.path
  fault : a.fault = b.fault
  input : a.input.Alike b.input

namespace Reading

/-- The same value, or issues that are alike one by one. -/
inductive Alike : Reading α → Reading α → Prop
  | ok (a : α) : Alike (.ok a) (.ok a)
  | error {issues others : Issues}
      (each : List.Forall₂ Issue.Alike issues.toList others.toList) :
    Alike (.error issues) (.error others)

namespace Alike

variable {x x' : Reading α} {y y' : Reading β}

theorem refl (x : Reading α) : Alike x x := by
  cases x with
  | ok a => exact .ok a
  | error issues => exact .error (List.forall₂_same.2 fun issue _ => ⟨rfl, rfl, .refl _⟩)

theorem refuse {d e : Datum} (fault : Fault) (same : d.Alike e) :
    Alike (refuse fault d : Reading α) (refuse fault e) :=
  .error (.cons ⟨rfl, rfl, same⟩ .nil)

theorem inside (step : PathStep) (h : Alike x x') :
    Alike (inside step x) (Reading.inside step x') := by
  cases h with
  | ok a => exact .ok a
  | error each =>
    refine .error ?_
    rw [Issues.toList_map, Issues.toList_map, List.forall₂_map_left_iff, List.forall₂_map_right_iff]
    exact each.imp fun _ _ same => ⟨congrArg (step :: ·) same.path, same.fault, same.input⟩

theorem map (f : α → β) (h : Alike x x') : Alike (x.map f) (x'.map f) := by
  cases h with
  | ok a => exact .ok (f a)
  | error each => exact .error each

theorem both (h : Alike x x') (k : Alike y y') : Alike (both x y) (Reading.both x' y') := by
  cases h with
  | ok a =>
    cases k with
    | ok b => exact .ok (a, b)
    | error each => exact .error each
  | error each =>
    cases k with
    | ok b => exact .error each
    | error more =>
      refine .error ?_
      rw [Issues.toList_append, Issues.toList_append]
      exact List.rel_append each more

theorem gather {read : γ → Reading β} {other : δ → Reading β} {as : List γ} {bs : List δ}
    (each : List.Forall₂ (fun a b => Alike (read a) (other b)) as bs) :
    Alike (gather read as) (Reading.gather other bs) := by
  induction each with
  | nil => exact .ok []
  | cons head _ ih => exact (head.both ih).map _

end Alike

theorem entryUnder?_alike (key other : String) {as bs : List (String × Datum)}
    (same : ∀ key, Option.Rel Datum.Alike (as.lookup key) (bs.lookup key)) :
    Option.Rel (fun a b => a.1 = b.1 ∧ a.2.Alike b.2) (entryUnder? (.object as) key other)
      (entryUnder? (.object bs) key other) := by
  unfold entryUnder? Datum.get?
  rcases rel_cases (same key) with ⟨absent, absent'⟩ | ⟨a, b, found, found', alike⟩
  · rcases rel_cases (same other) with ⟨missing, missing'⟩ | ⟨a, b, found, found', alike⟩
    · simp only [absent, absent', missing, missing']
      exact .none
    · simp only [absent, absent', found, found']
      exact .some ⟨rfl, alike⟩
  · simp only [found, found']
    exact .some ⟨rfl, alike⟩

/-- Values that are alike are read alike. -/
def Respects (read : Datum → Reading α) : Prop :=
  ∀ d e, Datum.Alike d e → Alike (read d) (read e)

namespace Respects

variable {read : Datum → Reading α}

theorem of_refusals (fault : Fault) (lists : ∀ items, read (.list items) = refuse fault (.list items))
    (objects : ∀ entries, read (.object entries) = refuse fault (.object entries)) :
    Respects read := by
  intro d e same
  cases same with
  | refl => exact .refl _
  | list items =>
    rw [lists, lists]
    exact .refuse fault (.list items)
  | object entries =>
    rw [objects, objects]
    exact .refuse fault (.object entries)

theorem map (h : Respects read) (f : α → β) : Respects fun d => (read d).map f :=
  fun d e same => (h d e same).map f

theorem items (h : Respects read) {as bs : List Datum} (same : List.Forall₂ Datum.Alike as bs) :
    Alike (readItems read as) (readItems read bs) := by
  have steps : ∀ n, List.Forall₂
      (fun a b : Datum × Nat => Alike (inside (.index a.2) (read a.1)) (inside (.index b.2) (read b.1)))
      (as.zipIdx n) (bs.zipIdx n) := by
    induction same with
    | nil => exact fun _ => .nil
    | cons head _ ih => exact fun n => .cons ((h _ _ head).inside _) (ih (n + 1))
  exact Alike.gather (steps 0)

theorem list (h : Respects read) : Respects (readList read) := by
  intro d e same
  cases same with
  | refl => exact .refl _
  | list same => exact h.items same
  | object entries => exact .refuse _ (.object entries)

theorem entry (h : Respects read) (key other : String) {as bs : List (String × Datum)}
    (same : ∀ key, Option.Rel Datum.Alike (as.lookup key) (bs.lookup key)) :
    Alike (readEntry key other read (.object as)) (readEntry key other read (.object bs)) := by
  unfold readEntry
  rcases rel_cases (entryUnder?_alike key other same) with
    ⟨absent, absent'⟩ | ⟨⟨used, d⟩, ⟨_, e⟩, found, found', rfl, alike⟩
  · rw [absent, absent']
    exact (Alike.refuse _ (.object same)).inside _
  · rw [found, found']
    exact (h d e alike).inside _

end Respects

end Reading

open Reading

/-! ### Types of values -/

theorem respects_readText : Respects readText := .of_refusals .notText (fun _ => rfl) fun _ => rfl

theorem respects_readChoice (options : List String) (ofWord? : String → Option α) :
    Respects (readChoice options ofWord?) :=
  .of_refusals (.notChoice options) (fun _ => rfl) fun _ => rfl

theorem respects_readOrder : Respects readOrder := respects_readChoice _ _

theorem respects_readFilter : Respects readFilter := by
  intro d e same
  cases same with
  | refl => exact .refl _
  | list items => exact .refuse _ (.list items)
  | object entries =>
    have name := respects_readText.entry "name" "name" entries
    have operator := (respects_readChoice (VariableOperator.all.map (·.symbol))
      VariableOperator.ofSymbol?).entry "operator" "operator" entries
    have value := respects_readText.entry "value" "value" entries
    exact (name.both (operator.both value)).map _

theorem respects_readCriterion : Respects readCriterion := by
  intro d e same
  cases same with
  | refl => exact .refl _
  | list items => exact .refuse _ (.list items)
  | object entries =>
    have field := respects_readText.entry SortCriterion.byKey "field" entries
    refine (field.both ?_).map _
    rcases rel_cases (entryUnder?_alike SortCriterion.orderKey "order" entries) with
      ⟨absent, absent'⟩ | ⟨⟨used, d⟩, ⟨_, e⟩, found, found', rfl, alike⟩
    · rw [absent, absent']
      exact .ok SortOrder.asc
    · rw [found, found']
      exact (respects_readOrder d e alike).inside _

theorem FieldType.respects_read (type : FieldType) : Respects type.read := by
  cases type with
  | text => exact respects_readText.map _
  | strictFlag => exact .of_refusals .notFlag (fun _ => rfl) fun _ => rfl
  | flag => exact .of_refusals .notFlag (fun _ => rfl) fun _ => rfl
  | integer => exact .of_refusals .notInteger (fun _ => rfl) fun _ => rfl
  | moment => exact .of_refusals .notMoment (fun _ => rfl) fun _ => rfl
  | texts => exact respects_readText.list.map _
  | filters => exact respects_readFilter.list.map _

/-! ### Fields -/

namespace Field

theorem respects_read (field : Field) : Respects field.read := by
  intro d e same
  unfold Field.read
  rw [same.isNull_eq]
  split
  · exact .ok _
  · exact field.type.respects_read d e same

theorem alike_readGiven (fields : List Field) {as bs : List (String × Datum)}
    (same : ∀ key, Option.Rel Datum.Alike (as.lookup key) (bs.lookup key)) :
    Alike (readGiven fields (.object as)) (readGiven fields (.object bs)) := by
  have each : ∀ field, Alike (readFrom (.object as) field) (readFrom (.object bs) field) := by
    intro field
    refine Alike.inside _ ?_
    unfold Datum.get?
    rcases rel_cases (same field.name) with ⟨absent, absent'⟩ | ⟨d, e, found, found', alike⟩
    · simp only [absent, absent']
      split
      · exact .ok none
      · exact .refuse _ (.object same)
    · simp only [found, found']
      exact (field.respects_read d e alike).map _
  exact (Alike.gather (List.forall₂_same.2 fun field _ => each field)).map _

end Field

end QueryBinding
