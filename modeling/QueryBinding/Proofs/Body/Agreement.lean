import Mathlib.Logic.Relation
import QueryBinding.Proofs.Body.Keys
import QueryBinding.Proofs.Query.Fitting
import QueryBinding.Proofs.Validation.Likeness
/-!
Bodies that agree. A query type looks at a body under the names of its parameters and under the keys
by which requests sort, and nowhere else; null counts as absent there. So bodies that agree under
these keys describe the same query or are refused alike, and no edit elsewhere makes a difference.
-/
namespace QueryBinding

open Reading

/-- The same result, or the same failure: for a refused value, with one that is alike. -/
inductive SameOutcome : Except Failure α → Except Failure α → Prop
  | made (a : α) : SameOutcome (.ok a) (.ok a)
  | failed (failure : Failure) : SameOutcome (.error failure) (.error failure)
  | refused (parameter : String) {d e : Datum} (alike : d.Alike e) (reason : Reason) :
    SameOutcome (.error (.binding parameter d reason)) (.error (.binding parameter e reason))

theorem SameOutcome.refl (x : Except Failure α) : SameOutcome x x := by
  cases x with
  | ok a => exact .made a
  | error failure => exact .failed failure

theorem SameOutcome.bind {x y : Except Failure α} {f g : α → Except Failure β}
    (first : SameOutcome x y) (rest : ∀ a, SameOutcome (f a) (g a)) :
    SameOutcome (x >>= f) (y >>= g) := by
  cases first with
  | made a => exact rest a
  | failed failure => exact .failed failure
  | refused parameter alike reason => exact .refused parameter alike reason

namespace QueryType

variable {type : QueryType} {a b : List (String × Datum)}

/-- The keys under which a type looks at a body. -/
def bodyKeys (type : QueryType) : List String :=
  [SortCriterion.byKey, SortCriterion.orderKey, sortingField] ++ type.parameters.names

theorem name_mem_bodyKeys {p : Parameter} (mem : p ∈ type.parameters.toList) :
    p.name ∈ type.bodyKeys :=
  List.mem_append_right _ (List.mem_map_of_mem mem)

/-- Reading a body meets no entry that is unknown. -/
theorem readOthers_bodyValues (type : QueryType) (body : List (String × Datum))
    (items : List Datum) : type.readOthers (type.bodyValues body ++ sortingEntry items) = .ok () := by
  refine readOthers_eq_ok fun entry mem => ?_
  rcases List.mem_append.1 mem with mem | mem
  · exact List.mem_cons_of_mem _ (type.mem_names_of_bodyValues body entry mem)
  · exact mem_sortingEntry mem ▸ List.mem_cons_self

/-! ### Bodies with the same values -/

/-- A body counts only under the keys of the type. -/
theorem fromBody_congr
    (agree : ∀ key ∈ type.bodyKeys, bodyValue? a key = bodyValue? b key) :
    type.fromBody a = type.fromBody b := by
  have values : type.bodyValues a = type.bodyValues b :=
    bodyValues_congr fun p mem => agree p.name (name_mem_bodyKeys mem)
  have fields := agree SortCriterion.byKey (by simp [bodyKeys])
  have orders := agree SortCriterion.orderKey (by simp [bodyKeys])
  have sorting := agree sortingField (by simp [bodyKeys])
  simp only [fromBody, sortValues, sortingItems, values, fields, orders, sorting]

/-- An edit of a body that touches nothing that the type looks at. -/
inductive Edit (type : QueryType) : List (String × Datum) → List (String × Datum) → Prop
  | dropNull {before after : List (String × Datum)} {key : String}
      (once : key ∉ Entries.keys (before ++ after)) :
    Edit type (before ++ (key, .null) :: after) (before ++ after)
  | addUnknown {before after : List (String × Datum)} {key : String} (d : Datum)
      (unknown : key ∉ type.bodyKeys) :
    Edit type (before ++ after) (before ++ (key, d) :: after)
  | reorder {a b : List (String × Datum)} (once : (Entries.keys a).Nodup) (same : a.Perm b) :
    Edit type a b

theorem lookup_insert_of_ne {before after : List (String × Datum)} {key k : String} {d : Datum}
    (differs : k ≠ key) :
    (before ++ (key, d) :: after).lookup k = (before ++ after).lookup k := by
  rw [List.lookup_append, List.lookup_cons, beq_eq_false_iff_ne.2 differs, List.lookup_append]

theorem Edit.agrees (edit : type.Edit a b) :
    ∀ key ∈ type.bodyKeys, bodyValue? a key = bodyValue? b key := by
  intro k mem
  unfold bodyValue?
  cases edit with
  | @dropNull before after key once =>
    by_cases same : k = key
    · subst same
      have absent : (before ++ after).lookup k = none :=
        Entries.lookup_eq_none (fun entry mem => List.mem_map_of_mem mem) once
      have absent' : before.lookup k = none := by
        rw [List.lookup_append, Option.or_eq_none_iff] at absent
        exact absent.1
      rw [absent, List.lookup_append, absent', Option.none_or, List.lookup_cons_self]
      rfl
    · rw [lookup_insert_of_ne same]
  | @addUnknown before after key d unknown =>
    have differs : k ≠ key := fun same => unknown (same ▸ mem)
    rw [lookup_insert_of_ne differs]
  | reorder once same => rw [Entries.lookup_of_perm once same]

theorem fromBody_of_edits (edits : Relation.ReflTransGen type.Edit a b) :
    type.fromBody a = type.fromBody b := by
  induction edits with
  | refl => rfl
  | tail _ edit ih => exact ih.trans (fromBody_congr edit.agrees)

/-! ### Bodies with values that are alike -/

theorem texts?_alike {items others : List Datum} (same : List.Forall₂ Datum.Alike items others) :
    texts? items = texts? others := by
  induction same with
  | nil => rfl
  | @cons d _ _ _ head _ ih =>
    cases head with
    | refl =>
      cases d with
      | text s => simp only [texts?, ih]
      | _ => rfl
    | list _ => rfl
    | object _ => rfl

theorem sortValues_alike {key : String}
    (same : Option.Rel Datum.Alike (bodyValue? a key) (bodyValue? b key)) :
    SameOutcome (sortValues a key) (sortValues b key) := by
  unfold sortValues
  rcases rel_cases same with ⟨absent, absent'⟩ | ⟨d, e, found, found', alike⟩
  · rw [absent, absent']
    exact .made []
  · rw [found, found']
    cases alike with
    | refl => exact .refl _
    | @list items others each =>
      dsimp only
      rw [texts?_alike each]
      cases texts? others with
      | none => exact .refused key (.list each) .texts
      | some texts => exact .made texts
    | object entries => exact .refused key (.object entries) .texts

theorem sortingItems_alike
    (same : Option.Rel Datum.Alike (bodyValue? a sortingField) (bodyValue? b sortingField)) :
    (∃ items others, sortingItems a = .ok items ∧ sortingItems b = .ok others ∧
        List.Forall₂ Datum.Alike items others) ∨
      ∃ d e, sortingItems a = .error (.binding sortingField d .sortCriteria) ∧
        sortingItems b = .error (.binding sortingField e .sortCriteria) ∧ d.Alike e := by
  unfold sortingItems
  rcases rel_cases same with ⟨absent, absent'⟩ | ⟨d, e, found, found', alike⟩
  · rw [absent, absent']
    exact .inl ⟨[], [], rfl, rfl, .nil⟩
  · rw [found, found']
    cases alike with
    | refl =>
      cases d with
      | list items => exact .inl ⟨_, _, rfl, rfl, List.forall₂_same.2 fun d _ => .refl d⟩
      | _ => exact .inr ⟨_, _, rfl, rfl, .refl _⟩
    | list each => exact .inl ⟨_, _, rfl, rfl, each⟩
    | object entries => exact .inr ⟨_, _, rfl, rfl, .object entries⟩

theorem bodyValues_alike
    (same : ∀ key ∈ type.bodyKeys, Option.Rel Datum.Alike (bodyValue? a key) (bodyValue? b key)) :
    Entries.Alike (type.bodyValues a) (type.bodyValues b) := by
  have parameters : List.Forall₂ (fun p p' => p = p' ∧ p ∈ type.parameters.toList)
      type.parameters.toList type.parameters.toList :=
    List.forall₂_same.2 fun p mem => ⟨rfl, mem⟩
  refine List.rel_filterMap ?_ parameters
  rintro p _ ⟨rfl, mem⟩
  rcases rel_cases (same p.name (name_mem_bodyKeys mem)) with
    ⟨absent, absent'⟩ | ⟨d, e, found, found', alike⟩
  · simp only [absent, absent']
    exact .none
  · simp only [found, found']
    exact .some ⟨rfl, alike⟩

theorem sortingEntry_alike {items others : List Datum} (same : List.Forall₂ Datum.Alike items others) :
    Entries.Alike (sortingEntry items) (sortingEntry others) := by
  cases same with
  | nil => exact .nil
  | cons head tail => exact .cons ⟨rfl, .list (.cons head tail)⟩ .nil

theorem respects_readCriteria : Respects readCriteria := by
  intro d e same
  cases same with
  | refl => exact .refl _
  | list each => exact respects_readCriterion.items each
  | object entries => exact .refuse _ (.object entries)

theorem readSorting_alike (type : QueryType) {entries others : List (String × Datum)}
    (same : Entries.Alike entries others) :
    Alike (type.readSorting entries) (type.readSorting others) := by
  unfold readSorting
  rcases rel_cases (same.lookup sortingField) with
    ⟨absent, absent'⟩ | ⟨d, e, found, found', alike⟩
  · rw [absent, absent']
    exact .ok none
  · rw [found, found']
    dsimp only
    split
    · exact .ok none
    · exact ((respects_readCriteria d e alike).map some).inside _

theorem read_alike {items others : List Datum}
    (same : ∀ key ∈ type.bodyKeys, Option.Rel Datum.Alike (bodyValue? a key) (bodyValue? b key))
    (each : List.Forall₂ Datum.Alike items others) :
    Alike (type.read (type.bodyValues a ++ sortingEntry items))
      (type.read (type.bodyValues b ++ sortingEntry others)) := by
  have entries : Entries.Alike (type.bodyValues a ++ sortingEntry items)
      (type.bodyValues b ++ sortingEntry others) :=
    List.rel_append (bodyValues_alike same) (sortingEntry_alike each)
  unfold QueryType.read
  rw [readOthers_bodyValues, readOthers_bodyValues]
  have given := Field.alike_readGiven type.fields entries.lookup
  exact ((type.readSorting_alike entries).both (given.both (.ok ()))).map _

theorem bindingFailure_alike (type : QueryType) {issue other : Issue} (same : issue.Alike other) :
    SameOutcome (.error (type.bindingFailure issue) : Except Failure α)
      (.error (type.bindingFailure other)) := by
  have field : issueField issue = issueField other := by
    unfold issueField
    rw [same.path]
  unfold bindingFailure
  rw [field, same.fault]
  exact .refused _ same.input _

theorem judge_alike (type : QueryType) {x y : Reading Query} (same : Alike x y) :
    SameOutcome (type.judge x) (type.judge y) := by
  cases same with
  | ok q => exact .refl _
  | error each =>
    rw [judge, judge]
    cases each with
    | cons head _ => exact type.bindingFailure_alike head

theorem fromBody_alike
    (same : ∀ key ∈ type.bodyKeys, Option.Rel Datum.Alike (bodyValue? a key) (bodyValue? b key)) :
    SameOutcome (type.fromBody a) (type.fromBody b) := by
  have fields := sortValues_alike (same SortCriterion.byKey (by simp [bodyKeys]))
  have orders := sortValues_alike (same SortCriterion.orderKey (by simp [bodyKeys]))
  unfold fromBody
  refine fields.bind fun fields => orders.bind fun orders => ?_
  refine (SameOutcome.refl _).bind fun criteria => ?_
  rcases sortingItems_alike (same sortingField (by simp [bodyKeys])) with
    ⟨items, others, gives, gives', each⟩ | ⟨d, e, fails, fails', alike⟩
  · rw [gives, gives']
    have known : List.Forall₂ Datum.Alike (criteria.map .criterion ++ items)
        (criteria.map .criterion ++ others) :=
      List.rel_append (List.forall₂_same.2 fun d _ => .refl d) each
    exact judge_alike type (read_alike same known)
  · rw [fails, fails']
    exact .refused _ alike _

/-- Bodies come to the same if they have the same values under the keys of the type, where null is no
value; and to the same but for the values that are told, if their values are alike. So nothing
changes by leaving out nulls, adding unknown keys or putting the keys in another order. -/
theorem bodies_agree (type : QueryType) :
    (∀ a b, (∀ key ∈ type.bodyKeys, bodyValue? a key = bodyValue? b key) →
      type.fromBody a = type.fromBody b) ∧
    (∀ a b, (∀ key ∈ type.bodyKeys,
        Option.Rel Datum.Alike (bodyValue? a key) (bodyValue? b key)) →
      SameOutcome (type.fromBody a) (type.fromBody b)) ∧
    ∀ a b, Relation.ReflTransGen type.Edit a b → type.fromBody a = type.fromBody b :=
  ⟨fun _ _ => fromBody_congr, fun _ _ => fromBody_alike, fun _ _ => fromBody_of_edits⟩

theorem bodies_agree_tenants :
    ∃ a b c d : List (String × Datum),
      a = [("open", .null), ("tenantIdIn", .list [.object [("k", .null), ("l", .flag true)]])] ∧
      b = [("tenantIdIn", .list [.object [("k", .null), ("l", .flag true)]])] ∧
      c = [("note", .list [.null]),
        ("tenantIdIn", .list [.object [("k", .null), ("l", .flag true)]])] ∧
      d = [("tenantIdIn", .list [.object [("l", .flag true), ("k", .null)]])] ∧
      HistoricIncident.queryType.fromBody a = .error
        (.binding "tenantIdIn" (.object [("k", .null), ("l", .flag true)]) (.fault .notText)) ∧
      HistoricIncident.queryType.fromBody b = HistoricIncident.queryType.fromBody a ∧
      HistoricIncident.queryType.fromBody a = HistoricIncident.queryType.fromBody c ∧
      SameOutcome (HistoricIncident.queryType.fromBody b)
        (HistoricIncident.queryType.fromBody d) := by
  obtain ⟨agree, alike, edits⟩ := bodies_agree HistoricIncident.queryType
  let tenants : Datum := .list [.object [("k", .null), ("l", .flag true)]]
  let swapped : Datum := .list [.object [("l", .flag true), ("k", .null)]]
  have dropped : HistoricIncident.queryType.Edit [("open", .null), ("tenantIdIn", tenants)]
      [("tenantIdIn", tenants)] :=
    @Edit.dropNull _ [] [("tenantIdIn", tenants)] _ (by decide)
  have added : HistoricIncident.queryType.Edit [("tenantIdIn", tenants)]
      [("note", .list [.null]), ("tenantIdIn", tenants)] :=
    @Edit.addUnknown _ [] [("tenantIdIn", tenants)] _ _ (by decide +kernel)
  refine ⟨_, _, _, _, rfl, rfl, rfl, rfl, rfl, ?_, ?_, ?_⟩
  · exact agree _ _ fun key mem => (dropped.agrees key mem).symm
  · exact edits _ _ (.tail (.single dropped) added)
  · refine alike _ [("tenantIdIn", swapped)] fun key _ => ?_
    by_cases same : key = "tenantIdIn"
    · subst same
      have each : Datum.Alike (.object [("k", .null), ("l", .flag true)])
          (.object [("l", .flag true), ("k", .null)]) :=
        Datum.alike_of_perm (by decide) (List.Perm.swap _ _ _)
      exact .some (.list (.cons each .nil))
    · simp only [bodyValue?, List.lookup_cons, beq_eq_false_iff_ne.2 same]
      exact .none

end QueryType
end QueryBinding
