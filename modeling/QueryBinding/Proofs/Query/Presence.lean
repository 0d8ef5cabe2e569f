import QueryBinding.Proofs.Body.Keys
import QueryBinding.Proofs.Query.Creation
import QueryBinding.Proofs.Query.Extension
/-!
Which fields a request sets. A query that was made of a request has set the fields of the parameters
that the request gives, and its sorting if there is a criterion; all others keep their defaults.
That the parameters of a type set fields of its own is checked when the type is made, so no request
can reach the sorting by a parameter, or a field that there is not.
-/
namespace QueryBinding

open Reading

namespace Query

variable {q : Query} {name : String}

theorem isSet_iff :
    q.isSet name = true ↔
      (q.sorting.isSome = true ∧ name = sortingField) ∨ name ∈ Entries.keys q.given := by
  rw [isSet, setFields, List.contains_iff_mem, List.mem_append]
  cases q.sorting <;> simp

theorem value_of_not_isSet (unset : q.isSet name = false) : q.value name = .null := by
  have absent : name ∉ Entries.keys q.given := fun mem => by
    rw [isSet_iff.2 (.inr mem)] at unset
    cases unset
  have none : q.given.lookup name = none :=
    Entries.lookup_eq_none (fun _ => List.mem_map_of_mem) absent
  rw [value, none]
  rfl

end Query

namespace QueryType

variable {type : QueryType} {q : Query} {values : List (String × Datum)} {items : List Datum}

/-! ### Queries that were constructed -/

/-- The fields of a query are set by the entries under their names. -/
theorem mem_keys_given (visible : type.replacesSorting = false)
    (names : ∀ entry ∈ values, entry.1 ∈ type.fields.map (·.name))
    (gives : Field.readGiven type.fields (.object (values ++ sortingEntry items)) = .ok q.given)
    {name : String} : name ∈ Entries.keys q.given ↔ name ∈ Entries.keys values := by
  have found : ∀ field ∈ type.fields, (∃ d, (Datum.object (values ++ sortingEntry items)).get?
      field.name = some d) ↔ field.name ∈ Entries.keys values := by
    intro field known
    rw [get?_append_sortingEntry visible known, Entries.mem_keys_iff]
    rfl
  rw [Field.mem_keys_readGiven gives]
  constructor
  · rintro ⟨isField, held⟩
    obtain ⟨field, known, rfl⟩ := List.mem_map.1 isField
    exact (found field known).1 held
  · intro mem
    obtain ⟨entry, among, rfl⟩ := List.mem_map.1 mem
    obtain ⟨field, known, same⟩ := List.mem_map.1 (names entry among)
    rw [← same] at mem ⊢
    exact ⟨List.mem_map_of_mem known, (found field known).2 mem⟩

/-- What a query that was made of a request shows: the fields of the given parameters are set, and
the sorting if there are criteria. -/
structure Shows (type : QueryType) (given : Parameter → Prop) (criteria : List SortCriterion)
    (q : Query) : Prop where
  type_eq : q.type = type
  isSet_iff : ∀ name, q.isSet name = true ↔
    (∃ p ∈ type.parameters.toList, p.field = name ∧ given p) ∨ name = sortingField ∧ criteria ≠ []
  criteria_eq : q.criteria = criteria
  unset : ∀ field ∈ type.fields, q.isSet field.name = false →
    field.default = some (q.value field.name)

theorem shows_of_construct {given : Parameter → Prop}
    (optional : ∀ field ∈ type.fields, field.default = some .null)
    (keys : ∀ name, name ∈ Entries.keys values ↔
      ∃ p ∈ type.parameters.toList, p.field = name ∧ given p)
    (made : type.construct (values ++ sortingEntry items) = .ok q) :
    ∃ criteria, readItems readCriterion items = .ok criteria ∧ type.Shows given criteria q := by
  have targets : ∀ entry ∈ values,
      entry.1 ∈ type.fields.map (·.name) ∧ entry.1 ≠ sortingField := by
    intro entry mem
    obtain ⟨p, known, same, _⟩ := (keys entry.1).1 (List.mem_map_of_mem mem)
    exact same ▸ ⟨mem_names_of_parameter known, ne_sortingField known⟩
  have others : ∀ entry ∈ values, entry.1 ≠ sortingField := fun entry mem => (targets entry mem).2
  obtain ⟨isRead, accepted⟩ := construct_eq_ok.1 made
  obtain ⟨rfl, sorted, gives⟩ := read_eq_ok isRead
  obtain ⟨_, _, ordered, _⟩ := accept_eq_ok.1 accepted
  have visible := replacesSorting_of_ordering (lookup_sortingField others) gives ordered
  obtain ⟨criteria, reads, sorting⟩ := exists_of_readSorting visible others sorted
  have set_iff {name : String} : name ∈ Entries.keys q.given ↔ name ∈ Entries.keys values :=
    mem_keys_given visible (fun entry mem => (targets entry mem).1) gives
  have sorting_iff : q.sorting.isSome = true ↔ criteria ≠ [] := by
    rw [sorting]
    cases criteria <;> simp [sortingOf]
  refine ⟨criteria, reads, rfl, fun name => ?_, ?_, fun field known unset => ?_⟩
  · rw [Query.isSet_iff, set_iff, keys, sorting_iff, or_comm, and_comm (a := criteria ≠ [])]
  · rw [Query.criteria, sorting]
    cases criteria <;> rfl
  · rw [optional field known, Query.value_of_not_isSet unset]

/-! ### Requests -/

theorem keys_of_sets {ps : List Parameter} {raw : RawParameters}
    (entries : List.Forall₂ (Parameter.Sets raw) ps values) :
    Entries.keys values = ps.map (·.field) := by
  induction entries with
  | nil => rfl
  | cons sets _ ih =>
    rw [List.map_cons, ← ih, ← sets.1]
    rfl

theorem mem_keys_bindAll {ps : List Parameter} {raw : RawParameters}
    (bound : Parameter.bindAll ps raw = .ok values) {name : String} :
    name ∈ Entries.keys values ↔ ∃ p ∈ ps, p.field = name ∧ raw.values p.name ≠ [] := by
  rw [keys_of_sets (Parameter.bindAll_eq_ok.1 bound), List.mem_map]
  constructor
  · rintro ⟨p, mem, rfl⟩
    obtain ⟨known, supplied⟩ := List.mem_filter.1 mem
    exact ⟨p, known, rfl, Parameter.isSupplied_eq_true.1 supplied⟩
  · rintro ⟨p, known, rfl, given⟩
    exact ⟨p, List.mem_filter.2 ⟨known, Parameter.isSupplied_eq_true.2 given⟩, rfl⟩

/-- A body has a value other than null for the parameter. -/
def HoldsValue (body : List (String × Datum)) (p : Parameter) : Prop :=
  ∃ d, body.lookup p.name = some d ∧ d.isNull = false

theorem bodyValue?_eq_some {body : List (String × Datum)} {key : String} {d : Datum} :
    bodyValue? body key = some d ↔ body.lookup key = some d ∧ d.isNull = false := by
  rw [bodyValue?, Option.filter_eq_some_iff, Bool.not_eq_true']

theorem mem_keys_bodyValues {body : List (String × Datum)} {name : String} :
    name ∈ Entries.keys (type.bodyValues body) ↔
      ∃ p ∈ type.parameters.toList, p.field = name ∧ HoldsValue body p := by
  rw [Entries.mem_keys_iff]
  constructor
  · rintro ⟨d, found⟩
    obtain ⟨p, known, same, held⟩ := exists_parameter_of_lookup found
    exact ⟨p, known, same, d, bodyValue?_eq_some.1 held⟩
  · rintro ⟨p, known, rfl, d, held⟩
    exact ⟨d, by rw [lookup_bodyValues_of_mem body known, bodyValue?_eq_some.2 held]⟩

theorem shows_of_fromParameters {raw : RawParameters}
    (optional : ∀ field ∈ type.fields, field.default = some .null)
    (made : type.fromParameters raw = .ok q) :
    ∃ criteria,
      type.criteriaOf (raw.values SortCriterion.byKey) (raw.values SortCriterion.orderKey) =
        .ok criteria ∧
      (criteria ≠ [] ↔ raw.values SortCriterion.byKey ≠ []) ∧
      type.Shows (fun p => raw.values p.name ≠ []) criteria q := by
  obtain ⟨values, criteria, bound, paired, constructed⟩ := fromParameters_eq_ok.1 made
  obtain ⟨all, reads, shows⟩ :=
    shows_of_construct optional (fun _ => mem_keys_bindAll bound) constructed
  have self : ∀ c, readCriterion (.criterion c) = .ok c := fun _ => rfl
  cases reads.symm.trans (readItems_map self criteria)
  obtain ⟨_, fields, _⟩ := criteriaOf_eq_ok.1 paired
  refine ⟨criteria, paired, ?_, shows⟩
  rw [← fields, ne_eq, ne_eq, List.map_eq_nil_iff]

/-- The sorting of a body: criteria under its sort keys, and others as objects. -/
inductive SortsBodyBy (type : QueryType) (body : List (String × Datum)) :
    List SortCriterion → Prop
  | intro {fields orders : List String} {front back : List SortCriterion} {items : List Datum}
      (named : GivesTexts (body.lookup SortCriterion.byKey) fields)
      (directed : GivesTexts (body.lookup SortCriterion.orderKey) orders)
      (paired : type.criteriaOf fields orders = .ok front)
      (listed : GivesItems (body.lookup sortingField) items)
      (reads : readItems readCriterion items = .ok back) : type.SortsBodyBy body (front ++ back)

theorem shows_of_fromBody {body : List (String × Datum)}
    (optional : ∀ field ∈ type.fields, field.default = some .null)
    (made : type.fromBody body = .ok q) :
    ∃ criteria, type.SortsBodyBy body criteria ∧ type.Shows (HoldsValue body) criteria q := by
  obtain ⟨fields, orders, front, items, named, directed, paired, listed, constructed⟩ :=
    fromBody_eq_ok.1 made
  obtain ⟨all, readAll, shows⟩ :=
    shows_of_construct optional (fun _ => mem_keys_bodyValues) constructed
  obtain ⟨back, reads, rfl⟩ := exists_of_readItems_append readAll
  exact ⟨_, .intro (sortValues_eq_ok.1 named) (sortValues_eq_ok.1 directed) paired
    (sortingItems_eq_ok.1 listed) reads, shows⟩

/-! ### What requests cannot do -/

/-- Entries that a type takes: none of them is the sorting, and together with any sorting none of
them belongs to no field. -/
def Admits (type : QueryType) (entries : List (String × Datum)) : Prop :=
  (∀ entry ∈ entries, entry.1 ≠ sortingField) ∧
    ∀ items, type.readOthers (entries ++ sortingEntry items) = .ok ()

theorem admits_of_targets
    (targets : ∀ entry ∈ values, ∃ p ∈ type.parameters.toList, p.field = entry.1) :
    type.Admits values := by
  constructor
  · intro entry mem
    obtain ⟨p, known, same⟩ := targets entry mem
    exact same ▸ ne_sortingField known
  · refine fun items => readOthers_eq_ok fun entry mem => ?_
    rcases List.mem_append.1 mem with mem | mem
    · obtain ⟨p, known, same⟩ := targets entry mem
      exact List.mem_cons_of_mem _ (same ▸ mem_names_of_parameter known)
    · exact mem_sortingEntry mem ▸ List.mem_cons_self

theorem admits_bind {raw : RawParameters} (bound : type.parameters.bind raw = .ok values) :
    type.Admits values :=
  admits_of_targets fun entry mem =>
    List.mem_map.1 (Parameter.mem_fields_of_bindAll bound entry mem)

theorem admits_bodyValues (type : QueryType) (body : List (String × Datum)) :
    type.Admits (type.bodyValues body) :=
  admits_of_targets fun _ mem => List.mem_map.1 (Parameter.mem_fields_of_filterMap mem)

/-- What holds of every request for a type: a query that is made of it has set the fields of the
parameters that it gives and no others, and its sorting is the one that it asks for. -/
structure BindsExactly (type : QueryType) : Prop where
  parameters : ∀ raw q, type.fromParameters raw = .ok q → ∃ criteria,
    type.criteriaOf (raw.values SortCriterion.byKey) (raw.values SortCriterion.orderKey) =
      .ok criteria ∧
    (criteria ≠ [] ↔ raw.values SortCriterion.byKey ≠ []) ∧
    type.Shows (fun p => raw.values p.name ≠ []) criteria q
  body : ∀ body q, type.fromBody body = .ok q → ∃ criteria, type.SortsBodyBy body criteria ∧
    type.Shows (HoldsValue body) criteria q
  admits_parameters : ∀ raw values, type.parameters.bind raw = .ok values → type.Admits values
  admits_body : ∀ body, type.Admits (type.bodyValues body)

theorem Declared.bindsExactly (declared : type.Declared) : type.BindsExactly where
  parameters _ _ := shows_of_fromParameters declared.unset
  body _ _ := shows_of_fromBody declared.unset
  admits_parameters _ _ := admits_bind
  admits_body := admits_bodyValues type

end QueryType
end QueryBinding
