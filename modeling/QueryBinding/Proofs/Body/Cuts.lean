import QueryBinding.Proofs.Body.Keys
import QueryBinding.Proofs.Query.Fitting
/-!
Sorting in two places of a body. A list of criteria may be cut anywhere: what stands before the cut
is written under the two sort keys, what stands behind it as objects of its own. Wherever it is cut,
the body describes the same query, and request parameters give the same sorting.
-/
namespace QueryBinding

open Reading

/-- An object that tells the field and the direction of a criterion. -/
def SortCriterion.IsWrittenAs (c : SortCriterion) (d : Datum) : Prop :=
  ∃ entries, d = .object entries ∧ entries.lookup byKey = some (.text c.field) ∧
    entries.lookup orderKey = some (.text c.order.symbol)

theorem readOrder_symbol (order : SortOrder) : readOrder (.text order.symbol) = .ok order := by
  cases order <;> rfl

theorem readCriterion_of_isWrittenAs {c : SortCriterion} {d : Datum} (written : c.IsWrittenAs d) :
    readCriterion d = .ok c := by
  obtain ⟨entries, rfl, field, order⟩ := written
  have byField : entryUnder? (.object entries) SortCriterion.byKey "field" =
      some (SortCriterion.byKey, .text c.field) := by
    rw [entryUnder?, Datum.get?, field]
    rfl
  have byOrder : entryUnder? (.object entries) SortCriterion.orderKey "order" =
      some (SortCriterion.orderKey, .text c.order.symbol) := by
    rw [entryUnder?, Datum.get?, order]
    rfl
  simp only [readCriterion, readEntry, byField, byOrder, readText, readOrder_symbol]
  rfl

theorem readItems_of_isWrittenAs {criteria : List SortCriterion} {items : List Datum}
    (written : List.Forall₂ SortCriterion.IsWrittenAs criteria items) :
    readItems readCriterion items = .ok criteria := by
  rw [readItems_eq_ok]
  induction written with
  | nil => rfl
  | cons head _ ih => rw [List.map_cons, List.map_cons, readCriterion_of_isWrittenAs head, ih]

namespace QueryType

variable {type : QueryType} {body given : List (String × Datum)} {criteria : List SortCriterion}

/-- Every field of the type can be read from the entries. -/
def Takes (type : QueryType) (entries : List (String × Datum)) : Prop :=
  ∀ field ∈ type.fields, ∃ entry, field.readFrom (.object entries) = .ok entry

/-- The body sorts by the criteria of `front` under its sort keys and by those of `back` as objects,
and has the values of `filters` for the parameters of the type. -/
structure Cut (type : QueryType) (filters : List (String × Datum))
    (front back : List SortCriterion) (body : List (String × Datum)) : Prop where
  fields : GivesTexts (body.lookup SortCriterion.byKey) (front.map (·.field))
  orders : GivesTexts (body.lookup SortCriterion.orderKey) (front.map (·.order.symbol))
  objects : ∃ items, GivesItems (body.lookup sortingField) items ∧
    List.Forall₂ SortCriterion.IsWrittenAs back items
  values : type.bodyValues body = type.bodyValues filters

theorem mem_names_of_bind {raw : RawParameters} {values : List (String × Datum)}
    (bound : type.parameters.bind raw = .ok values) :
    ∀ entry ∈ values, entry.1 ∈ type.fields.map (·.name) := by
  intro entry mem
  obtain ⟨p, known, same⟩ := List.mem_map.1 (Parameter.mem_fields_of_bindAll bound entry mem)
  exact same ▸ mem_names_of_parameter known

theorem criteriaOf_map (listed : ∀ c ∈ criteria, c.field ∈ type.sortFields.names) :
    type.criteriaOf (criteria.map (·.field)) (criteria.map (·.order.symbol)) = .ok criteria :=
  criteriaOf_eq_ok.2 ⟨List.forall_mem_map.2 listed, rfl, rfl⟩

theorem forall_contains (listed : ∀ c ∈ criteria, c.field ∈ type.sortFields.names) :
    ∀ c ∈ criteria, type.sortFields.contains c.field = true := fun c mem =>
  SortWhitelist.contains_eq_true.2 (listed c mem)

theorem fromBody_of_cut {filters : List (String × Datum)} {front back : List SortCriterion}
    (visible : type.replacesSorting = false)
    (gives : Field.readGiven type.fields (.object (type.bodyValues filters)) = .ok given)
    (listed : ∀ c ∈ front ++ back, c.field ∈ type.sortFields.names)
    (cut : type.Cut filters front back body) :
    type.fromBody body = .ok ⟨type, given, sortingOf (front ++ back)⟩ := by
  obtain ⟨items, held, written⟩ := cut.objects
  have paired := criteriaOf_map fun c mem => listed c (List.mem_append_left back mem)
  have reads := readItems_criteria_append front (readItems_of_isWrittenAs written)
  have read := read_of_given visible (type.mem_names_of_bodyValues filters) gives reads
  rw [fromBody_eq_judge (sortValues_eq_ok.2 cut.fields) (sortValues_eq_ok.2 cut.orders) paired
    (sortingItems_eq_ok.2 held), cut.values, read]
  exact accept_sortingOf visible (forall_contains listed)

theorem fromParameters_of_criteria {raw : RawParameters} {values : List (String × Datum)}
    (visible : type.replacesSorting = false)
    (listed : ∀ c ∈ criteria, c.field ∈ type.sortFields.names)
    (fields : raw.values SortCriterion.byKey = criteria.map (·.field))
    (orders : raw.values SortCriterion.orderKey = criteria.map (·.order.symbol))
    (bound : type.parameters.bind raw = .ok values)
    (gives : Field.readGiven type.fields (.object values) = .ok given) :
    type.fromParameters raw = .ok ⟨type, given, sortingOf criteria⟩ := by
  have self : ∀ c, readCriterion (.criterion c) = .ok c := fun _ => rfl
  have read := read_of_given visible (mem_names_of_bind bound) gives (readItems_map self criteria)
  have paired := criteriaOf_map listed
  rw [← fields, ← orders] at paired
  refine fromParameters_eq_ok.2 ⟨values, criteria, bound, paired, construct_eq_ok.2 ⟨read, ?_⟩⟩
  exact accept_sortingOf visible (forall_contains listed)

theorem isSet_sorting_iff {whole : Datum} (visible : type.replacesSorting = false)
    (gives : Field.readGiven type.fields whole = .ok given) :
    Query.isSet ⟨type, given, sortingOf criteria⟩ sortingField = true ↔ criteria ≠ [] := by
  have apart : sortingField ∉ Entries.keys given := by
    intro mem
    obtain ⟨entry, isGiven, same⟩ := List.mem_map.1 mem
    obtain ⟨field, known, named⟩ :=
      List.mem_map.1 (Field.mem_names_of_readGiven gives entry isGiven)
    exact ne_sortingField_of_mem visible known (named.trans same)
  cases criteria with
  | nil => simp [Query.isSet, Query.setFields, sortingOf, apart]
  | cons c criteria => simp [Query.isSet, Query.setFields, sortingOf]

end QueryType
end QueryBinding
