import QueryBinding.Proofs.Query.Pairing
import QueryBinding.Proofs.Validation.Reading
import QueryBinding.Query
/-!
The sources of queries: request parameters, request bodies and field values. Every query that is
made from one of them has been read and accepted: its values are of the types of their fields, and
its criteria are in the whitelist of its type.
-/
namespace QueryBinding

/-- What a query can be made from. -/
inductive QuerySource where
  | request (input : QueryInput)
  | fields (entries : List (String × Datum))

namespace QueryType

variable {type : QueryType} {q : Query}

/-- The query that a source describes. -/
def make (type : QueryType) : QuerySource → Except Failure Query
  | .request input => type.ofInput input
  | .fields entries => type.construct entries

/-- Whether the type makes a query from some source. -/
def Makes (type : QueryType) (q : Query) : Prop := ∃ source, type.make source = .ok q

theorem ne_sortingField {p : Parameter} (mem : p ∈ type.parameters.toList) :
    p.field ≠ sortingField := by
  have declared := type.declares_field p mem
  rw [declares, Bool.and_eq_true] at declared
  exact bne_iff_ne.1 declared.1

theorem mem_names_of_parameter {p : Parameter} (mem : p ∈ type.parameters.toList) :
    p.field ∈ type.fields.map (·.name) := by
  have declared := type.declares_field p mem
  simp only [declares, Bool.and_eq_true, List.any_eq_true, beq_iff_eq] at declared
  obtain ⟨field, isField, named⟩ := declared.2
  exact List.mem_map.2 ⟨field, isField, named⟩

/-! ### Acceptance -/

theorem resolve_eq_ok {criteria resolved : List SortCriterion} :
    type.resolve criteria = .ok resolved ↔
      resolved = criteria ∧ ∀ c ∈ criteria, type.sortFields.contains c.field = true := by
  have checked : type.checkSortFields (criteria.map (·.field)) = .ok () ↔ _ := checkSortFields_eq_ok
  rw [List.forall_mem_map] at checked
  simp only [resolve, bind_eq_ok, ← checked]
  constructor
  · rintro ⟨_, ok, same⟩
    exact ⟨(Except.ok.inj same).symm, ok⟩
  · rintro ⟨rfl, ok⟩
    exact ⟨(), ok, rfl⟩

theorem resolve_unsortable (criteria : List SortCriterion) :
    FailsOnly type.Unsortable (type.resolve criteria) :=
  (checkSortFields_unsortable _).bind fun _ => .ok criteria

/-- Criteria that were paired are ones that the type admits. -/
theorem forall_listed_of_criteriaOf {fields orders : List String} {criteria : List SortCriterion}
    (paired : type.criteriaOf fields orders = .ok criteria) :
    ∀ c ∈ criteria, type.sortFields.contains c.field = true := by
  intro c mem
  obtain ⟨listed, rfl, -⟩ := criteriaOf_eq_ok.1 paired
  exact SortWhitelist.contains_eq_true.2 (listed _ (List.mem_map_of_mem mem))

theorem listed_of_criteriaOf {fields orders : List String} {criteria : List SortCriterion}
    (paired : type.criteriaOf fields orders = .ok criteria) {field : String}
    (mem : field ∈ fields) : type.sortFields.contains field = true :=
  SortWhitelist.contains_eq_true.2 ((criteriaOf_eq_ok.1 paired).1 field mem)

theorem accept_eq_ok {r : Query} :
    accept q = .ok r ↔
      r = q ∧ ∃ criteria, q.ordering = .ok criteria ∧
        ∀ c ∈ criteria, q.type.sortFields.contains c.field = true := by
  simp only [accept, discard, Functor.discard, Functor.mapConst, bind_eq_ok]
  constructor
  · rintro ⟨criteria, ordered, _, resolved, same⟩
    obtain ⟨found, isResolved, _⟩ := map_eq_ok.1 resolved
    exact ⟨(Except.ok.inj same).symm, criteria, ordered, (resolve_eq_ok.1 isResolved).2⟩
  · rintro ⟨rfl, criteria, ordered, listed⟩
    exact ⟨criteria, ordered, (), map_eq_ok.2 ⟨criteria, resolve_eq_ok.2 ⟨rfl, listed⟩, rfl⟩, rfl⟩

theorem read_eq_ok {entries : List (String × Datum)} (h : type.read entries = .ok q) :
    q.type = type ∧ type.readSorting entries = .ok q.sorting ∧
      Field.readGiven type.fields (.object entries) = .ok q.given := by
  simp only [QueryType.read, map_eq_ok, Prod.exists, Reading.both_eq_ok] at h
  obtain ⟨sorting, given, _, ⟨sorted, gives, _⟩, rfl⟩ := h
  exact ⟨rfl, sorted, gives⟩

theorem construct_eq_ok {entries : List (String × Datum)} :
    type.construct entries = .ok q ↔ type.read entries = .ok q ∧ accept q = .ok q := by
  simp only [construct, bind_eq_ok]
  constructor
  · rintro ⟨r, reads, accepted⟩
    obtain ⟨rfl, _⟩ := accept_eq_ok.1 accepted
    unfold Failure.ofReading at reads
    split at reads
    · cases reads
      exact ⟨‹_›, accepted⟩
    · cases reads
  · rintro ⟨reads, accepted⟩
    exact ⟨q, by rw [reads]; rfl, accepted⟩

theorem fromParameters_eq_ok {raw : RawParameters} :
    type.fromParameters raw = .ok q ↔
      ∃ values criteria, type.parameters.bind raw = .ok values ∧
        type.criteriaOf (raw.values SortCriterion.byKey) (raw.values SortCriterion.orderKey) =
          .ok criteria ∧
        type.construct (values ++ sortingEntry (criteria.map .criterion)) = .ok q := by
  simp only [fromParameters, bind_eq_ok]
  constructor
  · rintro ⟨values, bound, criteria, paired, made⟩
    exact ⟨values, criteria, bound, paired, made⟩
  · rintro ⟨values, criteria, bound, paired, made⟩
    exact ⟨values, bound, criteria, paired, made⟩

/-- What comes of reading a body: the query, if its criteria are admitted, or the first issue in the
words of requests. -/
def judge (type : QueryType) : Reading Query → Except Failure Query
  | .ok q => accept q
  | .error issues => .error (type.bindingFailure issues.first)

theorem fromBody_eq_judge {body : List (String × Datum)} {fields orders : List String}
    {criteria : List SortCriterion} {items : List Datum}
    (named : sortValues body SortCriterion.byKey = .ok fields)
    (directed : sortValues body SortCriterion.orderKey = .ok orders)
    (paired : type.criteriaOf fields orders = .ok criteria)
    (listed : sortingItems body = .ok items) :
    type.fromBody body = type.judge
      (type.read (type.bodyValues body ++ sortingEntry (criteria.map .criterion ++ items))) := by
  rw [fromBody, named, directed]
  simp only [bind, Except.bind, paired, listed]
  rfl

theorem fromBody_eq_ok {body : List (String × Datum)} :
    type.fromBody body = .ok q ↔
      ∃ fields orders criteria items, sortValues body SortCriterion.byKey = .ok fields ∧
        sortValues body SortCriterion.orderKey = .ok orders ∧
        type.criteriaOf fields orders = .ok criteria ∧ sortingItems body = .ok items ∧
        type.construct (type.bodyValues body ++ sortingEntry (criteria.map .criterion ++ items)) =
          .ok q := by
  simp only [fromBody, bind_eq_ok, construct_eq_ok]
  constructor
  · rintro ⟨fields, hf, orders, ho, criteria, hc, items, hi, made⟩
    refine ⟨fields, orders, criteria, items, hf, ho, hc, hi, ?_⟩
    split at made
    · rename_i r reads
      obtain ⟨rfl, _⟩ := accept_eq_ok.1 made
      exact ⟨reads, made⟩
    · cases made
  · rintro ⟨fields, orders, criteria, items, hf, ho, hc, hi, reads, accepted⟩
    refine ⟨fields, hf, orders, ho, criteria, hc, items, hi, ?_⟩
    rw [reads]
    exact accepted

/-- From every source a query is constructed out of field values. -/
theorem exists_construct_of_make {source : QuerySource} (h : type.make source = .ok q) :
    ∃ entries, type.construct entries = .ok q := by
  cases source with
  | fields entries => exact ⟨entries, h⟩
  | request input =>
    cases input with
    | parameters raw =>
      obtain ⟨_, _, _, _, made⟩ := fromParameters_eq_ok.1 h
      exact ⟨_, made⟩
    | body d =>
      cases d with
      | object entries =>
        obtain ⟨_, _, _, _, _, _, _, _, made⟩ := fromBody_eq_ok.1 h
        exact ⟨_, made⟩
      | _ => cases h

end QueryType

/-! ### What is known of a query that was made -/

namespace QueryType.Makes

open Reading

variable {type : QueryType} {q : Query}

theorem type_eq (made : type.Makes q) : q.type = type := by
  obtain ⟨source, h⟩ := made
  obtain ⟨entries, constructed⟩ := exists_construct_of_make h
  exact (read_eq_ok (construct_eq_ok.1 constructed).1).1

/-- The criteria of a query are in the whitelist of its type. -/
theorem exists_ordering (made : type.Makes q) :
    ∃ criteria, q.ordering = .ok criteria ∧
      ∀ c ∈ criteria, type.sortFields.contains c.field = true := by
  have same := made.type_eq
  obtain ⟨source, h⟩ := made
  obtain ⟨entries, constructed⟩ := exists_construct_of_make h
  obtain ⟨_, criteria, ordered, listed⟩ := accept_eq_ok.1 (construct_eq_ok.1 constructed).2
  exact ⟨criteria, ordered, same ▸ listed⟩

/-- A field is unset or null, or its value is of its type. -/
theorem value_holds (made : type.Makes q) (nodup : (type.fields.map (·.name)).Nodup)
    {field : Field} (mem : field ∈ type.fields) :
    q.value field.name = .null ∨ field.type.Holds (q.value field.name) := by
  obtain ⟨source, h⟩ := made
  obtain ⟨entries, constructed⟩ := exists_construct_of_make h
  obtain ⟨_, _, gives⟩ := read_eq_ok (construct_eq_ok.1 constructed).1
  unfold Query.value
  rcases Field.lookup_readGiven nodup gives mem with ⟨d, v, _, reads, found⟩ | ⟨_, absent⟩
  · rw [found]
    exact (Field.holds_of_read reads).imp And.right id
  · rw [absent]
    exact .inl rfl

end QueryType.Makes
end QueryBinding
