import QueryBinding.Proofs.Query.Binding
import QueryBinding.Proofs.Query.Confinement
import QueryBinding.Proofs.Query.Fitting
/-!
Sorting is checked when a query is made. Whichever source a query comes from, its criteria are in
the whitelist of its type, so that building it meets no unknown sort field and orders the results
criterion by criterion; a source with another criterion makes no query. A field of a type that takes
the place of the sorting cannot let a criterion pass: the values that fields have are no criteria,
and going through them fails.
-/
namespace QueryBinding

open Engine

/-! ### Sources that ask for an order -/

namespace QuerySource

/-- The sorting among entries has a criterion by the field. -/
def HasCriterion (entries : List (String × Datum)) (field : String) : Prop :=
  ∃ items item criterion, entries.lookup sortingField = some (.list items) ∧ item ∈ items ∧
    readCriterion item = .ok criterion ∧ criterion.field = field

/-- A value names a field, alone or among others. -/
def Names (d : Datum) (field : String) : Prop :=
  d = .text field ∨ ∃ items, d = .list items ∧ .text field ∈ items

/-- A source asks for an order by the field, by a parameter, by a sort key of a body or by a
criterion of its own. -/
def OrdersBy : QuerySource → String → Prop
  | .request (.parameters raw), field => field ∈ raw.values SortCriterion.byKey
  | .request (.body (.object body)), field =>
    (∃ d, body.lookup SortCriterion.byKey = some d ∧ Names d field) ∨ HasCriterion body field
  | .request (.body _), _ => False
  | .fields entries, field => HasCriterion entries field

end QuerySource

open QuerySource

namespace Query

theorem criteriaIn_eq_ok {items : List Datum} {criteria : List SortCriterion}
    (h : criteriaIn (.list items) = .ok criteria) :
    ∀ d ∈ items, ∃ c, d = .criterion c := by
  change items.mapM criterionOf = .ok criteria at h
  induction items generalizing criteria with
  | nil => exact fun d mem => nomatch mem
  | cons first items ih =>
    simp only [List.mapM_cons, bind_eq_ok] at h
    obtain ⟨c, head, rest, tail, _⟩ := h
    intro d mem
    rcases List.mem_cons.1 mem with rfl | mem
    · cases d with
      | criterion c => exact ⟨c, rfl⟩
      | _ => cases head
    · exact ih tail d mem

end Query

/-- A value that a list is read as holds no criteria, unless the list is empty. -/
theorem FieldType.eq_nil_of_criteriaIn {type : FieldType} {items : List Datum} {v : Datum}
    {criteria : List SortCriterion} (reads : type.read (.list items) = .ok v)
    (ordered : Query.criteriaIn v = .ok criteria) : items = [] := by
  cases type with
  | texts =>
    obtain ⟨texts, gathered, rfl⟩ := map_eq_ok.1 reads
    cases texts with
    | nil => exact List.map_eq_nil_iff.1 (readItems_eq_ok.1 gathered)
    | cons s texts =>
      obtain ⟨c, same⟩ := Query.criteriaIn_eq_ok ordered _ List.mem_cons_self
      cases same
  | filters =>
    obtain ⟨filters, gathered, rfl⟩ := map_eq_ok.1 reads
    cases filters with
    | nil => exact List.map_eq_nil_iff.1 (readItems_eq_ok.1 gathered)
    | cons v filters =>
      obtain ⟨c, same⟩ := Query.criteriaIn_eq_ok ordered _ List.mem_cons_self
      cases same
  | _ => cases reads

namespace QueryType

variable {type : QueryType} {q : Query} {field : String}

/-- A field in the place of the sorting would have to read the criteria as a value of its own. -/
theorem eq_nil_of_replacesSorting (replaced : type.replacesSorting = true)
    {entries : List (String × Datum)} {items : List Datum} {criteria : List SortCriterion}
    (gives : Field.readGiven type.fields (.object entries) = .ok q.given)
    (found : entries.lookup sortingField = some (.list items))
    (ordered : Query.criteriaIn (q.value sortingField) = .ok criteria) : items = [] := by
  obtain ⟨other, known, named⟩ := List.any_eq_true.1 replaced
  have isName : sortingField ∈ type.fields.map (·.name) :=
    List.mem_map.2 ⟨other, known, beq_iff_eq.1 named⟩
  obtain ⟨taking, v, readsAll, held⟩ := Field.exists_lookup_readGiven gives found isName
  rw [Query.value, held, Option.getD_some] at ordered
  have typed : taking.type.read (.list items) = .ok v := by
    simpa [Field.read, Datum.isNull] using readsAll
  exact FieldType.eq_nil_of_criteriaIn typed ordered

/-- A field in the place of the sorting keeps a query from being ordered. -/
theorem replacesSorting_of_ordering {values : List (String × Datum)} {items : List Datum}
    {criteria : List SortCriterion} (unsorted : values.lookup sortingField = none)
    (gives : Field.readGiven q.type.fields (.object (values ++ sortingEntry items)) = .ok q.given)
    (ordered : q.ordering = .ok criteria) : q.type.replacesSorting = false := by
  cases replaced : q.type.replacesSorting with
  | false => rfl
  | true =>
    simp only [Query.ordering, replaced, if_true] at ordered
    cases items with
    | nil =>
      rw [sortingEntry, List.isEmpty_nil, if_pos rfl, List.append_nil] at gives
      rw [Query.value, Field.lookup_eq_none_of_missing gives unsorted] at ordered
      cases ordered
    | cons item items =>
      have entry := lookup_append_sortingEntry unsorted (List.cons_ne_nil item items)
      cases eq_nil_of_replacesSorting replaced gives entry ordered

theorem listed_of_construct {entries : List (String × Datum)}
    (made : type.construct entries = .ok q) (has : HasCriterion entries field) :
    type.sortFields.contains field = true := by
  obtain ⟨items, item, criterion, found, mem, reads, rfl⟩ := has
  obtain ⟨isRead, accepted⟩ := construct_eq_ok.1 made
  obtain ⟨rfl, sorted, gives⟩ := read_eq_ok isRead
  obtain ⟨_, criteria, ordered, listed⟩ := accept_eq_ok.1 accepted
  simp only [readSorting, found] at sorted
  cases replaced : q.type.replacesSorting with
  | true =>
    simp only [Query.ordering, replaced, if_true] at ordered
    rw [eq_nil_of_replacesSorting replaced gives found ordered] at mem
    cases mem
  | false =>
    simp only [Query.ordering, replaced, Bool.false_eq_true, if_false] at ordered sorted
    obtain ⟨all, gathered, set⟩ := map_eq_ok.1 (Reading.inside_eq_ok.1 sorted)
    obtain ⟨c, isAmong, same⟩ := exists_of_readItems gathered mem
    cases reads.symm.trans same
    rw [Query.criteria, ← set] at ordered
    cases ordered
    exact listed criterion isAmong

theorem mem_of_texts? {items : List Datum} {texts : List String} (h : texts? items = some texts)
    (mem : .text field ∈ items) : field ∈ texts := by
  induction items generalizing texts with
  | nil => cases mem
  | cons d items ih =>
    cases d with
    | text s =>
      obtain ⟨rest, tail, rfl⟩ := Option.map_eq_some_iff.1 h
      rcases List.mem_cons.1 mem with same | mem
      · cases same
        exact List.mem_cons_self
      · exact List.mem_cons_of_mem _ (ih tail mem)
    | _ => cases h

theorem mem_of_sortValues {body : List (String × Datum)} {key : String} {texts : List String}
    {d : Datum} (h : sortValues body key = .ok texts) (found : body.lookup key = some d)
    (named : Names d field) : field ∈ texts := by
  have entry : bodyValue? body key = some d := by
    rcases named with rfl | ⟨items, rfl, _⟩ <;> rw [bodyValue?, found] <;> rfl
  rw [sortValues, entry] at h
  rcases named with rfl | ⟨items, rfl, mem⟩
  · cases h
    exact List.mem_singleton_self _
  · dsimp only at h
    split at h
    · rename_i all isTexts
      cases h
      exact mem_of_texts? isTexts mem
    · cases h

theorem lookup_bodyValues (type : QueryType) (body : List (String × Datum)) :
    (type.bodyValues body).lookup sortingField = none := by
  refine Entries.lookup_eq_none (fun _ => Parameter.mem_fields_of_filterMap) fun known => ?_
  obtain ⟨p, isParameter, same⟩ := List.mem_map.1 known
  exact ne_sortingField isParameter same

theorem lookup_bodyValues_append {item : Datum} {items : List Datum} (mem : item ∈ items)
    (type : QueryType) (body : List (String × Datum)) :
    (type.bodyValues body ++ sortingEntry items).lookup sortingField = some (.list items) :=
  lookup_append_sortingEntry (lookup_bodyValues type body) (List.ne_nil_of_mem mem)

/-- Every criterion of a source that a query is made of is in the whitelist. -/
theorem listed_of_make {source : QuerySource} (made : type.make source = .ok q)
    (orders : source.OrdersBy field) : type.sortFields.contains field = true := by
  cases source with
  | fields entries => exact listed_of_construct made orders
  | request input =>
    cases input with
    | parameters raw =>
      obtain ⟨_, _, _, paired, _⟩ := fromParameters_eq_ok.1 made
      exact listed_of_criteriaOf paired orders
    | body d =>
      cases d with
      | object body =>
        obtain ⟨_, _, criteria, items, named, _, paired, listed, constructed⟩ :=
          fromBody_eq_ok.1 made
        rcases orders with ⟨d, found, names⟩ | ⟨all, item, criterion, found, mem, reads, same⟩
        · exact listed_of_criteriaOf paired (mem_of_sortValues named found names)
        · simp only [sortingItems, bodyValue?, found, Option.filter, Datum.isNull] at listed
          cases listed
          have there : item ∈ criteria.map .criterion ++ items := List.mem_append_right _ mem
          have entry := lookup_bodyValues_append there type body
          exact listed_of_construct constructed ⟨_, item, criterion, entry, there, reads, same⟩
      | _ => cases orders

end QueryType

/-! ### Queries that were made -/

/-- What the criteria of a query mean for building it. A failure by a sort field or by a key comes
from the engine. Where the ordering is not hidden, all that is done after the filters is to make two
calls for each criterion in turn; and a recording engine that takes every call has them at the end
of its log. -/
structure Query.IsOrderedBy (q : Query) (criteria : List SortCriterion) : Prop where
  ordering : q.ordering = .ok criteria
  listed : ∀ c ∈ criteria, ∃ call, q.type.sortFields.orderings.lookup c.field = some call ∧
    q.type.sortFields.callsFor c = [⟨call, []⟩, ⟨c.order.symbol, []⟩]
  raised : ∀ e failure, (runFrom q.build e).1 = .error failure →
    failure.isA .sortField = true ∨ failure.isA .key = true → e.Raises failure
  calls : q.type.SortVisible →
    q.build = q.enter >>= fun _ => callAll (criteria.flatMap q.type.sortFields.callsFor)
  log : q.type.Direct → ∀ e, e.rejects = [] → runFrom q.build e =
    (.ok (), (e.recordFactory q.type.factory.method).recordAll
      (q.filterCalls ++ criteria.flatMap q.type.sortFields.callsFor))

theorem Query.isOrderedBy {q : Query} {criteria : List SortCriterion}
    (ordered : q.ordering = .ok criteria)
    (listed : ∀ c ∈ criteria, q.type.sortFields.contains c.field = true) :
    q.IsOrderedBy criteria where
  ordering := ordered
  listed := fun c mem => SortWhitelist.exists_callsFor (listed c mem)
  raised := by
    intro e failure fails kind
    refine (Query.isUsage_or_raises ordered listed fails).resolve_left fun usage => ?_
    rw [usage.isA_eq_false (by decide), usage.isA_eq_false (by decide)] at kind
    exact kind.elim Bool.false_ne_true Bool.false_ne_true
  calls := fun visible => Query.build_eq_enter_then_sort visible ordered listed
  log := by
    intro direct e quiet
    rw [Query.ordering_eq_criteria (direct.visible _ List.mem_cons_self)] at ordered
    cases ordered
    exact Query.runFrom_build direct listed quiet

/-- Every query that a type makes is ordered by criteria of its whitelist, and a source with any
other criterion makes no query and leaves the engine alone. -/
theorem QueryType.sorting_checked (type : QueryType) (source : QuerySource) :
    (∀ q, type.make source = .ok q →
      q.type = type ∧ ∃ criteria, q.IsOrderedBy criteria) ∧
    ∀ field, source.OrdersBy field → type.sortFields.contains field = false →
      ∃ failure, type.make source = .error failure ∧ ∀ e,
        runFrom (liftM (type.make source) >>= Query.build) e = (.error failure, e) := by
  constructor
  · intro q made
    have source : type.Makes q := ⟨source, made⟩
    obtain ⟨criteria, ordered, listed⟩ := source.exists_ordering
    exact ⟨source.type_eq, criteria, Query.isOrderedBy ordered (source.type_eq ▸ listed)⟩
  · intro field orders unlisted
    cases made : type.make source with
    | ok q =>
      rw [listed_of_make made orders] at unlisted
      cases unlisted
    | error failure => exact ⟨failure, rfl, fun e => by rw [lift_error_bind, runFrom_throw]⟩

/-- A field in the place of an operation keeps the results from being ordered: the criterion of this
query is in the whitelist, but building the query makes no call and fails. -/
theorem QueryType.not_ordered_by_hidden_sort :
    ∃ type q,
      Declaration.toQueryType
          { name := "T", fields := [("apply_sort", .text)], sortFields := [("a", "order_by_a")] } =
        .ok type ∧
      type.make (.fields [("sorting", .list [.object [("sortBy", .text "a")]])]) = .ok q ∧
      q.ordering = .ok [⟨"a", .asc⟩] ∧ type.sortFields.contains "a" = true ∧
      runFrom q.build {} =
        (.error (.misuse (.notCallable "NoneType")), { created := ["create_custom_query"] }) :=
  ⟨_, _, rfl, rfl, rfl, rfl, rfl⟩

end QueryBinding
