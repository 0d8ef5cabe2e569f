import QueryBinding.Proofs.Catalog.Facet
/-!
The calls of the catalogue's queries. The calls of a facet are filter calls and have names of their
own, which no other facet and no ordering shares; so the log of a query falls apart into its filter
calls and its ordering calls.
-/
namespace QueryBinding

namespace Call

theorem isFilter_of_name {c : Call} {name : String} (same : c.name = name) :
    c.isFilter = (⟨name, []⟩ : Call).isFilter := by
  subst same
  rfl

end Call

/-- The calls of one part are the ones by its names, if no name is of two parts. -/
theorem filter_flatMap_of_nodup {names : α → List String} {calls : α → List Call} {as : List α}
    (named : ∀ a, ∀ c ∈ calls a, c.name ∈ names a) (nodup : (as.flatMap names).Nodup) {a : α}
    (mem : a ∈ as) : (as.flatMap calls).filter (fun c => (names a).contains c.name) = calls a := by
  have own : ∀ a, (calls a).filter (fun c => (names a).contains c.name) = calls a := by
    intro a
    exact List.filter_eq_self.2 fun c mem => List.contains_iff_mem.2 (named a c mem)
  have none : ∀ a b, (∀ name ∈ names b, name ∉ names a) →
      (calls b).filter (fun c => (names a).contains c.name) = [] := by
    intro a b apart
    refine List.filter_eq_nil_iff.2 fun c mem shared => ?_
    exact apart c.name (named b c mem) (List.contains_iff_mem.1 shared)
  induction as with
  | nil => cases mem
  | cons first as ih =>
    rw [List.flatMap_cons, List.nodup_append] at nodup
    obtain ⟨_, nodup, apart⟩ := nodup
    rw [List.flatMap_cons, List.filter_append]
    rcases List.mem_cons.1 mem with rfl | mem
    · have others : (as.flatMap calls).filter (fun c => (names a).contains c.name) = [] := by
        rw [List.filter_flatMap]
        refine List.flatMap_eq_nil_iff.2 fun b known => none a b fun name hb ha => ?_
        exact apart name ha name (List.mem_flatMap.2 ⟨b, known, hb⟩) rfl
      rw [own, others, List.append_nil]
    · have head : (calls first).filter (fun c => (names a).contains c.name) = [] := by
        refine none a first fun name hfirst ha => ?_
        exact apart name hfirst name (List.mem_flatMap.2 ⟨a, mem, ha⟩) rfl
      rw [head, List.nil_append]
      exact ih nodup mem

namespace Catalog

variable {t : Catalog} {q : Query} {e : Engine} {c : Call}

/-! ### Names of calls -/

theorem nodup_callNames (t : Catalog) : (t.facets.flatMap (·.toRule.callNames)).Nodup := by
  cases t <;> decide +kernel

theorem isFilter_callNames (t : Catalog) :
    ∀ f ∈ t.facets, ∀ name ∈ f.toRule.callNames, (⟨name, []⟩ : Call).isFilter = true := by
  cases t <;> decide +kernel

theorem isOrdering_orderings (t : Catalog) :
    ∀ entry ∈ t.queryType.sortFields.orderings, (⟨entry.2, []⟩ : Call).isOrdering = true := by
  cases t <;> decide +kernel

theorem nodup_orderings (t : Catalog) : (t.queryType.sortFields.orderings.map (·.2)).Nodup := by
  cases t <;> decide +kernel

/-! ### Logs of queries -/

theorem filterCalls_eq (same : q.type = t.queryType) :
    q.filterCalls = t.facets.flatMap fun f => f.toRule.callsFor (q.value f.field) :=
  QueryType.HasFacets.filterCalls_eq (same ▸ t.hasFacets)

theorem isFilter_of_mem_filterCalls (same : q.type = t.queryType) (mem : c ∈ q.filterCalls) :
    c.isFilter = true := by
  rw [filterCalls_eq same] at mem
  obtain ⟨f, known, mem⟩ := List.mem_flatMap.1 mem
  rw [Call.isFilter_of_name rfl]
  exact t.isFilter_callNames f known _ (FilterRule.name_mem_callNames mem)

theorem isOrdering_of_mem_callsFor {criterion : SortCriterion}
    (mem : c ∈ t.queryType.sortFields.callsFor criterion) : c.isOrdering = true := by
  unfold SortWhitelist.callsFor at mem
  split at mem
  · rename_i call found
    rcases List.mem_cons.1 mem with rfl | mem
    · exact t.isOrdering_orderings _ (Entries.mem_of_lookup found)
    · rw [List.mem_singleton.1 mem]
      cases criterion.order <;> decide +kernel
  · cases mem

theorem isOrdering_of_mem_sortCalls (same : q.type = t.queryType) (mem : c ∈ q.sortCalls) :
    c.isOrdering = true := by
  obtain ⟨criterion, _, mem⟩ := List.mem_flatMap.1 mem
  exact isOrdering_of_mem_callsFor (same ▸ mem)

theorem filter_isFilter_calls (same : q.type = t.queryType) :
    (q.filterCalls ++ q.sortCalls).filter (·.isFilter) = q.filterCalls := by
  have filters : q.filterCalls.filter (·.isFilter) = q.filterCalls :=
    List.filter_eq_self.2 fun c mem => isFilter_of_mem_filterCalls same mem
  have others : q.sortCalls.filter (·.isFilter) = [] := by
    refine List.filter_eq_nil_iff.2 fun c mem => ?_
    simp [Call.isFilter, isOrdering_of_mem_sortCalls same mem]
  rw [List.filter_append, filters, others, List.append_nil]

theorem filter_isOrdering_calls (same : q.type = t.queryType) :
    (q.filterCalls ++ q.sortCalls).filter (·.isOrdering) = q.sortCalls := by
  have filters : q.filterCalls.filter (·.isOrdering) = [] := by
    refine List.filter_eq_nil_iff.2 fun c mem => ?_
    have isFilter := isFilter_of_mem_filterCalls same mem
    simp only [Call.isFilter, Bool.and_eq_true, Bool.not_eq_true'] at isFilter
    simp [isFilter.1]
  have others : q.sortCalls.filter (·.isOrdering) = q.sortCalls :=
    List.filter_eq_self.2 fun c mem => isOrdering_of_mem_sortCalls same mem
  rw [List.filter_append, filters, others, List.nil_append]

theorem filter_callNames (same : q.type = t.queryType) {f : Facet} (mem : f ∈ t.facets) :
    q.filterCalls.filter (fun c => f.toRule.callNames.contains c.name) =
      f.toRule.callsFor (q.value f.field) := by
  rw [filterCalls_eq same]
  exact filter_flatMap_of_nodup (fun f c mem => FilterRule.name_mem_callNames mem)
    t.nodup_callNames mem

/-- The names of a facet single its calls out among all calls of a query. -/
theorem filter_callNames_calls (same : q.type = t.queryType) {f : Facet} (mem : f ∈ t.facets) :
    (q.filterCalls ++ q.sortCalls).filter (fun c => f.toRule.callNames.contains c.name) =
      f.toRule.callsFor (q.value f.field) := by
  have none : q.sortCalls.filter (fun c => f.toRule.callNames.contains c.name) = [] := by
    refine List.filter_eq_nil_iff.2 fun c made named => ?_
    have isFilter := t.isFilter_callNames f mem c.name (List.contains_iff_mem.1 named)
    rw [← Call.isFilter_of_name rfl] at isFilter
    simp [Call.isFilter, isOrdering_of_mem_sortCalls same made] at isFilter
  rw [List.filter_append, filter_callNames same mem, none, List.append_nil]

theorem filterCalls_recordAll (same : q.type = t.queryType) :
    (e.recordAll (q.filterCalls ++ q.sortCalls)).filterCalls = e.filterCalls ++ q.filterCalls := by
  rw [Engine.filterCalls, Engine.recordAll_calls, List.filter_append, filter_isFilter_calls same]
  rfl

/-! ### Queries that were made -/

theorem ordering_listed (made : t.queryType.Makes q) :
    ∀ c ∈ q.criteria, q.type.sortFields.contains c.field = true := by
  have same := made.type_eq
  obtain ⟨criteria, ordered, listed⟩ := made.exists_ordering
  have visible : q.type.hides sortingField = false :=
    same ▸ t.visible _ (by simp [QueryType.operationNames])
  rw [Query.ordering_eq_criteria visible] at ordered
  cases ordered
  exact same ▸ listed

/-- Building a query that was made leaves the engine with one more handle and its calls. -/
theorem runFrom_build (made : t.queryType.Makes q) (quiet : e.rejects = []) :
    runFrom q.build e =
      (.ok (), (e.recordFactory t.queryType.factory.method).recordAll
        (q.filterCalls ++ q.sortCalls)) := by
  have same := made.type_eq
  have direct : q.type.Direct := same ▸ t.direct
  rw [← same]
  exact Query.runFrom_build direct (ordering_listed made) quiet

end Catalog
end QueryBinding
