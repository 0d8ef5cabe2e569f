import QueryBinding.Proofs.Catalog.Contribution
import QueryBinding.Proofs.Converter.Refusal
import QueryBinding.Proofs.Validation.Issues
/-!
Requests that are refused. Whatever a request says, a query type of facets makes a query of it or
refuses it in one of three ways, each of which tells what is wrong in the words of the request. Two
things carry the proof: the texts of a facet that can be converted always fit its field, so that
only conversions refuse parameters; and what reading a body reports lies under a parameter's field
or under the sorting.
-/
namespace QueryBinding

open Reading

/-- The failures by which a type refuses requests. -/
inductive QueryType.Rejection (type : QueryType) : Failure → Prop
  | binding {parameter : String} (value : Datum) (reason : Reason)
      (known : parameter ∈ type.parameters.names ∨
        parameter ∈ [SortCriterion.byKey, SortCriterion.orderKey, sortingField]) :
      type.Rejection (.binding parameter value reason)
  | sortField {field : String} (unlisted : type.sortFields.contains field = false) :
      type.Rejection (.sortField field type.name)
  | unpaired : type.Rejection (.invalidRequest .unpairedSorting)

/-! ### Sorting -/

namespace QueryType

theorem reports_readSorting {names : String → Prop} (type : QueryType)
    (entries : List (String × Datum)) (known : names sortingField) :
    Reports (Issue.LiesUnder names) (type.readSorting entries) := by
  unfold readSorting
  split
  · split
    · exact .ok none
    · exact reports_inside known _
  · exact .ok none

/-- Reading a query reports only what lies under the sorting, a field of the type or an entry. -/
theorem reports_read {names : String → Prop} (type : QueryType) (entries : List (String × Datum))
    (sorting : names sortingField) (fields : ∀ field ∈ type.fields, names field.name)
    (keys : ∀ entry ∈ entries, names entry.1) :
    Reports (Issue.LiesUnder names) (type.read entries) := by
  have others : Reports (Issue.LiesUnder names) (type.readOthers entries) := by
    refine .ofIssues fun issue mem => ?_
    obtain ⟨entry, unknown, rfl⟩ := List.mem_map.1 mem
    exact ⟨entry.1, keys entry (List.mem_filter.1 unknown).1, rfl⟩
  exact FailsOnly.map _ ((type.reports_readSorting entries sorting).both
    ((Field.reports_readGiven _ fields).both others))

variable {type : QueryType}

theorem Unsortable.rejection {failure : Failure} (unsortable : type.Unsortable failure) :
    type.Rejection failure := by
  obtain ⟨field, unlisted, rfl⟩ := unsortable
  exact .sortField unlisted

theorem criteriaOf_rejection (fields orders : List String) :
    FailsOnly type.Rejection (type.criteriaOf fields orders) := by
  intro failure fails
  have pairing := pairing_criteriaOf type fields orders
  rw [fails] at pairing
  cases pairing with
  | unlisted _ _ unknown => exact .sortField (SortWhitelist.contains_eq_false.2 unknown)
  | undirected => exact .binding _ _ (.inr (by simp [SortCriterion.orderKey]))
  | unpaired => exact .unpaired

theorem sortValues_rejection (body : List (String × Datum)) {key : String}
    (known : key ∈ [SortCriterion.byKey, SortCriterion.orderKey]) :
    FailsOnly type.Rejection (sortValues body key) := by
  have reserved : key ∈ [SortCriterion.byKey, SortCriterion.orderKey, sortingField] :=
    List.mem_append_left [sortingField] known
  unfold sortValues
  split
  · exact .ok _
  · exact .ok _
  · split
    · exact .ok _
    · exact .error (.binding _ _ (.inr reserved))
  · exact .error (.binding _ _ (.inr reserved))

theorem sortingItems_rejection (body : List (String × Datum)) :
    FailsOnly type.Rejection (sortingItems body) := by
  unfold sortingItems
  split
  · exact .ok _
  · exact .ok _
  · exact .error (.binding _ _ (.inr (by simp)))

theorem accept_rejection {q : Query} (same : q.type = type)
    (visible : type.replacesSorting = false) : FailsOnly type.Rejection (accept q) := by
  have ordered : q.ordering = .ok q.criteria := Query.ordering_eq_criteria (same ▸ visible)
  unfold accept
  rw [ordered, same]
  refine FailsOnly.bind (.ok q.criteria) fun criteria => ?_
  have resolved : FailsOnly type.Rejection (type.resolve criteria) :=
    (resolve_unsortable criteria).mono fun _ => Unsortable.rejection
  exact (resolved.map _).bind fun _ => .ok q

end QueryType

/-! ### Parameters -/

/-- The converters of facets fail only by refusing a text. -/
theorem Facet.failsBy (f : Facet) : f.toParameter.converter.FailsBy Converter.Refusal := by
  obtain ⟨parameter, field, restriction⟩ := f
  cases restriction with
  | argument call => exact Converter.string_failsBy
  | marker call => exact Converter.boolean_failsBy
  | arguments call => exact Converter.stringList_failsBy
  | distinctArguments call => exact Converter.stringSet_failsBy
  | comparisons => exact Converter.variableList_failsBy

/-! ### Requests -/

namespace QueryType

variable {type : QueryType} {facets : List Facet}

/-- The fields that requests can be about. -/
def Knows (type : QueryType) (field : String) : Prop :=
  field = sortingField ∨ field ∈ type.parameters.fields

theorem externalName_sortingField (type : QueryType) :
    type.parameters.externalName sortingField = sortingField := by
  have absent : type.parameters.byField.lookup sortingField = none := by
    refine List.lookup_eq_none_iff.2 fun entry mem => bne_iff_ne.2 fun same => ?_
    obtain ⟨p, known, rfl⟩ := List.mem_map.1 mem
    exact ne_sortingField known same.symm
  rw [ParameterTable.externalName, absent]

theorem issueField_eq {issue : Issue} {name : String} (head : issue.path.head? = some (.name name)) :
    issueField issue = name := by
  unfold issueField
  cases path : issue.path with
  | nil =>
    rw [path] at head
    cases head
  | cons step steps =>
    rw [path] at head
    cases head
    rfl

/-- An issue of a field that requests can be about is told in their words. -/
theorem bindingFailure_rejection {issue : Issue} (under : issue.LiesUnder type.Knows) :
    type.Rejection (type.bindingFailure issue) := by
  obtain ⟨field, known, head⟩ := under
  refine .binding _ _ ?_
  rw [issueField_eq head]
  rcases known with rfl | known
  · rw [externalName_sortingField]
    exact .inr (by simp)
  · obtain ⟨p, mem, rfl⟩ := List.mem_map.1 known
    rw [ParameterTable.externalName_field mem]
    exact .inl (List.mem_map_of_mem mem)

namespace HasFacets

theorem fromParameters_rejection (h : type.HasFacets facets)
    (visible : type.replacesSorting = false) (raw : RawParameters) :
    FailsOnly type.Rejection (type.fromParameters raw) := by
  have bound : FailsOnly type.Rejection (type.parameters.bind raw) := by
    rw [ParameterTable.bind, h.parameters]
    refine Parameter.bindAll_failsOnly fun p mem given failure fails => ?_
    obtain ⟨f, isFacet, rfl⟩ := List.mem_map.1 mem
    obtain ⟨cause, refuses, rfl⟩ := Parameter.convert_eq_error.1 fails
    obtain ⟨s, _, reason, rfl⟩ := Parameter.converted_failsOnly f.failsBy given cause refuses
    exact .binding _ reason (.inl (List.mem_map_of_mem (h.toParameter_mem isFacet)))
  rw [h.fromParameters_eq visible]
  exact bound.bind fun values => (criteriaOf_rejection _ _).bind fun criteria => .ok _

theorem fromBody_rejection (h : type.HasFacets facets) (visible : type.replacesSorting = false)
    (body : List (String × Datum)) : FailsOnly type.Rejection (type.fromBody body) := by
  have sorting : type.Knows sortingField := .inl rfl
  have fields : ∀ field ∈ type.fields, type.Knows field.name := by
    intro field mem
    rw [h.fields] at mem
    obtain ⟨f, isFacet, rfl⟩ := List.mem_map.1 mem
    exact .inr (List.mem_map.2 ⟨_, h.toParameter_mem isFacet, f.toParameter_field⟩)
  have entries : ∀ items, ∀ entry ∈ type.bodyValues body ++ sortingEntry items,
      type.Knows entry.1 := by
    intro items entry mem
    rcases List.mem_append.1 mem with mem | mem
    · exact .inr (Parameter.mem_fields_of_filterMap mem)
    · exact .inl (mem_sortingEntry mem)
  unfold fromBody
  refine (sortValues_rejection body (by simp)).bind fun names => ?_
  refine (sortValues_rejection body (by simp)).bind fun orders => ?_
  refine (criteriaOf_rejection names orders).bind fun criteria => ?_
  refine (sortingItems_rejection body).bind fun items => ?_
  split
  · rename_i q isRead
    exact accept_rejection (read_eq_ok isRead).1 visible
  · rename_i issues isRead
    have under := type.reports_read _ sorting fields (entries _) issues isRead
    exact .error (bindingFailure_rejection (under issues.first List.mem_cons_self))

end HasFacets

end QueryType

namespace Catalog

open RawParameters

end Catalog
end QueryBinding
