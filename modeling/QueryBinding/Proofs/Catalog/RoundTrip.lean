import Mathlib.Data.List.Nodup
import QueryBinding.Proofs.Catalog.Contribution
/-!
Request parameters and request bodies describe the same queries. A query that was made from
parameters can be written down as a body, and from this body the same query is made again. What
carries the proof is that the values of such a query fit the fields of its type: each of them is
found in the body under the name of its parameter and is read back from its plain form.
-/
namespace QueryBinding

open Reading

/-! ### Plain values -/

def VariableFilter.toObject (v : VariableFilter) : Datum :=
  .object [("name", .text v.name), ("operator", .text v.operator.symbol), ("value", .text v.value)]

theorem readFilter_toObject (v : VariableFilter) : readFilter v.toObject = .ok v := by
  obtain ⟨name, operator, value⟩ := v
  cases operator <;> rfl

def SortCriterion.toObject (c : SortCriterion) : Datum :=
  .object [(byKey, .text c.field), (orderKey, .text c.order.symbol)]

theorem readCriterion_toObject (c : SortCriterion) : readCriterion c.toObject = .ok c := by
  obtain ⟨field, order⟩ := c
  cases order <;> rfl

namespace Datum

/-- An item of a list as a body holds it. -/
def plainItem : Datum → Datum
  | filter v => v.toObject
  | d => d

/-- A value as a body holds it: a filter on a variable is an object. -/
def plain : Datum → Datum
  | list items => list (items.map plainItem)
  | d => d

theorem isNull_plain (d : Datum) : d.plain.isNull = d.isNull := by
  cases d <;> rfl

end Datum

theorem FieldType.read_plain {type : FieldType} {d : Datum} (holds : type.Holds d) :
    type.read d.plain = .ok d := by
  cases type <;> obtain ⟨a, rfl⟩ := holds
  case texts =>
    have same : (a.map Datum.text).map Datum.plainItem = a.map Datum.text := by
      rw [List.map_map]
      rfl
    have self : ∀ s, readText (.text s) = .ok s := fun _ => rfl
    simp only [FieldType.read, Datum.plain, same, readList, readItems_map self, Except.map]
  case filters =>
    have same : (a.map Datum.filter).map Datum.plainItem = a.map VariableFilter.toObject := by
      rw [List.map_map]
      rfl
    simp only [FieldType.read, Datum.plain, same, readList, readItems_map readFilter_toObject,
      Except.map]
  all_goals rfl

theorem Field.read_plain {field : Field} {d : Datum} (holds : field.type.Holds d) :
    field.read d.plain = .ok d := by
  have present := FieldType.isNull_of_holds holds
  simp only [Field.read, Datum.isNull_plain, present, Bool.and_false]
  exact FieldType.read_plain holds

/-! ### Names of parameters -/

namespace ParameterTable

variable {table : ParameterTable} {p q : Parameter}

theorem eq_of_externalName (hp : p ∈ table.toList) (hq : q ∈ table.toList)
    (same : table.externalName p.field = table.externalName q.field) : p = q := by
  rw [externalName_field hp, externalName_field hq] at same
  exact List.inj_on_of_nodup_map table.nodup_names hp hq same

end ParameterTable

/-- No parameter has the name of a key by which requests sort. -/
def QueryType.Unreserved (type : QueryType) : Prop :=
  ∀ key ∈ [SortCriterion.byKey, SortCriterion.orderKey, sortingField], key ∉ type.parameters.names

/-! ### Bodies -/

namespace Query

/-- The body that describes a query: its values under the names of their parameters, and its
criteria if it has any. -/
def toBody (q : Query) : List (String × Datum) :=
  q.given.map (fun (field, d) => (q.type.parameters.externalName field, d.plain)) ++
    q.sorting.toList.map fun criteria =>
      (sortingField, .list (criteria.map SortCriterion.toObject))

section Bodies

variable {q : Query} {facets : List Facet} (h : q.type.HasFacets facets)
  (fits : Field.Fits q.type.fields q.given) (unreserved : q.type.Unreserved)

include h fits

theorem exists_parameter {entry : String × Datum} (mem : entry ∈ q.given) :
    ∃ p ∈ q.type.parameters.toList, p.field = entry.1 := by
  obtain ⟨field, known, same⟩ := List.mem_map.1 (fits.mem_names entry mem)
  rw [h.fields] at known
  obtain ⟨f, isFacet, rfl⟩ := List.mem_map.1 known
  exact ⟨f.toParameter, h.toParameter_mem isFacet, f.toParameter_field.trans same⟩

include unreserved

theorem lookup_toBody_parameter {p : Parameter} (mem : p ∈ q.type.parameters.toList) :
    q.toBody.lookup p.name = (q.given.lookup p.field).map Datum.plain := by
  have apart : ∀ entry ∈ q.given, q.type.parameters.externalName entry.1 =
      q.type.parameters.externalName p.field → entry.1 = p.field := by
    intro entry given same
    obtain ⟨other, known, isField⟩ := exists_parameter h fits given
    rw [← isField] at same ⊢
    rw [ParameterTable.eq_of_externalName known mem same]
  have unsorted : p.name ≠ sortingField := by
    intro same
    exact unreserved sortingField (by simp) (same ▸ List.mem_map_of_mem mem)
  have rest : (q.sorting.toList.map fun criteria =>
      (sortingField, Datum.list (criteria.map SortCriterion.toObject))).lookup p.name = none := by
    cases q.sorting <;> simp [List.lookup_cons, beq_eq_false_iff_ne.2 unsorted]
  have renamed := Entries.lookup_map _ Datum.plain apart
  rw [ParameterTable.externalName_field mem] at renamed
  rw [toBody, List.lookup_append, rest, Option.or_none, renamed]

theorem lookup_toBody_key {key : String}
    (mem : key ∈ [SortCriterion.byKey, SortCriterion.orderKey, sortingField]) :
    q.toBody.lookup key = (q.sorting.toList.map fun criteria =>
      (sortingField, Datum.list (criteria.map SortCriterion.toObject))).lookup key := by
  have none : (q.given.map fun (field, d) =>
      (q.type.parameters.externalName field, d.plain)).lookup key = none := by
    refine List.lookup_eq_none_iff.2 fun entry written => bne_iff_ne.2 fun same => ?_
    obtain ⟨⟨field, d⟩, given, rfl⟩ := List.mem_map.1 written
    obtain ⟨p, known, rfl⟩ := exists_parameter h fits given
    have named : key = p.name := same.trans (ParameterTable.externalName_field known)
    exact unreserved key mem (named ▸ List.mem_map_of_mem known)
  rw [toBody, List.lookup_append, none, Option.none_or]

/-- A body has every key once. -/
theorem nodup_keys_toBody : (Entries.keys q.toBody).Nodup := by
  have keys : Entries.keys q.toBody =
      (Entries.keys q.given).map q.type.parameters.externalName ++
        q.sorting.toList.map fun _ => sortingField := by
    simp only [Entries.keys, toBody, List.map_append, List.map_map]
    rfl
  have parameter : ∀ field ∈ Entries.keys q.given,
      ∃ p ∈ q.type.parameters.toList, p.field = field := by
    intro field mem
    obtain ⟨entry, given, rfl⟩ := List.mem_map.1 mem
    exact exists_parameter h fits given
  rw [keys, List.nodup_append]
  refine ⟨List.Nodup.map_on ?_ (fits.nodup_names h.nodup_fields), ?_, ?_⟩
  · intro a ha b hb same
    obtain ⟨p, hp, rfl⟩ := parameter a ha
    obtain ⟨p', hp', rfl⟩ := parameter b hb
    rw [ParameterTable.eq_of_externalName hp hp' same]
  · cases q.sorting <;> simp
  · intro a ha b hb same
    obtain ⟨field, mem, rfl⟩ := List.mem_map.1 ha
    obtain ⟨p, known, rfl⟩ := parameter field mem
    obtain ⟨_, _, rfl⟩ := List.mem_map.1 hb
    rw [ParameterTable.externalName_field known] at same
    exact unreserved sortingField (by simp) (same ▸ List.mem_map_of_mem known)

theorem sortValues_toBody {key : String} (mem : key ∈ [SortCriterion.byKey, SortCriterion.orderKey]) :
    QueryType.sortValues q.toBody key = .ok [] := by
  have reserved : key ∈ [SortCriterion.byKey, SortCriterion.orderKey, sortingField] :=
    List.mem_append_left [sortingField] mem
  have other : key ≠ sortingField := by
    rintro rfl
    revert mem
    decide
  have absent : q.toBody.lookup key = none := by
    rw [lookup_toBody_key h fits unreserved reserved]
    cases q.sorting <;> simp [List.lookup_cons, beq_eq_false_iff_ne.2 other]
  rw [QueryType.sortValues, QueryType.bodyValue?, absent]
  rfl

theorem sortingItems_toBody :
    QueryType.sortingItems q.toBody = .ok (q.criteria.map SortCriterion.toObject) := by
  have reserved : sortingField ∈ [SortCriterion.byKey, SortCriterion.orderKey, sortingField] := by
    simp
  have found := lookup_toBody_key h fits unreserved reserved
  rw [QueryType.sortingItems, QueryType.bodyValue?, found, Query.criteria]
  cases q.sorting <;> rfl

end Bodies

end Query

/-- The values that a body has for the parameters of facets, if it has those of fitting values. -/
theorem Facet.filterMap_of_fits {facets : List Facet} {given : List (String × Datum)}
    (find : String → Option Datum) (fits : Field.Fits (facets.map Facet.toField) given)
    (nodup : (facets.map (·.field)).Nodup)
    (found : ∀ f ∈ facets, find f.parameter = (given.lookup f.field).map Datum.plain) :
    (facets.map Facet.toParameter).filterMap (fun p => (find p.name).map fun d => (p.field, d)) =
      given.map fun (name, d) => (name, d.plain) := by
  induction facets generalizing given with
  | nil =>
    cases fits
    rfl
  | cons f facets ih =>
    rw [List.map_cons, List.nodup_cons] at nodup
    have head := found f List.mem_cons_self
    have apart : ∀ other ∈ facets, other.field ≠ f.field := fun other mem same =>
      nodup.1 (same ▸ List.mem_map_of_mem mem)
    cases fits with
    | skip _ rest =>
      have absent : given.lookup f.field = none := by
        refine Entries.lookup_eq_none rest.mem_names ?_
        simpa [Function.comp_def] using apart
      have tail := ih rest nodup.2 fun other mem => found other (List.mem_cons_of_mem _ mem)
      rw [absent] at head
      simp only [List.map_cons, List.filterMap_cons, toParameter_name, head, Option.map_none, tail]
    | @take _ _ given d _ rest =>
      have tail := ih rest nodup.2 fun other mem => by
        rw [found other (List.mem_cons_of_mem _ mem), toField_name, List.lookup_cons,
          beq_eq_false_iff_ne.2 (apart other mem)]
      rw [toField_name, List.lookup_cons_self] at head
      simp only [List.map_cons, List.filterMap_cons, toParameter_name, toParameter_field, head,
        Option.map_some, tail, toField_name]

namespace QueryType.HasFacets

variable {type : QueryType} {facets : List Facet} {q : Query} {raw : RawParameters}

theorem bodyValues_toBody (h : q.type.HasFacets facets)
    (fits : Field.Fits q.type.fields q.given) (unreserved : q.type.Unreserved) :
    q.type.bodyValues q.toBody = q.given.map fun (name, d) => (name, d.plain) := by
  have found : ∀ f ∈ facets,
      bodyValue? q.toBody f.parameter = (q.given.lookup f.field).map Datum.plain := by
    intro f mem
    have entry := Query.lookup_toBody_parameter h fits unreserved (h.toParameter_mem mem)
    rw [f.toParameter_name, f.toParameter_field] at entry
    rw [bodyValue?, entry]
    cases held : q.given.lookup f.field with
    | none => rfl
    | some d =>
      obtain ⟨field, _, _, typed⟩ := fits.exists_holds _ (Entries.mem_of_lookup held)
      have present : d.plain.isNull = false :=
        d.isNull_plain.trans (FieldType.isNull_of_holds typed)
      simp [Option.filter, present]
  have nodup : (facets.map (·.field)).Nodup := by
    have names := h.nodup_fields
    rwa [h.fields, List.map_map] at names
  rw [h.fields] at fits
  rw [bodyValues, h.parameters]
  exact Facet.filterMap_of_fits _ fits nodup found

/-- What request parameters describe has fitting values, and its criteria are ones that the type
admits. -/
theorem fits_of_fromParameters (h : type.HasFacets facets) (visible : type.replacesSorting = false)
    (made : type.fromParameters raw = .ok q) :
    ∃ given criteria, q = ⟨type, given, sortingOf criteria⟩ ∧ Field.Fits type.fields given ∧
      ∀ c ∈ criteria, type.sortFields.contains c.field = true := by
  rw [h.fromParameters_eq visible] at made
  simp only [bind_eq_ok] at made
  obtain ⟨values, bound, criteria, paired, same⟩ := made
  rw [ParameterTable.bind, h.parameters] at bound
  exact ⟨values, criteria, (Except.ok.inj same).symm, h.fields ▸ Facet.fits_of_bindAll bound,
    forall_listed_of_criteriaOf paired⟩

/-- A query of fitting values is described by its own body. -/
theorem fromBody_of_fits (h : type.HasFacets facets) (visible : type.replacesSorting = false)
    (unreserved : type.Unreserved) {given : List (String × Datum)} {criteria : List SortCriterion}
    (fits : Field.Fits type.fields given)
    (listed : ∀ c ∈ criteria, type.sortFields.contains c.field = true) :
    type.fromBody (Query.toBody ⟨type, given, sortingOf criteria⟩) =
      .ok ⟨type, given, sortingOf criteria⟩ := by
  let q : Query := ⟨type, given, sortingOf criteria⟩
  have isRead := read_of_fits Datum.plain fits h.nodup_fields visible
    (fun _ _ _ holds => Field.read_plain holds) (readItems_map readCriterion_toObject criteria)
  rw [← h.bodyValues_toBody (q := q) fits unreserved] at isRead
  have items : sortingItems q.toBody = .ok (criteria.map SortCriterion.toObject) := by
    have same : q.criteria = criteria := by
      cases criteria <;> rfl
    rw [Query.sortingItems_toBody h fits unreserved, same]
  -- A body that was written down has a list of criteria, but no sort keys.
  have keys : ∀ key ∈ [SortCriterion.byKey, SortCriterion.orderKey],
      sortValues q.toBody key = .ok [] := fun key mem => Query.sortValues_toBody h fits unreserved mem
  refine fromBody_eq_ok.2 ⟨[], [], [], _, keys _ (by simp), keys _ (by simp), rfl, items, ?_⟩
  exact construct_eq_ok.2 ⟨isRead, accept_sortingOf visible listed⟩

end QueryType.HasFacets

/-! ### The catalogue -/

namespace Catalog

open RawParameters

variable {t : Catalog}

theorem unreserved (t : Catalog) : t.queryType.Unreserved := by
  unfold QueryType.Unreserved
  cases t <;> decide +kernel

/-- What request parameters describe is described by a body as well, which has every key once. The
query that this body makes is the same, with the same fields set, and building either of the two
does the same to an engine that rejects no call. -/
theorem fromBody_toBody {pairs : List (String × RawValue)} {q : Query}
    (made : t.queryType.fromParameters (normalize pairs) = .ok q) :
    (Entries.keys q.toBody).Nodup ∧
      ∃ r, t.queryType.fromBody q.toBody = .ok r ∧ r = q ∧ r.setFields = q.setFields ∧
        ∀ e, e.rejects = [] → ∃ after,
          runFrom q.build e = (.ok (), after) ∧ runFrom r.build e = (.ok (), after) := by
  have source : t.queryType.Makes q := ⟨.request (.parameters (normalize pairs)), made⟩
  obtain ⟨given, criteria, rfl, fits, listed⟩ :=
    t.hasFacets.fits_of_fromParameters t.sorting_visible made
  have same := t.hasFacets.fromBody_of_fits t.sorting_visible t.unreserved fits listed
  refine ⟨Query.nodup_keys_toBody t.hasFacets fits t.unreserved, _, same, rfl, rfl, ?_⟩
  intro e quiet
  exact ⟨_, runFrom_build source quiet, runFrom_build source quiet⟩

theorem fromBody_toBody_variables :
    ∃ q r after,
      ProcessInstance.queryType.fromParameters
          (normalize [("variables", .many ["a_eq_1, b_like_x_y"]), ("active", .one "false"),
            ("tenantIdIn", .many ["", "  "]), ("businessKey", .one ""),
            ("sortBy", .many ["tenantId", "tenantId"]), ("sortOrder", .many ["desc", "asc"])]) =
        .ok q ∧
      q.toBody =
        [("businessKey", .text ""), ("active", .flag false), ("tenantIdIn", .list []),
          ("variables", .list
            [.object [("name", .text "a"), ("operator", .text "eq"), ("value", .text "1")],
              .object [("name", .text "b"), ("operator", .text "like"), ("value", .text "x_y")]]),
          ("sorting", .list
            [.object [("sortBy", .text "tenantId"), ("sortOrder", .text "desc")],
              .object [("sortBy", .text "tenantId"), ("sortOrder", .text "asc")]])] ∧
      ProcessInstance.queryType.fromBody q.toBody = .ok r ∧ r = q ∧
      runFrom r.build {} = (.ok (), after) := by
  have bound : Parameter.bindAll ProcessInstance.parameterList
      (normalize [("variables", .many ["a_eq_1, b_like_x_y"]), ("active", .one "false"),
        ("tenantIdIn", .many ["", "  "]), ("businessKey", .one ""),
        ("sortBy", .many ["tenantId", "tenantId"]), ("sortOrder", .many ["desc", "asc"])]) =
      .ok [("business_key", .text ""), ("active", .flag false), ("tenant_ids", .list []),
        ("variables", .list [.filter ⟨"a", .equals, "1"⟩, .filter ⟨"b", .like, "x_y"⟩])] := by
    with_unfolding_all rfl
  have paired : ProcessInstance.queryType.criteriaOf ["tenantId", "tenantId"] ["desc", "asc"] =
      .ok [⟨"tenantId", .desc⟩, ⟨"tenantId", .asc⟩] := rfl
  have made := (processInstance.hasFacets.fromParameters_eq processInstance.sorting_visible _).trans
    (bind_eq_ok.2 ⟨_, bound, bind_eq_ok.2 ⟨_, paired, rfl⟩⟩)
  obtain ⟨_, r, described, same, _, built⟩ := fromBody_toBody made
  obtain ⟨after, _, builds⟩ := built {} rfl
  exact ⟨_, r, after, made, rfl, described, same, builds⟩

end Catalog
end QueryBinding
