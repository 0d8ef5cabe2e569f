import Mathlib.Data.List.Forall2
import Mathlib.Data.List.Nodup
import QueryBinding.Proofs.Body.Keys
import QueryBinding.Proofs.Catalog.Contribution
/-!
Repetitions among the ids of a request for process instances. Parameters are a set: each id counts
once. A body is taken at its word, so that an id is repeated in the call if it is repeated in the
list. The proof follows the ids into the one call that they stand for.
-/
namespace QueryBinding

open Restriction

/-! ### Lists of texts -/

theorem readText_eq_ok {d : Datum} {s : String} : readText d = .ok s ↔ d = .text s := by
  cases d <;> simp [readText, Reading.refuse]

/-- A list of texts is read as itself. -/
theorem FieldType.read_texts_eq_ok {d v : Datum} :
    FieldType.texts.read d = .ok v ↔
      ∃ items : List String, d = .list (items.map .text) ∧ v = d := by
  constructor
  · intro reads
    obtain ⟨texts, isRead, rfl⟩ := map_eq_ok.1 reads
    cases d with
    | list items =>
      have each : List.Forall₂ (fun d s => d = Datum.text s) items texts := by
        have images := readItems_eq_ok.1 isRead
        rw [← List.forall₂_eq_eq_eq, List.forall₂_map_left_iff, List.forall₂_map_right_iff]
          at images
        simpa only [readText_eq_ok] using images
      obtain rfl : items = texts.map .text := by
        rwa [← List.forall₂_eq_eq_eq, List.forall₂_map_right_iff]
      exact ⟨texts, rfl, rfl⟩
    | _ => cases isRead
  · rintro ⟨items, rfl, rfl⟩
    exact FieldType.read_of_holds ⟨items, rfl⟩

/-! ### Values of a body -/

namespace QueryType.HasFacets

variable {type : QueryType} {facets : List Facet} {q : Query} {body : List (String × Datum)}

/-- The field of a facet has the value that the body has under the name of its parameter. -/
theorem value_of_fromBody (h : type.HasFacets facets) (made : type.fromBody body = .ok q)
    {f : Facet} (mem : f ∈ facets) :
    (bodyValue? body f.parameter = none ∧ q.value f.field = .null) ∨
      ∃ d v, bodyValue? body f.parameter = some d ∧ f.fieldType.read d = .ok v ∧
        q.value f.field = v := by
  obtain ⟨_, _, criteria, items, _, _, _, _, constructed⟩ := fromBody_eq_ok.1 made
  obtain ⟨_, _, gives⟩ := read_eq_ok (construct_eq_ok.1 constructed).1
  have other : f.field ≠ sortingField :=
    f.toParameter_field ▸ ne_sortingField (h.toParameter_mem mem)
  have held := lookup_bodyValues_of_mem body (h.toParameter_mem mem)
  rw [f.toParameter_name, f.toParameter_field] at held
  have entry : (Datum.object (type.bodyValues body ++
      sortingEntry (criteria.map .criterion ++ items))).get? f.field =
        bodyValue? body f.parameter := by
    rw [Datum.get?, List.lookup_append, lookup_sortingEntry other, Option.or_none, held]
  rcases Field.lookup_readGiven h.nodup_fields gives (h.toField_mem mem) with
    ⟨d, v, found, reads, given⟩ | ⟨missing, absent⟩
  · have isHeld : bodyValue? body f.parameter = some d := entry.symm.trans found
    have present : d.isNull = false := by
      simpa using (Option.filter_eq_some_iff.1 isHeld).2
    simp only [Field.read, present, Bool.and_false, Bool.false_eq_true, if_false] at reads
    refine .inr ⟨d, v, isHeld, reads, ?_⟩
    exact congrArg (Option.getD · Datum.null) given
  · refine .inl ⟨entry.symm.trans missing, ?_⟩
    exact congrArg (Option.getD · Datum.null) absent

end QueryType.HasFacets

/-! ### Ids of process instances -/

namespace ProcessInstance

/-- The ids that a request gives: those of the parameter, each of them once, or the list that the
body has. -/
def instanceIds : QueryInput → List String
  | .parameters raw =>
    (Text.itemsOfAll Converter.comma (raw.values "processInstanceIds")).eraseDups
  | .body body =>
    match body.get? "processInstanceIds" with
    | some (.list items) => (QueryType.texts? items).getD []
    | _ => []

variable {input : QueryInput} {q : Query}

theorem instanceIds_mem : ⟨"processInstanceIds", "process_instance_ids",
    .distinctArguments "process_instance_ids"⟩ ∈ Catalog.processInstance.facets :=
  List.mem_cons_self

/-- The field of the ids makes the one call that they stand for. -/
theorem argumentsCalls_value (made : queryType.ofInput input = .ok q) :
    FilterRule.argumentsCalls "process_instance_ids" (q.value "process_instance_ids") =
      callWithItems "process_instance_ids" (instanceIds input) := by
  cases input with
  | parameters raw =>
    have calls := Catalog.processInstance.hasFacets.callsFor_value
      Catalog.processInstance.sorting_visible made instanceIds_mem
    exact calls.trans (contribution_distinctArguments _ _)
  | body d =>
    cases d with
    | object body =>
      rcases Catalog.processInstance.hasFacets.value_of_fromBody made instanceIds_mem with
        ⟨absent, unset⟩ | ⟨d, v, held, reads, set⟩
      · have none : instanceIds (.body (.object body)) = [] := by
          unfold QueryType.bodyValue? at absent
          rw [instanceIds, Datum.get?]
          cases found : body.lookup "processInstanceIds" with
          | none => rfl
          | some d =>
            rw [found] at absent
            cases d with
            | null => rfl
            | _ => cases absent
        rw [unset, none]
        rfl
      · obtain ⟨items, rfl, rfl⟩ := FieldType.read_texts_eq_ok.1 reads
        have found : body.lookup "processInstanceIds" = some (.list (items.map .text)) :=
          (Option.filter_eq_some_iff.1 held).1
        rw [set, FilterRule.argumentsCalls_texts, instanceIds, Datum.get?, found]
        dsimp only
        rw [QueryType.texts?_eq_some.2 rfl, Option.getD_some]
    | _ => cases made

theorem get?_of_instanceIds {body : Datum} (given : instanceIds (.body body) ≠ []) :
    body.get? "processInstanceIds" = some (.list ((instanceIds (.body body)).map .text)) := by
  unfold instanceIds at given ⊢
  dsimp only at given ⊢
  split at given
  · rename_i items found
    cases read : QueryType.texts? items with
    | none =>
      rw [read] at given
      exact absurd rfl given
    | some texts =>
      simp only [found, Option.getD_some]
      rw [QueryType.texts?_eq_some.1 read]
  · exact absurd rfl given

/-- Of a call that a query makes for the ids of process instances, the arguments are the ids that
its request gives. From request parameters they are distinct; a body has its list handed on. -/
theorem instanceIds_called (made : queryType.ofInput input = .ok q) (e : Engine) :
    ∃ calls, (runFrom q.build e).2.calls = e.calls ++ calls ∧
      (∀ c ∈ calls, c.name = "process_instance_ids" →
        c.args = (instanceIds input).map .text ∧
          (∀ raw, input = .parameters raw → c.args.Nodup) ∧
          ∀ body, input = .body body → body.get? "processInstanceIds" = some (.list c.args)) ∧
      (e.rejects = [] → calls.filter (·.name == "process_instance_ids") =
        callWithItems "process_instance_ids" (instanceIds input)) := by
  have source : Catalog.processInstance.queryType.Makes q := ⟨.request input, made⟩
  have named : ∀ calls : List Call, calls.filter (·.name == "process_instance_ids") =
      calls.filter fun c => ["process_instance_ids"].contains c.name := by
    intro calls
    exact List.filter_congr fun c _ => by simp [beq_eq_decide]
  have own : (q.filterCalls ++ q.sortCalls).filter (·.name == "process_instance_ids") =
      callWithItems "process_instance_ids" (instanceIds input) := by
    rw [named, ← argumentsCalls_value made]
    exact Catalog.filter_callNames_calls source.type_eq instanceIds_mem
  have direct : q.type.Direct := source.type_eq ▸ Catalog.processInstance.direct
  obtain ⟨calls, added, known⟩ := Query.adds_build direct (Catalog.ordering_listed source) e
  refine ⟨calls, added, fun c mem isIds => ?_, fun quiet => ?_⟩
  · have called : c ∈ callWithItems "process_instance_ids" (instanceIds input) := by
      rw [← own]
      exact List.mem_filter.2 ⟨known c mem, beq_iff_eq.2 isIds⟩
    unfold callWithItems at called
    split at called
    · cases called
    · rename_i filled
      obtain rfl := List.mem_singleton.1 called
      refine ⟨rfl, ?_, ?_⟩
      · rintro raw rfl
        have injective : Function.Injective Datum.text := fun _ _ => Datum.text.inj
        exact (nodup_eraseDups _).map injective
      · rintro body rfl
        exact get?_of_instanceIds fun none => filled (List.isEmpty_iff.2 none)
  · have built := Catalog.runFrom_build source quiet
    rw [built] at added
    rw [← List.append_cancel_left added]
    exact own

theorem instanceIds_called_twice :
    ∃ q after,
      queryType.ofInput (.parameters
          (RawParameters.normalize [("processInstanceIds", .many ["a, b,a", "b"])])) = .ok q ∧
      runFrom q.build {} = (.ok (), after) ∧
      after.calls.filter (·.name == "process_instance_ids") =
        [⟨"process_instance_ids", [.text "a", .text "b"]⟩] := by
  have bound : Parameter.bindAll parameterList
      (RawParameters.normalize [("processInstanceIds", .many ["a, b,a", "b"])]) =
      .ok [("process_instance_ids", .list [.text "a", .text "b"])] := by
    with_unfolding_all rfl
  have made : queryType.ofInput (.parameters
      (RawParameters.normalize [("processInstanceIds", .many ["a, b,a", "b"])])) = .ok _ :=
    (Catalog.processInstance.hasFacets.fromParameters_eq
      Catalog.processInstance.sorting_visible _).trans
        (bind_eq_ok.2 ⟨_, bound, bind_eq_ok.2 ⟨[], rfl, rfl⟩⟩)
  obtain ⟨calls, added, _, all⟩ := instanceIds_called made {}
  have source : Catalog.processInstance.queryType.Makes _ := ⟨.request (.parameters _), made⟩
  have built := Catalog.runFrom_build (e := {}) source rfl
  refine ⟨_, _, made, built, ?_⟩
  rw [built] at added
  rw [added, List.filter_append, all rfl]
  with_unfolding_all rfl

/-- A body that names an id twice has it twice in the call. -/
theorem not_distinct_of_body :
    ∃ q after,
      queryType.ofInput (.body (.object [("processInstanceIds", .list [.text "a", .text "a"])])) =
        .ok q ∧
      runFrom q.build {} = (.ok (), after) ∧
      ∃ c ∈ after.calls, c.name = "process_instance_ids" ∧ ¬c.args.Nodup := by
  refine ⟨_, _, rfl, rfl, ⟨"process_instance_ids", [.text "a", .text "a"]⟩, ?_, rfl, ?_⟩
  · exact List.mem_singleton_self _
  · simp

end ProcessInstance
end QueryBinding
