import QueryBinding.Proofs.Catalog.Contribution
/-!
Decoding: what a query asks for can be read off the calls that building it makes. The calls of one
facet are found by their names, and `Restriction.decode` gives back the value that they stand for;
the ordering calls are read in pairs. So two queries make the same calls only if they have the same
criteria and values of the same effect.
-/
namespace QueryBinding

/-- A value, or null if the value has no more effect on a query than null has. -/
def FieldType.effective : FieldType → Datum → Datum
  | .strictFlag, .flag false => .null
  | .texts, .list [] | .filters, .list [] => .null
  | _, d => d

/-! ### Values -/

/-- The filter that a call stands for. -/
def Call.filter? : Call → Option Datum
  | ⟨call, [.text name, .text value]⟩ =>
    (VariableOperator.all.find? (·.call == call)).map fun operator =>
      .filter ⟨name, operator, value⟩
  | _ => none

theorem VariableFilter.filter?_call (v : VariableFilter) : v.call.filter? = some (.filter v) := by
  obtain ⟨name, operator, value⟩ := v
  have known : VariableOperator.all.find? (·.call == operator.call) = some operator := by
    cases operator <;> decide +kernel
  simp only [VariableFilter.call, Call.filter?, known, Option.map_some]

/-- The value that the calls of a facet stand for. -/
def Restriction.decode : Restriction → List Call → Datum
  | _, [] => .null
  | argument _, c :: _ => c.args.head?.getD .null
  | marker _, _ :: _ => .flag true
  | arguments _, c :: _ | distinctArguments _, c :: _ => .list c.args
  | comparisons, calls => .list (calls.filterMap Call.filter?)

namespace Facet

open FilterRule

variable {f : Facet} {d : Datum}

theorem callsFor_effective (f : Facet) (d : Datum) :
    f.toRule.callsFor (f.fieldType.effective d) = f.toRule.callsFor d := by
  obtain ⟨parameter, field, restriction⟩ := f
  cases restriction with
  | argument call => rfl
  | marker call =>
    cases d with
    | flag b => cases b <;> rfl
    | _ => rfl
  | _ =>
    cases d with
    | list items => cases items <;> rfl
    | _ => rfl

theorem decode_comparisons (filters : List VariableFilter) :
    Restriction.comparisons.decode (filters.map VariableFilter.call) =
      FieldType.filters.effective (.list (filters.map .filter)) := by
  cases filters with
  | nil => rfl
  | cons v filters =>
    have each : Call.filter? ∘ VariableFilter.call = some ∘ Datum.filter :=
      funext VariableFilter.filter?_call
    have items : ((v :: filters).map VariableFilter.call).filterMap Call.filter? =
        (v :: filters).map .filter := by
      rw [List.filterMap_map, each, List.filterMap_eq_map]
    exact congrArg Datum.list items

/-- The value of a facet is told by its calls, as far as it has an effect. -/
theorem decode_callsFor (typed : d = .null ∨ f.fieldType.Holds d) :
    f.restriction.decode (f.toRule.callsFor d) = f.fieldType.effective d := by
  rcases typed with rfl | holds
  · rw [callsFor_null]
    obtain ⟨parameter, field, restriction⟩ := f
    cases restriction <;> rfl
  · obtain ⟨parameter, field, restriction⟩ := f
    cases restriction with
    | argument call =>
      obtain ⟨s, rfl⟩ := holds
      rfl
    | marker call =>
      obtain ⟨b, rfl⟩ := holds
      cases b <;> rfl
    | arguments call =>
      obtain ⟨items, rfl⟩ := holds
      cases items <;> rfl
    | distinctArguments call =>
      obtain ⟨items, rfl⟩ := holds
      cases items <;> rfl
    | comparisons =>
      obtain ⟨filters, rfl⟩ := holds
      have calls : callsFor (.comparisons field) (.list (filters.map .filter)) =
          filters.map VariableFilter.call := filterMap_variableCall? filters
      exact (congrArg _ calls).trans (decode_comparisons filters)

/-- Typed values make the same calls exactly if they have the same effect. -/
theorem callsFor_eq_iff {d' : Datum} (typed : d = .null ∨ f.fieldType.Holds d)
    (typed' : d' = .null ∨ f.fieldType.Holds d') :
    f.toRule.callsFor d = f.toRule.callsFor d' ↔
      f.fieldType.effective d = f.fieldType.effective d' := by
  constructor
  · intro same
    rw [← decode_callsFor typed, ← decode_callsFor typed', same]
  · intro same
    rw [← callsFor_effective, same, callsFor_effective]

end Facet

/-! ### Criteria -/

theorem find?_of_nodup {entries : List (String × String)} {field call : String}
    (nodup : (entries.map (·.2)).Nodup) (mem : (field, call) ∈ entries) :
    entries.find? (·.2 == call) = some (field, call) := by
  induction entries with
  | nil => cases mem
  | cons entry entries ih =>
    rw [List.map_cons, List.nodup_cons] at nodup
    rcases List.mem_cons.1 mem with rfl | mem
    · exact List.find?_cons_of_pos (beq_self_eq_true call)
    · have differs : entry.2 ≠ call := by
        intro same
        exact nodup.1 (List.mem_map.2 ⟨_, mem, same.symm⟩)
      rw [List.find?_cons, beq_eq_false_iff_ne.2 differs]
      exact ih nodup.2 mem

namespace SortWhitelist

/-- The criteria that calls stand for, two calls for each of them. -/
def decode (whitelist : SortWhitelist) : List Call → List SortCriterion
  | ordering :: direction :: calls =>
    match whitelist.orderings.find? (·.2 == ordering.name), SortOrder.ofSymbol? direction.name with
    | some entry, some order => ⟨entry.1, order⟩ :: whitelist.decode calls
    | _, _ => []
  | _ => []

theorem decode_flatMap_callsFor {whitelist : SortWhitelist} {criteria : List SortCriterion}
    (nodup : (whitelist.orderings.map (·.2)).Nodup)
    (listed : ∀ c ∈ criteria, whitelist.contains c.field = true) :
    whitelist.decode (criteria.flatMap whitelist.callsFor) = criteria := by
  induction criteria with
  | nil => rfl
  | cons c criteria ih =>
    obtain ⟨call, found, calls⟩ := exists_callsFor (listed c List.mem_cons_self)
    have field := find?_of_nodup nodup (Entries.mem_of_lookup found)
    have order := SortOrder.ofSymbol?_symbol c.order
    have rest := ih fun d mem => listed d (List.mem_cons_of_mem _ mem)
    rw [List.flatMap_cons, calls, List.cons_append, List.cons_append, List.nil_append, decode]
    simp only [field, order, rest]

end SortWhitelist

/-! ### Logs -/

namespace Catalog

variable {t : Catalog} {a b q : Query} {e e' : Engine}

theorem value_typed (made : t.queryType.Makes q) {f : Facet} (mem : f ∈ t.facets) :
    q.value f.field = .null ∨ f.fieldType.Holds (q.value f.field) :=
  made.value_holds t.hasFacets.nodup_fields (t.hasFacets.toField_mem mem)

theorem filterCalls_eq_iff (madeA : t.queryType.Makes a) (madeB : t.queryType.Makes b) :
    a.filterCalls = b.filterCalls ↔ ∀ f ∈ t.facets,
      f.fieldType.effective (a.value f.field) = f.fieldType.effective (b.value f.field) := by
  constructor
  · intro same f mem
    rw [← Facet.callsFor_eq_iff (value_typed madeA mem) (value_typed madeB mem)]
    -- The names of a facet's calls single them out in the log.
    rw [← filter_callNames madeA.type_eq mem, ← filter_callNames madeB.type_eq mem, same]
  · intro same
    rw [filterCalls_eq madeA.type_eq, filterCalls_eq madeB.type_eq, List.flatMap_def,
      List.flatMap_def]
    refine congrArg List.flatten (List.map_congr_left fun f mem => ?_)
    exact (Facet.callsFor_eq_iff (value_typed madeA mem) (value_typed madeB mem)).2 (same f mem)

theorem sortCalls_eq_iff (madeA : t.queryType.Makes a) (madeB : t.queryType.Makes b) :
    a.sortCalls = b.sortCalls ↔ a.criteria = b.criteria := by
  have decoded : ∀ q : Query, t.queryType.Makes q →
      t.queryType.sortFields.decode q.sortCalls = q.criteria := by
    intro q made
    have listed := ordering_listed made
    rw [Query.sortCalls]
    rw [made.type_eq] at listed ⊢
    exact SortWhitelist.decode_flatMap_callsFor t.nodup_orderings listed
  constructor
  · intro same
    rw [← decoded a madeA, ← decoded b madeB, same]
  · intro same
    rw [Query.sortCalls, Query.sortCalls, madeA.type_eq, madeB.type_eq, same]

/-- Two queries of one type that are built on fresh engines make the same calls exactly if they have
the same criteria and, field by field, values of the same effect. -/
theorem calls_eq_iff (madeA : t.queryType.Makes a) (madeB : t.queryType.Makes b)
    (fresh : e.calls = [] ∧ e.rejects = []) (fresh' : e'.calls = [] ∧ e'.rejects = []) :
    ∃ after after', runFrom a.build e = (.ok (), after) ∧ runFrom b.build e' = (.ok (), after') ∧
      (after.calls = after'.calls ↔ a.criteria = b.criteria ∧ ∀ field ∈ t.queryType.fields,
        field.type.effective (a.value field.name) = field.type.effective (b.value field.name)) := by
  refine ⟨_, _, runFrom_build madeA fresh.2, runFrom_build madeB fresh'.2, ?_⟩
  -- No filter call passes for an ordering call, so equal logs have equal halves.
  have logs : a.filterCalls ++ a.sortCalls = b.filterCalls ++ b.sortCalls ↔
      a.sortCalls = b.sortCalls ∧ a.filterCalls = b.filterCalls := by
    constructor
    · intro same
      have orderings := congrArg (List.filter (·.isOrdering)) same
      have filters := congrArg (List.filter (·.isFilter)) same
      rw [filter_isOrdering_calls madeA.type_eq, filter_isOrdering_calls madeB.type_eq] at orderings
      rw [filter_isFilter_calls madeA.type_eq, filter_isFilter_calls madeB.type_eq] at filters
      exact ⟨orderings, filters⟩
    · rintro ⟨orderings, filters⟩
      rw [orderings, filters]
  simp only [Engine.recordAll_calls, Engine.recordFactory_calls, fresh.1, fresh'.1, List.nil_append,
    logs, sortCalls_eq_iff madeA madeB, filterCalls_eq_iff madeA madeB, t.hasFacets.fields,
    List.forall_mem_map]
  rfl

/-- A marker that is refused is no marker. -/
theorem calls_eq_iff_resolved :
    ∃ a b, HistoricIncident.queryType.construct [("resolved", .flag false)] = .ok a ∧
      HistoricIncident.queryType.construct [] = .ok b ∧
      ∃ after after', runFrom a.build {} = (.ok (), after) ∧ runFrom b.build {} = (.ok (), after') ∧
        after.calls = after'.calls := by
  have refused : historicIncident.queryType.construct [("resolved", .flag false)] =
      .ok ⟨_, [("resolved", .flag false)], none⟩ := rfl
  have absent : historicIncident.queryType.construct [] = .ok ⟨_, [], none⟩ := rfl
  have fresh : ({} : Engine).calls = [] ∧ ({} : Engine).rejects = [] := ⟨rfl, rfl⟩
  obtain ⟨after, after', built, built', same⟩ :=
    calls_eq_iff ⟨.fields _, refused⟩ ⟨.fields _, absent⟩ fresh fresh
  refine ⟨_, _, refused, absent, after, after', built, built', same.2 ⟨rfl, ?_⟩⟩
  exact List.map_inj_left.1 rfl

end Catalog
end QueryBinding
