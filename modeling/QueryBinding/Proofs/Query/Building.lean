import QueryBinding.Proofs.Engine.Calls
import QueryBinding.Proofs.Entries
import QueryBinding.Proofs.Query.Source
/-!
What building a query does to the engine. The ordering part of `Query.build` is a plain run of
calls, two for each criterion (`build_eq_enter_then_sort`). For a type whose names a handle takes as
they are, building gets one handle and adds the filter calls and then the ordering calls
(`runFrom_build`).
-/
namespace QueryBinding

open Engine

/-! ### Ordering -/

/-- The ordering call of a criterion and its direction, if its field is in the whitelist. -/
def SortWhitelist.callsFor (whitelist : SortWhitelist) (criterion : SortCriterion) : List Call :=
  match whitelist.orderings.lookup criterion.field with
  | some call => [⟨call, []⟩, ⟨criterion.order.symbol, []⟩]
  | none => []

theorem SortWhitelist.exists_callsFor {whitelist : SortWhitelist} {criterion : SortCriterion}
    (listed : whitelist.contains criterion.field = true) :
    ∃ call, whitelist.orderings.lookup criterion.field = some call ∧
      whitelist.callsFor criterion = [⟨call, []⟩, ⟨criterion.order.symbol, []⟩] := by
  obtain ⟨call, found⟩ := Option.isSome_iff_exists.1 listed
  exact ⟨call, found, by simp only [callsFor, found]⟩

theorem SortWhitelist.apply_eq_callAll {whitelist : SortWhitelist} {criterion : SortCriterion}
    (listed : whitelist.contains criterion.field = true) :
    whitelist.apply criterion = callAll (whitelist.callsFor criterion) := by
  obtain ⟨call, found, calls⟩ := exists_callsFor listed
  have ordering : whitelist.ordering criterion.field = .ok call := by
    simp only [SortWhitelist.ordering, found]
  rw [calls, SortWhitelist.apply, ordering]
  simp only [callAll, List.forM_eq_forM, List.forM_cons, List.forM_nil, bind_pure_unit,
    lift_ok_bind]

/-! ### Filters -/

namespace FilterRule

/-- The names of the calls that a rule can stand for. -/
def callNames : FilterRule → List String
  | argument _ call | marker _ call | arguments _ call | characters _ call => [call]
  | comparisons _ => VariableOperator.all.map (·.call)
  | misfit .. => []
  | named field => [field]

theorem name_of_mem_argumentCalls {call : String} {d : Datum} {c : Call}
    (mem : c ∈ argumentCalls call d) : c.name = call := by
  unfold argumentCalls at mem
  split at mem
  · cases mem
  · rw [List.mem_singleton.1 mem]

theorem name_of_mem_markerCalls {call : String} {d : Datum} {c : Call}
    (mem : c ∈ markerCalls call d) : c.name = call := by
  unfold markerCalls at mem
  split at mem
  · rw [List.mem_singleton.1 mem]
  · cases mem

theorem name_of_mem_argumentsCalls {call : String} {d : Datum} {c : Call}
    (mem : c ∈ argumentsCalls call d) : c.name = call := by
  unfold argumentsCalls at mem
  split at mem
  · cases mem
  · rw [List.mem_singleton.1 mem]

theorem name_of_mem_namedCalls {call : String} {d : Datum} {c : Call}
    (mem : c ∈ namedCalls call d) : c.name = call := by
  unfold namedCalls at mem
  split at mem
  · exact name_of_mem_markerCalls mem
  · exact name_of_mem_argumentsCalls mem
  · exact name_of_mem_argumentCalls mem

theorem name_of_variableCall? {d : Datum} {c : Call} (h : variableCall? d = some c) :
    c.name ∈ VariableOperator.all.map (·.call) := by
  cases d with
  | filter v =>
    cases h
    cases v.operator <;> simp [VariableOperator.all, VariableOperator.call]
  | _ => cases h

/-- A rule makes only calls of its own names. -/
theorem name_mem_callNames {rule : FilterRule} {d : Datum} {c : Call}
    (mem : c ∈ rule.callsFor d) : c.name ∈ rule.callNames := by
  cases rule with
  | argument _ call => exact List.mem_singleton.2 (name_of_mem_argumentCalls mem)
  | marker _ call => exact List.mem_singleton.2 (name_of_mem_markerCalls mem)
  | arguments _ call => exact List.mem_singleton.2 (name_of_mem_argumentsCalls mem)
  | characters _ call => exact List.mem_singleton.2 (name_of_mem_argumentsCalls mem)
  | comparisons _ =>
    obtain ⟨item, _, found⟩ := List.mem_filterMap.1 mem
    exact name_of_variableCall? found
  | misfit _ _ => cases mem
  | named call => exact List.mem_singleton.2 (name_of_mem_namedCalls mem)

/-- Whether a handle takes every call of a rule, and the rule suits every value. -/
def isDirect : FilterRule → Bool
  | misfit .. => false
  | rule => rule.callNames.all Engine.takes

/-- Null stands for no call. -/
theorem callsFor_null (rule : FilterRule) : rule.callsFor .null = [] := by
  cases rule <;> rfl

theorem failure?_null (rule : FilterRule) : rule.failure? .null = none := by
  cases rule <;> rfl

theorem failure?_eq_none {rule : FilterRule} (direct : rule.isDirect = true) (d : Datum) :
    rule.failure? d = none := by
  cases rule with
  | misfit _ _ => cases direct
  | _ => rfl

theorem takes_of_mem_callNames {rule : FilterRule} (direct : rule.isDirect = true) {name : String}
    (mem : name ∈ rule.callNames) : Engine.takes name = true := by
  cases rule with
  | misfit _ _ => cases direct
  | _ => exact List.all_eq_true.1 direct _ mem

theorem takes_of_isDirect {rule : FilterRule} (direct : rule.isDirect = true) {d : Datum} {c : Call}
    (mem : c ∈ rule.callsFor d) : Engine.takes c.name = true :=
  takes_of_mem_callNames direct (name_mem_callNames mem)

end FilterRule

namespace QueryType

/-- Whether a field of the type has that name and hides what else is found under it. -/
def hides (type : QueryType) (name : String) : Bool := type.fields.any (·.name == name)

/-- No field hides an operation by which results are ordered. -/
structure SortVisible (type : QueryType) : Prop where
  sort : type.hides QueryOperation.sort.name = false
  checkField : type.hides QueryOperation.checkField.name = false
  sortFields : type.hides Declaration.sortFieldsName = false

end QueryType

namespace Query

variable {q : Query}

theorem field?_eq_none {name : String} (visible : q.type.hides name = false) :
    q.field? name = none := by
  unfold QueryType.hides at visible
  simp only [Query.field?, visible, Bool.false_eq_true, if_false]

theorem require_eq_ok {operation : QueryOperation} (visible : q.type.hides operation.name = false) :
    q.require operation = .ok () := by
  rw [Query.require, field?_eq_none visible]

theorem sortFields_eq_ok (visible : q.type.hides Declaration.sortFieldsName = false) :
    q.sortFields = .ok q.type.sortFields := by
  rw [Query.sortFields, field?_eq_none visible]

theorem applySort_eq_callAll (visible : q.type.SortVisible) {criterion : SortCriterion}
    (listed : q.type.sortFields.contains criterion.field = true) :
    q.applySort criterion = callAll (q.type.sortFields.callsFor criterion) := by
  rw [← SortWhitelist.apply_eq_callAll listed, Query.applySort, require_eq_ok visible.sort,
    require_eq_ok visible.checkField, QueryType.checkSortField_eq_ok.2 listed,
    sortFields_eq_ok visible.sortFields]
  rfl

/-- All that building does before it orders the results. -/
def enter (q : Query) : EngineM Unit := do
  q.require .build
  q.require .getHandle
  Engine.create q.type.factory.service q.type.factory.method
  q.require .filter
  q.type.filters.forM q.applyFilter

/-- The ordering calls of a query and their directions, in the order of its criteria. -/
def sortCalls (q : Query) : List Call := q.criteria.flatMap q.type.sortFields.callsFor

theorem forM_applySort (visible : q.type.SortVisible) {criteria : List SortCriterion}
    (listed : ∀ c ∈ criteria, q.type.sortFields.contains c.field = true) :
    criteria.forM q.applySort = callAll (criteria.flatMap q.type.sortFields.callsFor) := by
  rw [callAll_flatMap]
  exact forM_congr fun c mem => applySort_eq_callAll visible (listed c mem)

/-- After the filters, building is a run of the calls of its criteria and of nothing else. -/
theorem build_eq_enter_then_sort (visible : q.type.SortVisible) {criteria : List SortCriterion}
    (ordered : q.ordering = .ok criteria)
    (listed : ∀ c ∈ criteria, q.type.sortFields.contains c.field = true) :
    q.build = q.enter >>= fun _ => callAll (criteria.flatMap q.type.sortFields.callsFor) := by
  have resolved : q.type.resolve criteria = .ok criteria := QueryType.resolve_eq_ok.2 ⟨rfl, listed⟩
  rw [← forM_applySort visible listed, Query.build, Query.enter, ordered]
  simp only [bind_assoc, lift_ok_bind, resolved]

end Query

/-! ### Recorded calls -/

namespace QueryType

/-- The names of a query's operations, and of what else a field could take the place of. -/
def operationNames : List String :=
  [sortingField, QueryOperation.build.name, QueryOperation.getHandle.name,
    QueryOperation.filter.name, QueryOperation.sort.name, QueryOperation.checkField.name,
    Declaration.sortFieldsName]

/-- Types whose queries a recording engine takes as they are: nothing is hidden, there is a handle
to get, and no call is a member of the handle. -/
structure Direct (type : QueryType) : Prop where
  visible : ∀ name ∈ operationNames, type.hides name = false
  service : "_service".toList.isSuffixOf type.factory.service.toList = true
  factory : "create_".toList.isPrefixOf type.factory.method.toList = true
  filters : ∀ rule ∈ type.filters, rule.isDirect = true
  orderings : ∀ entry ∈ type.sortFields.orderings, Engine.takes entry.2 = true

theorem Direct.sortVisible {type : QueryType} (direct : type.Direct) : type.SortVisible where
  sort := direct.visible _ (by simp [operationNames])
  checkField := direct.visible _ (by simp [operationNames])
  sortFields := direct.visible _ (by simp [operationNames])

end QueryType

theorem SortOrder.takes_symbol (order : SortOrder) : Engine.takes order.symbol = true := by
  cases order <;> decide +kernel

theorem SortWhitelist.takes_of_mem_callsFor {whitelist : SortWhitelist}
    (direct : ∀ entry ∈ whitelist.orderings, Engine.takes entry.2 = true)
    {criterion : SortCriterion} {c : Call} (mem : c ∈ whitelist.callsFor criterion) :
    Engine.takes c.name = true := by
  unfold callsFor at mem
  split at mem
  · rename_i call found
    rcases List.mem_cons.1 mem with rfl | mem
    · exact direct _ (Entries.mem_of_lookup found)
    · rw [List.mem_singleton.1 mem]
      exact criterion.order.takes_symbol
  · cases mem

namespace Query

variable {q : Query} {e : Engine}

theorem ordering_eq_criteria (visible : q.type.hides sortingField = false) :
    q.ordering = .ok q.criteria := by
  unfold Query.ordering QueryType.replacesSorting
  unfold QueryType.hides at visible
  simp only [visible, Bool.false_eq_true, if_false]

theorem applyFilter_eq_callAll {rule : FilterRule} (direct : rule.isDirect = true) :
    q.applyFilter rule = callAll (rule.callsFor (q.value rule.field)) := by
  simp only [Query.applyFilter, FilterRule.failure?_eq_none direct]
  rfl

/-- A field that is unset makes no call. -/
theorem applyFilter_eq_pure {rule : FilterRule} (unset : q.value rule.field = .null) :
    q.applyFilter rule = pure () := by
  simp only [Query.applyFilter, unset, FilterRule.failure?_null, FilterRule.callsFor_null]
  rfl

theorem forM_applyFilter {rules : List FilterRule} (direct : ∀ rule ∈ rules, rule.isDirect = true) :
    rules.forM q.applyFilter =
      callAll (rules.flatMap fun rule => rule.callsFor (q.value rule.field)) := by
  rw [callAll_flatMap]
  exact forM_congr fun rule known => applyFilter_eq_callAll (direct rule known)

theorem takes_of_mem_calls (direct : q.type.Direct) :
    ∀ c ∈ q.filterCalls ++ q.sortCalls, takes c.name = true := by
  intro c mem
  rcases List.mem_append.1 mem with mem | mem
  · obtain ⟨rule, known, mem⟩ := List.mem_flatMap.1 mem
    exact FilterRule.takes_of_isDirect (direct.filters rule known) mem
  · obtain ⟨criterion, _, mem⟩ := List.mem_flatMap.1 mem
    exact SortWhitelist.takes_of_mem_callsFor direct.orderings mem

theorem build_eq_create_then_callAll (direct : q.type.Direct)
    (listed : ∀ c ∈ q.criteria, q.type.sortFields.contains c.field = true) :
    q.build = Engine.create q.type.factory.service q.type.factory.method >>= fun _ =>
      callAll (q.filterCalls ++ q.sortCalls) := by
  have visible : ∀ name ∈ QueryType.operationNames, q.type.hides name = false := direct.visible
  simp only [QueryType.operationNames, List.forall_mem_cons] at visible
  obtain ⟨sorting, build, getHandle, filter, _⟩ := visible
  rw [build_eq_enter_then_sort direct.sortVisible (ordering_eq_criteria sorting) listed,
    Query.enter, require_eq_ok build, require_eq_ok getHandle, require_eq_ok filter,
    forM_applyFilter direct.filters, callAll_append]
  simp only [bind_assoc, lift_ok_bind]
  rfl

/-- Building leaves the engine with one more handle, and its log with the filter calls and then the
ordering calls. -/
theorem runFrom_build (direct : q.type.Direct)
    (listed : ∀ c ∈ q.criteria, q.type.sortFields.contains c.field = true)
    (quiet : e.rejects = []) :
    runFrom q.build e =
      (.ok (), (e.recordFactory q.type.factory.method).recordAll
        (q.filterCalls ++ q.sortCalls)) := by
  rw [build_eq_create_then_callAll direct listed,
    runFrom_bind_ok (runFrom_create direct.service direct.factory)]
  exact runFrom_callAll (takes_of_mem_calls direct) quiet

/-- Whatever the engine rejects, building adds none but these calls to its log. -/
theorem adds_build (direct : q.type.Direct)
    (listed : ∀ c ∈ q.criteria, q.type.sortFields.contains c.field = true) (e : Engine) :
    Adds (· ∈ q.filterCalls ++ q.sortCalls) e.calls (runFrom q.build e).2 := by
  have calls : Confined (Adds (· ∈ q.filterCalls ++ q.sortCalls) e.calls) (fun _ => True)
      (callAll (q.filterCalls ++ q.sortCalls)) := by
    refine .forM fun c mem => .map _ (confined_call_adds _ ?_ mem)
    exact isMember_eq_false (takes_of_mem_calls direct c mem)
  rw [build_eq_create_then_callAll direct listed]
  exact ((confined_create_adds _ _ _ _).bind fun _ => calls) e (.refl _ e) |>.1

end Query
end QueryBinding
