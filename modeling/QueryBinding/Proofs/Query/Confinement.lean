import QueryBinding.Proofs.Engine.Confinement
import QueryBinding.Proofs.Engine.Succession
import QueryBinding.Proofs.Query.Building
/-!
What building a query keeps. A query is prepared before the engine is touched, then it gets a handle
and is arranged on it by calls of its type's own names. So whatever these calls keep is kept by the
arrangement as a whole: which failures the engine can raise, how many handles it has given out, and
that its log only grows. If all of them succeed, an engine that fails has executed nothing.
-/
namespace QueryBinding

open Engine

/-! ### Names of calls -/

namespace QueryType

/-- The names of the calls that queries of the type make before they are executed. -/
def callNames (type : QueryType) : List String :=
  type.filters.flatMap (·.callNames) ++ type.sortFields.orderings.map (·.2) ++
    SortOrder.all.map (·.symbol)

/-- No query of the type calls a member of the handle before it is executed. -/
def CallsApart (type : QueryType) : Prop := ∀ name ∈ type.callNames, isMember name = false

variable {type : QueryType} {c : Call}

theorem Direct.callsApart (direct : type.Direct) : type.CallsApart := by
  intro name mem
  simp only [callNames, List.mem_append, List.mem_flatMap, List.mem_map] at mem
  rcases mem with (⟨rule, known, mem⟩ | ⟨entry, known, rfl⟩) | ⟨order, _, rfl⟩
  · exact isMember_eq_false (FilterRule.takes_of_mem_callNames (direct.filters rule known) mem)
  · exact isMember_eq_false (direct.orderings entry known)
  · exact isMember_eq_false order.takes_symbol

theorem mem_callNames_of_rule {rule : FilterRule} {d : Datum} (known : rule ∈ type.filters)
    (mem : c ∈ rule.callsFor d) : c.name ∈ type.callNames := by
  have named : c.name ∈ type.filters.flatMap (·.callNames) :=
    List.mem_flatMap.2 ⟨rule, known, FilterRule.name_mem_callNames mem⟩
  simp [callNames, named]

theorem mem_callNames_of_criterion {criterion : SortCriterion}
    (mem : c ∈ type.sortFields.callsFor criterion) : c.name ∈ type.callNames := by
  unfold SortWhitelist.callsFor at mem
  split at mem
  · rename_i call found
    rcases List.mem_cons.1 mem with rfl | mem
    · have named : call ∈ type.sortFields.orderings.map (·.2) :=
        List.mem_map.2 ⟨_, Entries.mem_of_lookup found, rfl⟩
      simp [callNames, named]
    · rw [List.mem_singleton.1 mem]
      have named : criterion.order.symbol ∈ SortOrder.all.map (·.symbol) := by
        cases criterion.order <;> simp [SortOrder.all]
      simp [callNames, named]
  · cases mem

end QueryType

namespace Query

variable {q : Query}

/-! ### Two halves -/

/-- The part of building that does not touch the engine: it gives the criteria. -/
def prepared (q : Query) : Except Failure (List SortCriterion) := do
  q.require .build
  let criteria ← q.type.resolve (← q.ordering)
  q.require .getHandle
  return criteria

/-- The part of building that makes calls on the handle. -/
def arrange (q : Query) (criteria : List SortCriterion) : EngineM Unit := do
  q.require .filter
  q.type.filters.forM q.applyFilter
  criteria.forM q.applySort

theorem build_eq_prepared_then_arrange (q : Query) :
    q.build = liftM q.prepared >>= fun criteria =>
      Engine.create q.type.factory.service q.type.factory.method >>= fun _ =>
        q.arrange criteria := by
  simp only [build, prepared, arrange, lift_bind, lift_pure, bind_assoc, pure_bind]

theorem prepared_eq_ok {criteria : List SortCriterion} (h : q.prepared = .ok criteria) :
    q.ordering = .ok criteria ∧ ∀ c ∈ criteria, q.type.sortFields.contains c.field = true := by
  simp only [prepared, bind_eq_ok] at h
  obtain ⟨_, _, found, ordered, _, resolved, _, _, same⟩ := h
  obtain ⟨rfl, listed⟩ := QueryType.resolve_eq_ok.1 resolved
  cases same
  exact ⟨ordered, listed⟩

theorem require_failsByUse (q : Query) (operation : QueryOperation) :
    FailsByUse (q.require operation) := by
  unfold Query.require
  split
  · exact .error (.misuse _)
  · exact .ok ()

theorem ordering_failsByUse (q : Query) : FailsByUse q.ordering := by
  have criterion : ∀ d, FailsByUse (criterionOf d) := by
    intro d
    cases d with
    | criterion c => exact .ok c
    | _ => exact .error (.noAttribute _ _)
  unfold ordering criteriaIn
  split
  · split
    · exact .mapM criterion _
    · exact .error (.misuse _)
  · exact .ok _

theorem failure?_isUsage {rule : FilterRule} {d : Datum} {failure : Failure}
    (h : rule.failure? d = some failure) : failure.IsUsage := by
  cases rule with
  | misfit field use =>
    simp only [FilterRule.failure?] at h
    split at h
    · cases h
      unfold MisfitUse.failure
      split
      · exact .misuse _
      · exact .noAttribute _ _
      · exact .noAttribute _ _
      · exact .misuse _
    · cases h
  | _ => cases h

/-- Preparing a query fails if an operation of it is hidden, or by a sort field. -/
theorem prepared_failsOnly (q : Query) :
    FailsOnly (fun failure => failure.IsUsage ∨ q.type.Unsortable failure) q.prepared := by
  have usage {α : Type} {x : Except Failure α} (h : FailsByUse x) :
      FailsOnly (fun failure => failure.IsUsage ∨ q.type.Unsortable failure) x :=
    FailsOnly.mono h fun _ => .inl
  have resolved (criteria : List SortCriterion) :
      FailsOnly (fun failure => failure.IsUsage ∨ q.type.Unsortable failure)
        (q.type.resolve criteria) := (QueryType.resolve_unsortable criteria).mono fun _ => .inr
  refine (usage (q.require_failsByUse .build)).bind fun _ => ?_
  refine (usage q.ordering_failsByUse).bind fun criteria => ?_
  refine (resolved criteria).bind fun criteria => ?_
  exact (usage (q.require_failsByUse .getHandle)).bind fun _ => .ok criteria

/-! ### Arranging -/

section Arranging

variable {kept : Engine → Prop} {allowed : Failure → Prop}
  (calls : ∀ name ∈ q.type.callNames, ∀ args, Confined kept allowed (call name args))

include calls

theorem confined_callAll {own : List Call} (named : ∀ c ∈ own, c.name ∈ q.type.callNames) :
    Confined kept allowed (callAll own) :=
  .forM fun c mem => (calls c.name (named c mem) c.args).map _

variable (usage : ∀ failure : Failure, failure.IsUsage → allowed failure)

include usage

omit calls in
theorem confined_require (operation : QueryOperation) :
    Confined kept allowed (liftM (q.require operation) : EngineM Unit) :=
  .lift fun failure fails => usage failure (q.require_failsByUse operation failure fails)

theorem confined_applyFilter {rule : FilterRule} (known : rule ∈ q.type.filters) :
    Confined kept allowed (q.applyFilter rule) := by
  unfold applyFilter
  dsimp only
  split
  · rename_i failure unusable
    exact .throw (usage _ (failure?_isUsage unusable))
  · exact confined_callAll calls fun c mem => QueryType.mem_callNames_of_rule known mem

/-- A criterion of the whitelist is applied, or its application is hidden. -/
theorem confined_applySort {criterion : SortCriterion}
    (listed : q.type.sortFields.contains criterion.field = true) :
    Confined kept allowed (q.applySort criterion) := by
  unfold applySort
  refine (confined_require usage _).bind fun _ => (confined_require usage _).bind fun _ => ?_
  rw [QueryType.checkSortField_eq_ok.2 listed, lift_ok_bind]
  unfold Query.sortFields
  split
  · rw [lift_error_bind]
    exact .throw (usage _ (.noAttribute _ _))
  · rw [lift_ok_bind, SortWhitelist.apply_eq_callAll listed]
    exact confined_callAll calls fun c mem => QueryType.mem_callNames_of_criterion mem

theorem confined_arrange {criteria : List SortCriterion}
    (listed : ∀ c ∈ criteria, q.type.sortFields.contains c.field = true) :
    Confined kept allowed (q.arrange criteria) := by
  unfold arrange
  refine (confined_require usage _).bind fun _ => ?_
  refine (Confined.forM fun rule known => confined_applyFilter calls usage known).bind fun _ => ?_
  exact .forM fun c mem => confined_applySort calls usage (listed c mem)

/-- Building keeps what getting a handle and the calls of the type keep. -/
theorem confined_build_of (prepares : FailsOnly allowed q.prepared)
    (creates : Confined kept allowed
      (Engine.create q.type.factory.service q.type.factory.method)) :
    Confined kept allowed q.build := by
  rw [build_eq_prepared_then_arrange]
  cases prepared : q.prepared with
  | error failure =>
    rw [lift_error_bind]
    exact .throw (prepares failure prepared)
  | ok criteria =>
    rw [lift_ok_bind]
    exact creates.bind fun _ => confined_arrange calls usage (prepared_eq_ok prepared).2

end Arranging

/-! ### Building -/

/-- Building a query whose criteria are in the whitelist raises only what the engine was set up with,
unless something is used wrongly. -/
theorem confined_build {allowed : Failure → Prop}
    (usage : ∀ failure : Failure, failure.IsUsage → allowed failure) {criteria : List SortCriterion}
    (ordered : q.ordering = .ok criteria)
    (listed : ∀ c ∈ criteria, q.type.sortFields.contains c.field = true) :
    Confined (RaisesOnly allowed) allowed q.build := by
  have require (operation : QueryOperation) : FailsOnly allowed (q.require operation) :=
    FailsOnly.mono (q.require_failsByUse operation) usage
  have prepares : FailsOnly allowed q.prepared := by
    unfold prepared
    rw [ordered]
    refine (require .build).bind fun _ => ?_
    change FailsOnly allowed (q.type.resolve criteria >>= fun _ => _)
    rw [QueryType.resolve_eq_ok.2 ⟨rfl, listed⟩]
    exact (require .getHandle).bind fun _ => .ok criteria
  exact confined_build_of (fun name _ args => confined_call usage name args) usage prepares
    (confined_create usage _ _)

theorem isUsage_or_raises {criteria : List SortCriterion} (ordered : q.ordering = .ok criteria)
    (listed : ∀ c ∈ criteria, q.type.sortFields.contains c.field = true) {e : Engine}
    {failure : Failure} (fails : (runFrom q.build e).1 = .error failure) :
    failure.IsUsage ∨ e.Raises failure := by
  have confined : Confined (RaisesOnly fun f => f.IsUsage ∨ e.Raises f)
      (fun f => f.IsUsage ∨ e.Raises f) q.build :=
    confined_build (fun _ usage => .inl usage) ordered listed
  exact (confined e fun _ => .inr).2 failure fails

theorem created_build_of_prepared {criteria : List SortCriterion} {e : Engine}
    (prepared : q.prepared = .ok criteria)
    (creates : runFrom (Engine.create q.type.factory.service q.type.factory.method) e =
      (.ok (), e.recordFactory q.type.factory.method)) :
    (runFrom q.build e).2.created = e.created ++ [q.type.factory.method] := by
  have arranges : Confined (·.created = e.created ++ [q.type.factory.method]) (fun _ => True)
      (q.arrange criteria) :=
    confined_arrange (fun name _ => confined_call_created _ name) (fun _ _ => trivial)
      (prepared_eq_ok prepared).2
  rw [build_eq_prepared_then_arrange, prepared, lift_ok_bind, runFrom_bind_ok creates]
  exact (arranges _ rfl).1

/-- Building a query fails before it touches the engine, or the engine has given out one handle. -/
theorem runFrom_build_cases (q : Query) (e : Engine) :
    (∃ failure, runFrom q.build e = (.error failure, e) ∧
        (failure.IsUsage ∨ q.type.Unsortable failure)) ∨
      (runFrom q.build e).2.created = e.created ++ [q.type.factory.method] := by
  cases prepared : q.prepared with
  | error failure =>
    refine .inl ⟨failure, ?_, q.prepared_failsOnly failure prepared⟩
    rw [build_eq_prepared_then_arrange, prepared, lift_error_bind, runFrom_throw]
  | ok criteria =>
    rcases runFrom_create_cases q.type.factory.service q.type.factory.method e with
      ⟨name, fails⟩ | creates
    · refine .inl ⟨.unknownMember name, ?_, .inl (.unknownMember name)⟩
      rw [build_eq_prepared_then_arrange, prepared, lift_ok_bind, runFrom_bind, fails]
    · exact .inr (created_build_of_prepared prepared creates)

/-- Where nothing is hidden, building a query with checked criteria does get a handle. -/
theorem created_build (direct : q.type.Direct) {criteria : List SortCriterion}
    (ordered : q.ordering = .ok criteria)
    (listed : ∀ c ∈ criteria, q.type.sortFields.contains c.field = true) (e : Engine) :
    (runFrom q.build e).2.created = e.created ++ [q.type.factory.method] := by
  have visible (operation : QueryOperation) : q.require operation = .ok () := by
    refine require_eq_ok (direct.visible _ ?_)
    cases operation <;> simp [QueryType.operationNames]
  have prepared : q.prepared = .ok criteria := by
    simp only [Query.prepared, bind_eq_ok]
    exact ⟨(), visible .build, criteria, ordered, criteria,
      QueryType.resolve_eq_ok.2 ⟨rfl, listed⟩, (), visible .getHandle, rfl⟩
  exact created_build_of_prepared prepared (runFrom_create direct.service direct.factory)

/-- A query whose calls are no members of the handle adds only calls of its own to the log. -/
theorem confined_build_adds {test : Call → Prop} (apart : q.type.CallsApart)
    (passes : ∀ name args, isMember name = false → test ⟨name, args⟩) (base : List Call) :
    Confined (Adds test base) (fun _ => True) q.build := by
  refine confined_build_of ?_ (fun _ _ => trivial) (fun _ _ => trivial)
    (confined_create_adds test base _ _)
  intro name mem args
  exact confined_call_adds base (apart name mem) (passes name args (apart name mem))

/-! ### Succeeding -/

theorem leads_apply (whitelist : SortWhitelist) (criterion : SortCriterion) :
    Leads Succeeds (whitelist.apply criterion) := by
  unfold SortWhitelist.apply
  refine .silent_bind (.lift _) fun call => ?_
  exact (leads_discard_call call []).bind Succeeds.trans fun _ => leads_discard_call _ []

theorem leads_applySort (q : Query) (criterion : SortCriterion) :
    Leads Succeeds (q.applySort criterion) := by
  unfold applySort
  refine .silent_bind (.lift _) fun _ => .silent_bind (.lift _) fun _ => ?_
  refine .silent_bind (.lift _) fun _ => .silent_bind (.lift _) fun whitelist => ?_
  exact leads_apply whitelist criterion

theorem leads_applyFilter (q : Query) (rule : FilterRule) :
    Leads Succeeds (q.applyFilter rule) := by
  unfold applyFilter
  dsimp only
  split
  · exact .throw _
  · exact leads_callAll _

/-- A query that was built on an engine that fails has not been executed meanwhile, whatever its
calls are named. -/
theorem leads_build (q : Query) : Leads Succeeds q.build := by
  rw [build_eq_prepared_then_arrange]
  refine .silent_bind (.lift _) fun criteria => (leads_create _ _).bind Succeeds.trans fun _ => ?_
  refine .silent_bind (.lift _) fun _ => ?_
  have filters : Leads Succeeds (q.type.filters.forM q.applyFilter) :=
    .forM .refl .trans fun rule _ => q.leads_applyFilter rule
  exact filters.bind Succeeds.trans fun _ =>
    .forM .refl .trans fun criterion _ => q.leads_applySort criterion

end Query
end QueryBinding
