import QueryBinding.Catalog.HistoricIncident
import QueryBinding.Proofs.Query.Confinement
import QueryBinding.Proofs.Service.Handling
import QueryBinding.Proofs.Service.Passing
/-!
How services report failures. What fails before a query is executed, or after that while results are
mapped, is reported as it is; what the engine raises when it executes the query is reported as a
rejection if it is of a kind that the service takes for one. The innermost handler does so for every
request, and middlewares that hand requests on change nothing about it.
-/
namespace QueryBinding

open Engine

namespace Service

variable {ρ : Type} {service : Service ρ} {request : Request} {before built : Engine}

/-- A request comes to be executed: it is within the limit, and its query is built. -/
def Executes (service : Service ρ) (request : Request) (before built : Engine) : Prop :=
  request.checkLimit service.settings = .ok () ∧
    runFrom request.query.build before = (.ok (), built)

/-- What is reported for a request, and what is left of the engine. -/
structure Report (service : Service ρ) (request : Request) (before : Engine)
    (result : Except Failure (Outcome ρ)) (after : Engine) : Prop where
  /-- A listing beyond the limit is refused, and the engine is left alone. -/
  limited : ∀ failure, request.checkLimit service.settings = .error failure →
    result = .error failure ∧ after = before
  /-- What the engine raises is a rejection of the query if it is of a kind for that. -/
  rejected : ∀ built raised, service.Executes request before built → built.failure = some raised →
    (∃ kind ∈ service.engineErrors, raised.isA kind = true) →
    result = .error (.engineExecution raised.text)
  /-- Any other failure of the engine is reported as it is. -/
  raised : ∀ built raised, service.Executes request before built → built.failure = some raised →
    (∀ kind ∈ service.engineErrors, raised.isA kind = false) → result = .error raised
  /-- A query is executed by one call. If the engine fails then, it is the first of its kind. -/
  once : ∀ built, service.Executes request before built →
    after = built.recordAll [request.terminalCall service.settings] ∧
      ∀ raised, built.failure = some raised →
        after.terminalCalls = before.terminalCalls ++ [request.terminalCall service.settings]
  /-- Results are mapped one by one, and what fails then is reported as it is. -/
  mapped : ∀ built, service.Executes request before built → built.failure = none →
    request.operation = .list →
    result = ((request.page.resultsOn service.settings built).mapM service.toResult).map .results

theorem any_isA_eq_false {kinds : List FailureKind} {failure : Failure}
    (other : ∀ kind ∈ kinds, failure.isA kind = false) : kinds.any failure.isA = false :=
  List.any_eq_false.2 fun kind mem => by simp [other kind mem]

theorem runFrom_handle_of_executes {w : World} (executes : service.Executes request w.engine built) :
    runFrom (service.handle request) w =
      (service.conclude (built.failure.elim (request.outcomeOn service.settings built) .error),
        { w with engine := built.recordAll [request.terminalCall service.settings] }) := by
  rw [runFrom_handle service executes.1, runFrom_perform executes.2]

/-- An engine that fails has executed nothing while the query was built. -/
theorem terminalCalls_of_executes (executes : service.Executes request before built)
    {raised : Failure} (fails : built.failure = some raised) :
    (built.recordAll [request.terminalCall service.settings]).terminalCalls =
      before.terminalCalls ++ [request.terminalCall service.settings] := by
  have unexecuted : built.terminalCalls = before.terminalCalls :=
    (request.query.leads_build before () built executes.2 raised fails).2
  rw [← unexecuted, Engine.terminalCalls, recordAll_calls, List.filter_append]
  simp [Engine.terminalCalls, Request.isTerminal_terminalCall]

theorem report_handle (service : Service ρ) (request : Request) (w : World) :
    service.Report request w.engine (runFrom (service.handle request) w).1
      (runFrom (service.handle request) w).2.engine where
  limited := by
    intro failure exceeds
    rw [runFrom_handle_of_limit service exceeds]
    exact ⟨rfl, rfl⟩
  rejected := by
    intro built raised executes fails ⟨kind, known, isA⟩
    have listed : service.engineErrors.any raised.isA = true :=
      List.any_eq_true.2 ⟨kind, known, isA⟩
    rw [runFrom_handle_of_executes executes, fails]
    simp only [Option.elim_some, conclude, reported, listed, if_true]
  raised := by
    intro built raised executes fails other
    rw [runFrom_handle_of_executes executes, fails]
    simp only [Option.elim_some, conclude, reported, any_isA_eq_false other, Bool.false_eq_true,
      if_false]
  once := by
    intro built executes
    rw [runFrom_handle_of_executes executes]
    exact ⟨rfl, fun raised fails => terminalCalls_of_executes executes fails⟩
  mapped := by
    intro built executes succeeds lists
    rw [runFrom_handle_of_executes executes, succeeds]
    simp only [Option.elim_none, Request.outcomeOn, lists, conclude, mapOutcome]

/-- Middlewares that hand requests on change nothing about what is reported. -/
theorem report_execute (handOn : ∀ m ∈ service.middleware, m.HandsOn) (request : Request)
    (w : World) :
    service.Report request w.engine (runFrom (service.execute request) w).1
      (runFrom (service.execute request) w).2.engine := by
  obtain ⟨u, same, gives, does⟩ :=
    Middleware.handsOn_chain handOn service.handle request w
  unfold execute
  rw [gives, does, ← same]
  exact report_handle service request u

/-- Building a query that was made raises no failure of the service's own: only the engine can. -/
theorem raises_of_makes {type : QueryType} {q : Query} (made : type.Makes q) {e : Engine}
    {failure : Failure} (fails : (runFrom q.build e).1 = .error failure)
    (own : failure.isA .service = true) : e.Raises failure := by
  obtain ⟨criteria, ordered, listed⟩ := made.exists_ordering
  refine (Query.isUsage_or_raises ordered (made.type_eq ▸ listed) fails).resolve_left ?_
  intro usage
  rw [usage.isA_eq_false (by decide)] at own
  cases own

/-- What services report. The innermost handler reports every request as in `Report`, and so does
the service as a whole if its middlewares hand requests on. What cannot be bound is reported as it
is and does nothing at all; what is bound is a query that was made, and building it raises none of
the service's own failures, which could be taken for one of the engine. -/
theorem reports (service : Service ρ) :
    (∀ request w, service.Report request w.engine (runFrom (service.handle request) w).1
      (runFrom (service.handle request) w).2.engine) ∧
    ((∀ m ∈ service.middleware, m.HandsOn) → ∀ request w,
      service.Report request w.engine (runFrom (service.execute request) w).1
        (runFrom (service.execute request) w).2.engine) ∧
    (∀ inquiry failure, service.bound inquiry = .error failure → ∀ w,
      runFrom (service.answer inquiry) w = (.error failure, w)) ∧
    (∀ inquiry request, service.bound inquiry = .ok request →
      service.answer inquiry = service.execute request ∧
        service.queryType.Makes request.query) ∧
    ∀ q, service.queryType.Makes q → ∀ e failure, (runFrom q.build e).1 = .error failure →
      failure.isA .service = true → e.Raises failure := by
  refine ⟨report_handle service, report_execute, ?_, ?_, ?_⟩
  · intro inquiry failure refused w
    rw [answer_eq, refused, lift_error_bind, runFrom_throw]
  · intro inquiry request binds
    refine ⟨?_, makes_of_bound service binds⟩
    rw [answer_eq, binds, lift_ok_bind]
  · intro q made e failure fails own
    exact raises_of_makes made fails own

theorem reports_rejection :
    let service : Service Datum :=
      { queryType := HistoricIncident.queryType
        toResult := .ok
        middleware := [Middleware.propagation, Middleware.loggingAt (.number 20)]
        engineErrors := [.service, .engine] }
    let inquiry : Inquiry := .count (.parameters [])
    let w : World := { engine := { failure := some (.raised .engine [.text "no"]) } }
    (runFrom (service.answer inquiry) w).1 = .error (.engineExecution "no") ∧
      (runFrom (service.answer inquiry) w).2.engine.terminalCalls = [⟨"count", []⟩] := by
  intro service inquiry w
  have handOn : ∀ m ∈ service.middleware, m.HandsOn := by
    simp only [service, List.mem_cons, List.not_mem_nil, or_false, forall_eq_or_imp, forall_eq]
    exact ⟨Middleware.handsOn_propagation, Middleware.handsOn_logging 20⟩
  have builds : runFrom (⟨HistoricIncident.queryType, [], none⟩ : Query).build
      { failure := some (.raised .engine [.text "no"]) } =
      (.ok (), { failure := some (.raised .engine [.text "no"])
                 created := ["create_historic_incident_query"] }) := rfl
  let request : Request := ⟨⟨HistoricIncident.queryType, [], none⟩, .count, {}⟩
  have executes : service.Executes request w.engine _ := ⟨rfl, builds⟩
  obtain ⟨_, handed, _, bound, _⟩ := reports service
  have report := handed handOn request w
  rw [(bound inquiry request rfl).1]
  exact ⟨report.rejected _ _ executes rfl ⟨.engine, by decide, by decide⟩,
    (report.once _ executes).2 _ rfl⟩

/-- A query that was not checked brings a failure of the service's own to the engine errors. A
middleware that recovers leaves none of what is reported. -/
theorem not_reports_unchecked_or_recovered :
    (let service : Service Datum :=
      { queryType := HistoricIncident.queryType, toResult := .ok, engineErrors := [.service] }
    let query : Query := Query.sortedBy service.queryType [⟨"bogus", .asc⟩]
    service.queryType.checkSortField "bogus" =
        .error (.sortField "bogus" "HistoricIncidentQueryDto") ∧
      runFrom (service.executeCount query) {} =
        (.error (.engineExecution
          "sortBy parameter has invalid value 'bogus' for HistoricIncidentQueryDto"), {})) ∧
    (let service : Service Datum :=
      { queryType := HistoricIncident.queryType
        toResult := .ok
        middleware := [Middleware.recover] }
    let w : World := { engine := { failure := some (.raised .engine [.text "no"]) } }
    (runFrom (service.answer (.list (.parameters []) .null .null)) w).1 = .ok (.results []) ∧
      (runFrom (service.answer (.list (.parameters []) .null .null)) w).2.engine.terminalCalls =
        [⟨"list", []⟩]) :=
  ⟨⟨rfl, rfl⟩, rfl, rfl⟩

end Service
end QueryBinding
