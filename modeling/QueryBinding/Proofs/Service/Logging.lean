import QueryBinding.Catalog.HistoricIncident
import QueryBinding.Proofs.Service.Handling
import QueryBinding.Proofs.Service.Stack
/-!
The log of a request. Middlewares for logs write on the way in, in their order, and after a failure
of the service's own once more on the way out, in the reverse order; what they write is told by the
middlewares, the query type, the operation, the contexts and the kind of the failure. So two
requests that differ in nothing of this cannot be told apart by their logs.
-/
namespace QueryBinding

/-- Writes no records of its own. -/
def Handler.LogsNothing (next : Handler ρ) : Prop :=
  ∀ request w, (runFrom (next request) w).2.log = w.log ∧
    (runFrom (next request) w).2.logThreshold = w.logThreshold

/-- How a request ended: with a result, or with a failure of some kind. -/
def ending : Except Failure α → Option FailureKind
  | .ok _ => none
  | .error failure => some failure.kind

theorem failureEvent?_eq_of_ending {result : Except Failure α} {other : Except Failure β}
    (same : ending result = ending other) : failureEvent? result = failureEvent? other := by
  cases result with
  | ok a =>
    cases other with
    | ok b => rfl
    | error failure => cases same
  | error failure =>
    cases other with
    | ok b => cases same
    | error raised =>
      have kind : failure.kind = raised.kind := Option.some.inj same
      unfold failureEvent? Failure.isA
      dsimp only
      rw [kind]

theorem Service.logsNothing_handle {ρ : Type} (service : Service ρ) :
    Handler.LogsNothing service.handle := by
  intro request w
  obtain ⟨_, leaves⟩ := service.exists_engine_of_handle request w
  rw [leaves]
  exact ⟨rfl, rfl⟩

namespace StandardMiddleware

variable {ρ : Type} {request : Request} {w : World}

/-- The records that middlewares write about a request that came to them in the contexts and ended
in that way. -/
def recordsAbout (stack : List StandardMiddleware) (request : Request) (c : ContextState)
    (result : Except Failure α) : List LogRecord :=
  records .executing request stack c ++ closingRecords stack request c result

/-! ### Records -/

theorem records_append (event : LogEvent) (request : Request) (front back : List StandardMiddleware)
    (c : ContextState) :
    records event request (front ++ back) c =
      records event request front c ++ records event request back (contextsBehind front c) := by
  induction front generalizing c with
  | nil => rfl
  | cons m front ih =>
    have rest := ih (m.contextBehind c)
    rw [List.cons_append, records, records, rest, List.append_assoc]
    rfl

/-- What is written about two requests of the same type and operation differs at most by how they
ended. -/
theorem recordsAbout_congr {other : Request} {result : Except Failure α}
    {outcome : Except Failure β} (type : request.query.type.name = other.query.type.name)
    (operation : request.operation = other.operation) (same : ending result = ending outcome)
    (stack : List StandardMiddleware) (c : ContextState) :
    recordsAbout stack request c result = recordsAbout stack other c outcome := by
  have each (m : StandardMiddleware) (event : LogEvent) (c : ContextState) :
      m.recordsOf event request c = m.recordsOf event other c := by
    cases m with
    | propagation => rfl
    | logging level => cases level <;> simp only [recordsOf, type, operation]
  have all (event : LogEvent) : records event request stack c = records event other stack c := by
    induction stack generalizing c with
    | nil => rfl
    | cons m stack ih => rw [records, records, each, ih]
  simp only [recordsAbout, closingRecords, failureEvent?_eq_of_ending same, all]

/-! ### Chains -/

theorem logsNothing_reached {next : Handler ρ} (quiet : next.LogsNothing)
    (stack : List StandardMiddleware) : (reached stack next).LogsNothing := by
  unfold reached
  split
  · exact quiet
  · exact fun _ _ => ⟨rfl, rfl⟩

/-- A chain adds exactly the records of its middlewares up to the first that refuses requests. -/
theorem runFrom_chain_log {next : Handler ρ} (quiet : next.LogsNothing)
    (stack : List StandardMiddleware) (request : Request) (w : World) :
    let after := runFrom (Middleware.chain (stack.map toMiddleware) next request) w
    after.2.log =
      w.log ++ (recordsAbout (stack.takeWhile (·.admits)) request w.context after.1).filter
        (·.isKept w.logThreshold) := by
  let front := stack.takeWhile (·.admits)
  let handled := runFrom (reached stack next request) (entry front request w)
  obtain ⟨log, threshold⟩ := logsNothing_reached quiet stack request (entry front request w)
  obtain ⟨_, leaves⟩ := exit_eq front request w handled.2 handled.1
  have opened : handled.2.log = (w.write (records .executing request front w.context)).log ∧
      handled.2.logThreshold = w.logThreshold := by
    rw [log, threshold, entry_eq]
    exact ⟨rfl, rfl⟩
  rw [runFrom_chain_reached]
  simp only [recordsAbout, List.filter_append]
  change (exit request handled.1 front w handled.2).log = _
  rw [leaves]
  simp only [World.write, opened, List.append_assoc]
  rfl

/-- What a chain of middlewares logs. Each of them gets the requests in the contexts by which its
records go. Every request adds the records about it, those of the middlewares up to the first one
that refuses requests, as far as their levels are high enough. So two requests of the same type and
operation, in the same contexts and with the same ending, have the same log. -/
theorem logs (stack : List StandardMiddleware) (request : Request) (w : World) :
    (∀ front back, stack = front ++ back → (∀ m ∈ front, m.admits = true) →
      (∀ event, records event request stack w.context =
        records event request front w.context ++
          records event request back (contextsBehind front w.context)) ∧
      ∃ u : World, u.context = contextsBehind front w.context ∧ ∀ next : Handler ρ,
        (runFrom (Middleware.chain (stack.map toMiddleware) next request) w).1 =
          (runFrom (Middleware.chain (back.map toMiddleware) next request) u).1) ∧
    ∀ next : Handler ρ, next.LogsNothing →
      let after := runFrom (Middleware.chain (stack.map toMiddleware) next request) w
      after.2.log =
          w.log ++ (recordsAbout (stack.takeWhile (·.admits)) request w.context after.1).filter
            (·.isKept w.logThreshold) ∧
        ∀ (other : Request) (v : World) (next' : Handler ρ), next'.LogsNothing →
          let after' := runFrom (Middleware.chain (stack.map toMiddleware) next' other) v
          request.query.type.name = other.query.type.name → request.operation = other.operation →
          w.context = v.context → w.logThreshold = v.logThreshold →
          ending after.1 = ending after'.1 →
          ∃ more, after.2.log = w.log ++ more ∧ after'.2.log = v.log ++ more := by
  refine ⟨?_, fun next quiet => ⟨runFrom_chain_log quiet stack request w, ?_⟩⟩
  · rintro front back rfl allAdmit
    refine ⟨fun event => records_append event request front back w.context,
      entry front request w, by rw [entry_eq], fun next => ?_⟩
    rw [chain_append, runFrom_chain allAdmit]
  · intro other v next' quiet' after' type operation context threshold same
    refine ⟨_, runFrom_chain_log quiet stack request w, ?_⟩
    rw [recordsAbout_congr type operation same, context, threshold]
    exact runFrom_chain_log quiet' stack other v

/-- Two listings that are rejected cannot be told apart by their filters and pages. -/
theorem logs_rejected :
    let service : Service Datum :=
      { queryType := HistoricIncident.queryType
        toResult := .ok
        settings := { maxResultsLimit := some 1 } }
    let stack : List StandardMiddleware :=
      [logging (.number 20), propagation, logging (.number 10)]
    let request (type : String) (page : Page) : Request :=
      ⟨⟨service.queryType, [("incident_type", .text type)], none⟩, .list, page⟩
    let after (request : Request) :=
      runFrom (Middleware.chain (stack.map toMiddleware) service.handle request) {}
    (after (request "a" { max := some 2 })).2.log = (after (request "b" {})).2.log ∧
      (after (request "b" {})).2.log =
        [⟨20, .executing, "HistoricIncidentQueryDto", .list, none⟩,
          ⟨10, .executing, "HistoricIncidentQueryDto", .list, some (.issued 0)⟩,
          ⟨10, .failed .invalidRequest, "HistoricIncidentQueryDto", .list, some (.issued 0)⟩,
          ⟨20, .failed .invalidRequest, "HistoricIncidentQueryDto", .list, none⟩] := by
  intro service stack request after
  have fails : ending (after (request "b" {})).1 = some .invalidRequest := by
    dsimp only [after, stack, request, service]
    rfl
  have fails' : ending (after (request "a" { max := some 2 })).1 = some .invalidRequest := by
    dsimp only [after, stack, request, service]
    rfl
  obtain ⟨_, writes⟩ := logs (ρ := Datum) stack (request "b" {}) {}
  obtain ⟨_, same⟩ := writes service.handle service.logsNothing_handle
  obtain ⟨more, first, second⟩ := same (request "a" { max := some 2 }) {} service.handle
    service.logsNothing_handle rfl rfl rfl rfl (fails.trans fails'.symm)
  refine ⟨second.trans first.symm, ?_⟩
  dsimp only [after, stack, request, service]
  rfl

/-- A middleware for logs that was made with the name of the level zero writes nothing, and one that
was made with the name of no level lets no request through. -/
theorem not_logs_of_notset_or_layout :
    let next : Handler Datum := fun _ => return .results []
    let request : Request := ⟨⟨HistoricIncident.queryType, [], none⟩, .list, {}⟩
    (∃ level, LogLevel.ofName "notset" = .ok level ∧
      runFrom (Middleware.chain [Middleware.loggingAt level] next request) {} =
        (.ok (.results []), {})) ∧
    ∃ info level, LogLevel.ofName "info" = .ok info ∧ LogLevel.ofName "basic_format" = .ok level ∧
      (runFrom (Middleware.chain [Middleware.loggingAt info, Middleware.loggingAt level] next
          request) {}).2.log =
        [⟨20, .executing, "HistoricIncidentQueryDto", .list, none⟩] :=
  ⟨⟨_, rfl, rfl⟩, _, _, rfl, rfl, rfl⟩

end StandardMiddleware

end QueryBinding
