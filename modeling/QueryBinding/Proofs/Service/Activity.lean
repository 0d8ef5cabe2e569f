import QueryBinding.Proofs.Catalog.Calls
import QueryBinding.Proofs.Service.Handling
import QueryBinding.Proofs.Service.Passing
/-!
What a request does to the engine. It is admitted or refused before the engine is touched; an
admitted request makes one handle, its filter calls, its ordering calls and then one terminal call,
whatever fails after that. What carries the proof is what a computation does to the engine of the
world (`Acts`): the middlewares that only keep contexts and logs hand it on unchanged.
-/
namespace QueryBinding

open Engine

/-- Turns the engine of the world, if it rejects no call, into the one that the function gives. -/
def Acts (m : ServiceM α) (f : Engine → Engine) : Prop :=
  ∀ w, w.engine.rejects = [] → (runFrom m w).2.engine = f w.engine

namespace Acts

variable {f : Engine → Engine}

theorem throw (failure : Failure) : Acts (MonadExcept.throw failure : ServiceM α) id :=
  fun _ _ => rfl

theorem handedOn {m : Middleware ρ} {next : Handler ρ} {request : Request} (handsOn : m.HandsOn)
    (h : Acts (next request) f) : Acts (m next request) f := by
  intro w quiet
  obtain ⟨u, same, _, does⟩ := handsOn next request w
  rw [does, h u (same ▸ quiet), same]

end Acts

/-! ### Middlewares -/

/-- The middlewares for contexts and logs. -/
inductive StandardMiddleware where
  | propagation
  | logging (level : LogLevel)
deriving DecidableEq

namespace StandardMiddleware

def toMiddleware : StandardMiddleware → Middleware ρ
  | propagation => Middleware.propagation
  | logging level => Middleware.loggingAt level

/-- Whether requests are let through: records can only be written at a level. -/
def admits : StandardMiddleware → Bool
  | propagation | logging (.number _) => true
  | logging (.layout _) | logging .styles => false

variable {ρ : Type} {f : Engine → Engine} {next : Handler ρ} {request : Request}

theorem handsOn_of_admits {m : StandardMiddleware} (admits : m.admits = true) :
    Middleware.HandsOn (m.toMiddleware : Middleware ρ) := by
  cases m with
  | propagation => exact Middleware.handsOn_propagation
  | logging level =>
    cases level with
    | number n => exact Middleware.handsOn_logging n
    | _ => cases admits

theorem acts_of_not_admits {m : StandardMiddleware} (refuses : m.admits = false) :
    Acts (m.toMiddleware next request) id := by
  cases m with
  | propagation => cases refuses
  | logging level =>
    cases level with
    | number n => cases refuses
    | _ => exact .throw _

/-- The middlewares in a row hand on what lies behind them, or nothing if one refuses. -/
theorem acts_chain {stack : List StandardMiddleware} (h : Acts (next request) f) :
    Acts (Middleware.chain (stack.map toMiddleware) next request)
      (if stack.all admits then f else id) := by
  induction stack with
  | nil => exact h
  | cons m stack ih =>
    cases passes : m.admits with
    | true =>
      rw [List.all_cons, passes, Bool.true_and]
      have passed := Acts.handedOn (handsOn_of_admits passes) ih
      exact passed
    | false =>
      rw [List.all_cons, passes, Bool.false_and]
      exact acts_of_not_admits passes

end StandardMiddleware

/-! ### Requests -/

/-- The engine after a request was performed on it. -/
def Request.performedOn (settings : Settings) (request : Request) (e : Engine) : Engine :=
  let q := request.query
  (e.recordFactory q.type.factory.method).recordAll
    (q.filterCalls ++ q.sortCalls ++ [request.terminalCall settings])

/-- A request that was performed shows in the engine. -/
theorem Request.performedOn_ne (settings : Settings) (request : Request) (e : Engine) :
    request.performedOn settings e ≠ e := by
  intro same
  have created := congrArg (·.created.length) same
  simp [performedOn] at created

namespace Service

variable {ρ : Type} {t : Catalog} {request : Request}

theorem engine_perform {e : Engine} (settings : Settings) (made : t.queryType.Makes request.query)
    (quiet : e.rejects = []) :
    (runFrom (perform settings request) e).2 = request.performedOn settings e := by
  rw [runFrom_perform (t.runFrom_build made quiet), ← made.type_eq]
  exact recordAll_recordAll _ _

/-- The innermost handler performs a request, unless the page asks for too much. -/
theorem acts_handle (service : Service ρ) (made : t.queryType.Makes request.query)
    (within : request.checkLimit service.settings = .ok ()) :
    Acts (service.handle request) (request.performedOn service.settings) := by
  intro w quiet
  rw [runFrom_handle service within]
  exact engine_perform service.settings made quiet

/-- The innermost handler leaves the engine alone if the page asks for too much. -/
theorem acts_handle_of_limit (service : Service ρ) {failure : Failure}
    (exceeds : request.checkLimit service.settings = .error failure) :
    Acts (service.handle request) id := by
  intro w _
  rw [runFrom_handle_of_limit service exceeds]
  rfl

/-- The request that an inquiry stands for: its query is bound and its sorting checked, its page is
validated, and the limit of results is checked. -/
def toRequest (service : Service ρ) : Inquiry → Except Failure Request
  | .list input first max => do
    let query ← service.queryType.ofInput input
    let page ← Page.of first max
    page.checkLimit service.settings
    return ⟨query, .list, page⟩
  | .count input => do
    let query ← service.queryType.ofInput input
    return { query, operation := .count }

section Answers

variable {service : Service ρ} {stack : List StandardMiddleware} {inquiry : Inquiry}

theorem acts_execute {f : Engine → Engine}
    (standard : service.middleware = stack.map (·.toMiddleware))
    (h : Acts (service.handle request) f) :
    Acts (service.execute request) (if stack.all (·.admits) then f else id) := by
  unfold execute
  rw [standard]
  exact StandardMiddleware.acts_chain h

theorem toRequest_eq (service : Service ρ) (inquiry : Inquiry) :
    service.toRequest inquiry = (do
      let request ← service.bound inquiry
      request.checkLimit service.settings
      return request) := by
  cases inquiry with
  | list input first max =>
    simp only [toRequest, bound, bind_assoc, pure_bind]
    rfl
  | count input =>
    simp only [toRequest, bound, bind_assoc, pure_bind]
    rfl

theorem toRequest_eq_ok (admitted : service.toRequest inquiry = .ok request) :
    service.bound inquiry = .ok request ∧ request.checkLimit service.settings = .ok () := by
  simp only [toRequest_eq, bind_eq_ok] at admitted
  obtain ⟨other, binds, _, within, same⟩ := admitted
  cases same
  exact ⟨binds, within⟩

theorem makes_of_toRequest (admitted : service.toRequest inquiry = .ok request) :
    service.queryType.Makes request.query := makes_of_bound service (toRequest_eq_ok admitted).1

/-- A refused inquiry leaves the engine alone. -/
theorem acts_answer_of_refused (standard : service.middleware = stack.map (·.toMiddleware))
    {failure : Failure} (refused : service.toRequest inquiry = .error failure) :
    Acts (service.answer inquiry) id := by
  rw [toRequest_eq] at refused
  rw [answer_eq]
  cases binds : service.bound inquiry with
  | error other => exact .throw other
  | ok request =>
    rw [binds] at refused
    cases within : request.checkLimit service.settings with
    | error other =>
      have executes := acts_execute standard (acts_handle_of_limit service within)
      rw [ite_self] at executes
      exact executes
    | ok _ =>
      simp only [bind, Except.bind, within] at refused
      cases refused

/-- An admitted inquiry is performed on the engine, if the middlewares let it through. -/
theorem acts_answer_of_admitted (known : service.queryType = t.queryType)
    (standard : service.middleware = stack.map (·.toMiddleware))
    (admitted : service.toRequest inquiry = .ok request) :
    Acts (service.answer inquiry)
      (if stack.all (·.admits) then request.performedOn service.settings else id) := by
  obtain ⟨binds, within⟩ := toRequest_eq_ok admitted
  have made : t.queryType.Makes request.query := known ▸ makes_of_toRequest admitted
  rw [answer_eq, binds, lift_ok_bind]
  exact acts_execute standard (acts_handle service made within)

variable {w : World} (standard : service.middleware = stack.map (·.toMiddleware))
  (quiet : w.engine.rejects = [])

include standard quiet

theorem engine_of_stopped
    (stopped : (∃ failure, service.toRequest inquiry = .error failure) ∨
      ∃ m ∈ stack, m.admits = false) (known : service.queryType = t.queryType) :
    (runFrom (service.answer inquiry) w).2.engine = w.engine := by
  cases admitted : service.toRequest inquiry with
  | error failure => exact acts_answer_of_refused standard admitted w quiet
  | ok request =>
    rw [admitted] at stopped
    rcases stopped with ⟨failure, refused⟩ | ⟨m, mem, refuses⟩
    · cases refused
    · have acts := acts_answer_of_admitted known standard admitted w quiet
      have stops : ¬stack.all (·.admits) = true := by
        intro all
        rw [List.all_eq_true.1 all m mem] at refuses
        cases refuses
      rw [if_neg stops] at acts
      exact acts

theorem engine_of_passed (known : service.queryType = t.queryType)
    (admitted : service.toRequest inquiry = .ok request) (pass : ∀ m ∈ stack, m.admits = true) :
    (runFrom (service.answer inquiry) w).2.engine =
      request.performedOn service.settings w.engine := by
  have acts := acts_answer_of_admitted known standard admitted w quiet
  rw [if_pos (List.all_eq_true.2 pass)] at acts
  exact acts

end Answers

/-- What a request does to an engine that rejects no call. It leaves the engine alone exactly if it
is not admitted, or if one of the middlewares lets no request through. Otherwise it gets one handle
and makes its filter calls, two calls for each criterion and then its terminal call, whatever fails
later. -/
theorem activity {service : Service ρ} {stack : List StandardMiddleware} {w : World}
    (known : service.queryType = t.queryType)
    (standard : service.middleware = stack.map (·.toMiddleware)) (quiet : w.engine.rejects = [])
    (inquiry : Inquiry) :
    ((runFrom (service.answer inquiry) w).2.engine = w.engine ↔
      (∃ failure, service.toRequest inquiry = .error failure) ∨ ∃ m ∈ stack, m.admits = false) ∧
    ∀ request, service.toRequest inquiry = .ok request → (∀ m ∈ stack, m.admits = true) →
      (runFrom (service.answer inquiry) w).2.engine =
        (w.engine.recordFactory t.queryType.factory.method).recordAll
          (request.query.filterCalls ++
            request.query.criteria.flatMap t.queryType.sortFields.callsFor ++
            [request.terminalCall service.settings]) ∧
      (∀ c ∈ request.query.filterCalls, c.isFilter = true) ∧
      (∀ criterion ∈ request.query.criteria, ∃ call,
        t.queryType.sortFields.orderings.lookup criterion.field = some call ∧
        t.queryType.sortFields.callsFor criterion =
          [⟨call, []⟩, ⟨criterion.order.symbol, []⟩]) ∧
      (request.terminalCall service.settings).isTerminal = true := by
  refine ⟨⟨fun same => ?_, fun stopped => engine_of_stopped standard quiet stopped known⟩, ?_⟩
  · cases admitted : service.toRequest inquiry with
    | error failure => exact .inl ⟨failure, rfl⟩
    | ok request =>
      by_cases stopped : ∃ m ∈ stack, m.admits = false
      · exact .inr stopped
      · have pass : ∀ m ∈ stack, m.admits = true := by
          intro m mem
          exact Bool.of_not_eq_false fun refuses => stopped ⟨m, mem, refuses⟩
        have performed := engine_of_passed standard quiet known admitted pass
        exact absurd (performed.symm.trans same) (request.performedOn_ne _ _)
  · intro request admitted pass
    have made : t.queryType.Makes request.query := known ▸ makes_of_toRequest admitted
    have performed := engine_of_passed standard quiet known admitted pass
    rw [Request.performedOn, Query.sortCalls, made.type_eq] at performed
    refine ⟨performed, fun c mem => Catalog.isFilter_of_mem_filterCalls made.type_eq mem, ?_,
      request.isTerminal_terminalCall _⟩
    intro criterion mem
    have listed := Catalog.ordering_listed made criterion mem
    exact SortWhitelist.exists_callsFor (made.type_eq ▸ listed)

theorem activity_of_count :
    ∃ (service : Service Datum) (request : Request),
      service.middleware = [Middleware.propagation, Middleware.loggingAt (.number 20)] ∧
      service.toRequest (.count (.parameters [("resolved", ["true"])])) = .ok request ∧
      (runFrom (service.answer (.count (.parameters [("resolved", ["true"])]))) {}).2.engine =
        { created := ["create_historic_incident_query"]
          calls := [⟨"resolved", []⟩, ⟨"count", []⟩] } := by
  let service : Service Datum :=
    { queryType := HistoricIncident.queryType
      toResult := .ok
      middleware := [Middleware.propagation, Middleware.loggingAt (.number 20)] }
  have standard : service.middleware =
      [StandardMiddleware.propagation, .logging (.number 20)].map (·.toMiddleware) := rfl
  have admitted : service.toRequest (.count (.parameters [("resolved", ["true"])])) =
      .ok { query := ⟨_, [("resolved", .flag true)], none⟩, operation := .count } := rfl
  obtain ⟨_, performed⟩ := activity (t := .historicIncident) (w := {}) rfl standard rfl
    (.count (.parameters [("resolved", ["true"])]))
  exact ⟨service, _, rfl, admitted, (performed _ admitted (by decide)).1⟩

/-- A middleware for logs that was made with the name of no level lets no request through: this one
would be admitted, but it fails and leaves the engine alone. -/
theorem not_activity_of_layout :
    ∃ (level : LogLevel) (request : Request),
      LogLevel.ofName "basic_format" = .ok level ∧
      let service : Service Datum :=
        { queryType := HistoricIncident.queryType
          toResult := .ok
          middleware := [Middleware.loggingAt level] }
      let inquiry : Inquiry := .list (.parameters []) .null .null
      service.toRequest inquiry = .ok request ∧
        runFrom (service.answer inquiry) { engine := { results := [.number 1] } } =
          (.error (.misuse .notLevel), { engine := { results := [.number 1] } }) :=
  ⟨_, _, rfl, rfl, rfl⟩

end Service
end QueryBinding
