import QueryBinding.Proofs.Query.Building
import QueryBinding.Service
/-!
What handling a request gives and does. A request within the limit is performed: its query is built,
and then there is exactly one more call, which lists or counts. The innermost handler adds nothing
to that but the engine errors that it renames and the form of the results.
-/
namespace QueryBinding

open Engine

/-! ### Executing a query -/

/-- The call that executes a query once it is built. -/
def Request.terminalCall (settings : Settings) (request : Request) : Call :=
  match request.operation with
  | .count => ⟨"count", []⟩
  | .list =>
    if request.page.first = none ∧ request.page.max = none then ⟨"list", []⟩
    else
      let max := request.page.max.getD settings.unboundedMaxResults
      ⟨"list_page", [.number (request.page.first.getD 0), .number max]⟩

theorem Request.isTerminal_terminalCall (settings : Settings) (request : Request) :
    (request.terminalCall settings).isTerminal = true := by
  unfold terminalCall
  split
  · rfl
  · split <;> rfl

/-- The results of an engine that a page shows. -/
def Page.resultsOn (page : Page) (settings : Settings) (e : Engine) : List Datum :=
  if page.isPaginated then
    let first := page.first.getD 0
    Portion.between e.results first (first + page.max.getD settings.unboundedMaxResults)
  else e.results

/-- What a request gives on an engine that does not fail. -/
def Request.outcomeOn (settings : Settings) (request : Request) (e : Engine) :
    Except Failure (Outcome Datum) :=
  match request.operation with
  | .count => (Service.readCount (e.total.getD (.number e.results.length))).map .count
  | .list => .ok (.results (request.page.resultsOn settings e))

theorem runFrom_listResults (page : Page) (settings : Settings) (query : Query) (e : Engine) :
    runFrom (page.listResults settings) e =
      (e.failure.elim (.ok (page.resultsOn settings e)) .error,
        e.recordAll [Request.terminalCall settings ⟨query, .list, page⟩]) := by
  unfold Page.listResults Page.resultsOn Request.terminalCall Page.isPaginated
  obtain ⟨first, max, _, _⟩ := page
  cases first with
  | some first => exact runFrom_listPage _ _
  | none =>
    cases max with
    | some max => exact runFrom_listPage _ _
    | none => exact runFrom_list

namespace Service

variable {settings : Settings} {request : Request} {e built : Engine} {failure : Failure}

/-- Once the query is built there is one more call, whether it fails or not. -/
theorem runFrom_perform (builds : runFrom request.query.build e = (.ok (), built)) :
    runFrom (perform settings request) e =
      (built.failure.elim (request.outcomeOn settings built) .error,
        built.recordAll [request.terminalCall settings]) := by
  obtain ⟨query, operation, page⟩ := request
  unfold perform
  rw [runFrom_bind_ok builds]
  cases operation with
  | count =>
    dsimp only
    rw [runFrom_bind, runFrom_count]
    cases built.failure with
    | some raised => rfl
    | none =>
      simp only [Option.elim_none, runFrom_bind, runFrom_lift, Request.outcomeOn]
      cases readCount (built.total.getD (.number built.results.length)) <;> rfl
  | list =>
    dsimp only
    rw [runFrom_bind, runFrom_listResults page settings query]
    cases built.failure <;> rfl

theorem runFrom_perform_of_error (fails : runFrom request.query.build e = (.error failure, built)) :
    runFrom (perform settings request) e = (.error failure, built) := by
  unfold perform
  rw [runFrom_bind, fails]

/-- A query is built, and after that there is at most its own call. -/
theorem runFrom_perform_cases (settings : Settings) (request : Request) (e : Engine) :
    (∃ failure, runFrom (perform settings request) e =
        (.error failure, (runFrom request.query.build e).2)) ∨
      runFrom (perform settings request) e =
        ((runFrom request.query.build e).2.failure.elim
            (request.outcomeOn settings (runFrom request.query.build e).2) .error,
          (runFrom request.query.build e).2.recordAll [request.terminalCall settings]) := by
  rcases builds : runFrom request.query.build e with ⟨failure | _, built⟩
  · exact .inl ⟨failure, runFrom_perform_of_error builds⟩
  · exact .inr (runFrom_perform builds)

end Service

/-! ### Handling -/

/-- Only a listing has its page checked. -/
def Request.checkLimit (settings : Settings) (request : Request) : Except Failure Unit :=
  if request.operation = .list then request.page.checkLimit settings else .ok ()

theorem runFrom_onEngine {α : Type} (action : EngineM α) (w : World) :
    runFrom (ServiceM.onEngine action) w =
      ((runFrom action w.engine).1, { w with engine := (runFrom action w.engine).2 }) := rfl

namespace Service

variable {ρ : Type} (service : Service ρ) {request : Request} {failure : Failure} {w : World}

/-- What a service makes of the outcome of a performed request. -/
def conclude : Except Failure (Outcome Datum) → Except Failure (Outcome ρ)
  | .ok outcome => service.mapOutcome outcome
  | .error failure => .error (reported service.engineErrors failure)

/-- A request beyond the limit is refused before anything happens. -/
theorem runFrom_handle_of_limit (exceeds : request.checkLimit service.settings = .error failure) :
    runFrom (service.handle request) w = (.error failure, w) := by
  unfold Request.checkLimit at exceeds
  split at exceeds
  · rename_i lists
    unfold handle
    dsimp only
    rw [if_pos lists, exceeds, lift_error_bind, runFrom_throw]
  · cases exceeds

theorem runFrom_handle (within : request.checkLimit service.settings = .ok ()) :
    runFrom (service.handle request) w =
      (service.conclude (runFrom (perform service.settings request) w.engine).1,
        { w with engine := (runFrom (perform service.settings request) w.engine).2 }) := by
  have performs : runFrom (tryCatch (ServiceM.onEngine (perform service.settings request))
        (fun failure => throw (reported service.engineErrors failure)) >>= fun outcome =>
          liftM (service.mapOutcome outcome)) w =
      (service.conclude (runFrom (perform service.settings request) w.engine).1,
        { w with engine := (runFrom (perform service.settings request) w.engine).2 }) := by
    rw [runFrom_bind, runFrom_tryCatch, runFrom_onEngine]
    cases (runFrom (perform service.settings request) w.engine).1 <;> rfl
  unfold Request.checkLimit at within
  unfold handle
  dsimp only
  split at within
  · rename_i lists
    rw [if_pos lists, within, lift_ok_bind]
    exact performs
  · rename_i counts
    rw [if_neg counts]
    exact performs

/-- Nothing but the engine of a world has to do with handling a request. -/
theorem exists_engine_of_handle (request : Request) (w : World) :
    ∃ engine, (runFrom (service.handle request) w).2 = { w with engine } := by
  cases within : request.checkLimit service.settings with
  | error failure => exact ⟨w.engine, by rw [runFrom_handle_of_limit service within]⟩
  | ok _ => exact ⟨_, by rw [runFrom_handle service within]⟩

/-! ### Answering -/

/-- The request that an inquiry stands for: its query is bound, its sorting is checked and its page
is validated. -/
def bound : Inquiry → Except Failure Request
  | .list input first max => do
    let query ← service.queryType.ofInput input
    let page ← Page.of first max
    return ⟨query, .list, page⟩
  | .count input => do
    let query ← service.queryType.ofInput input
    return { query, operation := .count }

/-- What cannot be bound never reaches a middleware. -/
theorem answer_eq (inquiry : Inquiry) :
    service.answer inquiry = liftM (service.bound inquiry) >>= service.execute := by
  cases inquiry with
  | list input first max =>
    simp only [answer, list, executeList, bound, lift_bind, lift_pure, bind_assoc, pure_bind]
  | count input =>
    simp only [answer, count, executeCount, bound, lift_bind, lift_pure, bind_assoc, pure_bind]

theorem makes_of_bound {inquiry : Inquiry} (binds : service.bound inquiry = .ok request) :
    service.queryType.Makes request.query := by
  cases inquiry with
  | list input first max =>
    simp only [bound, bind_eq_ok] at binds
    obtain ⟨query, made, _, _, same⟩ := binds
    cases same
    exact ⟨.request input, made⟩
  | count input =>
    simp only [bound, bind_eq_ok] at binds
    obtain ⟨query, made, same⟩ := binds
    cases same
    exact ⟨.request input, made⟩

end Service
end QueryBinding
