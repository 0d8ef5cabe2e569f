import QueryBinding.Proofs.Run
import QueryBinding.Service.Middleware
/-!
What middlewares do with requests. One that hands requests on does so once, in a world whose engine
it has not touched, and gives what comes back; so what a request gives and does to the engine is what
it gives and does behind the middleware, and behind a chain of them. One that only relays requests
may refuse them, change their page or recover from failures, but it keeps the query and leaves the
engine to the handler behind it; so what that handler keeps of the engine is kept.
-/
namespace QueryBinding.Middleware

variable {ρ : Type}

def HandsOn (m : Middleware ρ) : Prop :=
  ∀ next request w, ∃ u : World, u.engine = w.engine ∧
    (runFrom (m next request) w).1 = (runFrom (next request) u).1 ∧
    (runFrom (m next request) w).2.engine = (runFrom (next request) u).2.engine

theorem handsOn_propagation : HandsOn (propagation : Middleware ρ) := by
  intro next request w
  unfold propagation
  rw [runFrom_bind_ok (runFrom_liftState _ w)]
  split
  · exact ⟨w, rfl, rfl, rfl⟩
  · -- The request is handled in the same world, but for the context.
    let entered : Context := ⟨some (.issued w.context.issued)⟩
    exact ⟨{ w with context := ⟨some entered, w.context.issued + 1⟩ }, rfl, rfl, rfl⟩

/-- Writing a record succeeds and leaves the engine alone. -/
theorem runFrom_log_bind {α : Type} (record : LogRecord) (rest : ServiceM α) (w : World) :
    ∃ u, u.engine = w.engine ∧
      runFrom (ServiceM.log record >>= fun _ => rest) w = runFrom rest u := by
  refine ⟨_, ?_, runFrom_bind_ok (runFrom_modify _ w)⟩
  split <;> rfl

/-- What `logging` does with a failure: it is thrown again, with at most a record in between. -/
def rethrow {α : Type} (record : FailureKind → LogRecord) (failure : Failure) : ServiceM α := do
  if failure.isA .service then ServiceM.log (record failure.kind)
  throw failure

theorem runFrom_rethrow {α : Type} (record : FailureKind → LogRecord) (failure : Failure)
    (w : World) : ∃ u, u.engine = w.engine ∧
      runFrom (rethrow record failure : ServiceM α) w = (.error failure, u) := by
  unfold rethrow
  dsimp only
  split
  · obtain ⟨u, same, runs⟩ := runFrom_log_bind (record failure.kind) (throw failure : ServiceM α) w
    exact ⟨u, same, runs⟩
  · exact ⟨w, rfl, rfl⟩

theorem handsOn_logging (level : Nat) : HandsOn (logging level : Middleware ρ) := by
  intro next request w
  let record (event : LogEvent) : LogRecord :=
    ⟨level, event, request.query.type.name, request.operation,
      (Context.inForce w.context).correlationId⟩
  obtain ⟨u, same, runs⟩ := runFrom_log_bind (record .executing)
    (tryCatch (next request) (rethrow fun kind => record (.failed kind))) w
  have handled : runFrom (logging level next request) w =
      runFrom (tryCatch (next request) (rethrow fun kind => record (.failed kind))) u := runs
  rw [handled, runFrom_tryCatch]
  refine ⟨u, same, ?_⟩
  rcases runFrom (next request) u with ⟨failure | outcome, after⟩
  · obtain ⟨t, kept, rethrows⟩ :=
      runFrom_rethrow (α := Outcome ρ) (fun kind => record (.failed kind)) failure after
    dsimp only
    rw [rethrows]
    exact ⟨rfl, kept⟩
  · exact ⟨rfl, rfl⟩

/-- A chain of middlewares that hand on hands on. -/
theorem handsOn_chain {middlewares : List (Middleware ρ)} (each : ∀ m ∈ middlewares, HandsOn m) :
    HandsOn (chain middlewares) := by
  intro next request w
  induction middlewares generalizing w with
  | nil => exact ⟨w, rfl, rfl, rfl⟩
  | cons m middlewares ih =>
    have rest := ih fun other mem => each other (List.mem_cons_of_mem _ mem)
    obtain ⟨u, kept, gives, does⟩ :=
      each m List.mem_cons_self (chain middlewares next) request w
    obtain ⟨t, kept', gives', does'⟩ := rest u
    exact ⟨t, kept'.trans kept, gives.trans gives', does.trans does'⟩

/-! ### Relaying -/

/-- Keeps of the engine whatever the handler behind it keeps for requests with the same query. -/
def Relays (m : Middleware ρ) : Prop :=
  ∀ (kept : Engine → Prop) (query : Query) (next : Handler ρ),
    (∀ operation page, Confined (fun w => kept w.engine) (fun _ => True)
      (next ⟨query, operation, page⟩)) →
    ∀ operation page, Confined (fun w => kept w.engine) (fun _ => True)
      (m next ⟨query, operation, page⟩)

theorem HandsOn.relays {m : Middleware ρ} (handsOn : m.HandsOn) : m.Relays := by
  intro kept query next keeps operation page w (held : kept w.engine)
  obtain ⟨u, same, _, does⟩ := handsOn next ⟨query, operation, page⟩ w
  rw [← same] at held
  have behind : kept (runFrom (next ⟨query, operation, page⟩) u).2.engine :=
    (keeps operation page u held).1
  rw [← does] at behind
  exact ⟨behind, fun _ _ => trivial⟩

theorem relays_denyCounts : Relays (denyCounts : Middleware ρ) := by
  intro kept query next keeps operation page
  cases operation with
  | count => exact .throw trivial
  | list => exact keeps .list page

theorem relays_substitutePage (first max : Datum) :
    Relays (substitutePage first max : Middleware ρ) := by
  intro kept query next keeps operation page
  exact .bind (.lift fun _ _ => trivial) fun other => keeps operation other

theorem confined_note (kept : Engine → Prop) (entry : TraceNote) :
    Confined (fun w => kept w.engine) (fun _ => True) (ServiceM.note entry) :=
  .modify fun _ held => held

theorem relays_capture : Relays (capture : Middleware ρ) := by
  intro kept query next keeps operation page
  exact (confined_note kept _).bind fun _ => keeps operation page

theorem relays_track (name : String) : Relays (track name : Middleware ρ) := by
  intro kept query next keeps operation page
  refine (confined_note kept _).bind fun _ => (keeps operation page).bind fun outcome => ?_
  exact (confined_note kept _).bind fun _ => .pure outcome

theorem relays_recover : Relays (recover : Middleware ρ) := by
  intro kept query next keeps operation page
  refine .tryCatch (keeps operation page) fun failure => ?_
  split
  · exact (confined_note kept _).bind fun _ => .pure _
  · exact .throw trivial

theorem relays_chain {middlewares : List (Middleware ρ)} (each : ∀ m ∈ middlewares, Relays m) :
    Relays (chain middlewares) := by
  intro kept query next keeps operation page
  induction middlewares generalizing operation page with
  | nil => exact keeps operation page
  | cons m middlewares ih =>
    have rest := ih fun other mem => each other (List.mem_cons_of_mem _ mem)
    exact each m List.mem_cons_self kept query (chain middlewares next) rest operation page

end QueryBinding.Middleware
