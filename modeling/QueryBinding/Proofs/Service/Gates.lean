import QueryBinding.Proofs.Catalog.Calls
import QueryBinding.Proofs.Service.Handling
import QueryBinding.Service.Middleware
/-!
Gates in front of a handler. A gate notes the way of a request in and out, or refuses the request.
What a chain of gates does follows from its trackers up to the first gate that refuses: they are
passed in order on the way in and in the reverse order on the way out, and behind a gate that
refuses nothing happens at all.
-/
namespace QueryBinding

/-- The world after notes were made. -/
def World.noted (notes : List TraceNote) (w : World) : World := { w with trace := w.trace ++ notes }

namespace World

variable {w : World} {notes : List TraceNote}

@[simp] theorem noted_nil (w : World) : w.noted [] = w := by
  simp only [noted, List.append_nil]

@[simp] theorem noted_noted (w : World) (notes more : List TraceNote) :
    (w.noted notes).noted more = w.noted (notes ++ more) := by
  simp only [noted, List.append_assoc]

end World

theorem ServiceM.runFrom_note_then (entry : TraceNote) (rest : ServiceM α) (w : World) :
    runFrom (ServiceM.note entry >>= fun _ => rest) w = runFrom rest (w.noted [entry]) :=
  runFrom_bind_ok (runFrom_modify _ w)

/-- A middleware that notes the way in and out, or one that fails without handing a request on. -/
inductive Gate where
  | tracker (name : String)
  | denier (failure : Failure)

namespace Gate

variable {ρ : Type} {handler : Handler ρ} {request : Request} {w : World}

def toMiddleware : Gate → Middleware ρ
  | tracker name => Middleware.track name
  | denier failure => fun _ _ => throw failure

theorem toMiddleware_denier (message : String) :
    toMiddleware (denier (.invalidRequest (.other message))) =
      (Middleware.deny message : Middleware ρ) :=
  rfl

def entries (names : List String) : List TraceNote := names.map .before

def exits (names : List String) : List TraceNote := names.reverse.map .after

/-- What comes back through trackers: after a success they note the way out, the last one first. -/
def left (names : List String) :
    Except Failure (Outcome ρ) × World → Except Failure (Outcome ρ) × World
  | (.ok outcome, after) => (.ok outcome, after.noted (exits names))
  | (.error failure, after) => (.error failure, after)

theorem left_nil (run : Except Failure (Outcome ρ) × World) : left [] run = run := by
  obtain ⟨_ | _, after⟩ := run
  · rfl
  · simp only [left, exits, List.reverse_nil, List.map_nil, World.noted_nil]

theorem left_cons (name : String) (names : List String)
    (run : Except Failure (Outcome ρ) × World) :
    left [name] (left names run) = left (name :: names) run := by
  obtain ⟨_ | _, after⟩ := run
  · rfl
  · simp only [left, exits, World.noted_noted, List.reverse_cons, List.map_append, List.reverse_nil,
      List.nil_append]

theorem runFrom_track (name : String) (next : Handler ρ) (request : Request) (w : World) :
    runFrom (Middleware.track name next request) w =
      left [name] (runFrom (next request) (w.noted [.before name])) := by
  have enters : runFrom (Middleware.track name next request) w =
      runFrom (next request >>= fun outcome => do
        ServiceM.note (.after name)
        return outcome) (w.noted [.before name]) :=
    ServiceM.runFrom_note_then _ _ w
  rw [enters, runFrom_bind]
  rcases runFrom (next request) (w.noted [.before name]) with ⟨failure | outcome, after⟩
  · rfl
  · exact ServiceM.runFrom_note_then _ _ after

/-- Trackers at the front of a chain are passed on the way in and on the way out. -/
theorem runFrom_chain_trackers (names : List String) (behind : List (Middleware ρ))
    (handler : Handler ρ) (request : Request) (w : World) :
    runFrom (Middleware.chain (names.map Middleware.track ++ behind) handler request) w =
      left names (runFrom (Middleware.chain behind handler request) (w.noted (entries names))) := by
  induction names generalizing w with
  | nil => simp only [entries, List.map_nil, List.nil_append, World.noted_nil, left_nil]
  | cons name names ih =>
    have first : runFrom
          (Middleware.chain ((name :: names).map Middleware.track ++ behind) handler request) w =
        left [name] (runFrom
          (Middleware.chain (names.map Middleware.track ++ behind) handler request)
          (w.noted [.before name])) :=
      runFrom_track name _ request w
    rw [first, ih, left_cons, World.noted_noted]
    rfl

theorem runFrom_chain_denied (names : List String) (failure : Failure)
    (behind : List (Middleware ρ)) (handler : Handler ρ) (request : Request) (w : World) :
    runFrom (Middleware.chain
        (names.map Middleware.track ++ (denier failure).toMiddleware :: behind) handler request) w =
      (.error failure, w.noted (entries names)) := by
  have refuses : runFrom
        (Middleware.chain ((denier failure).toMiddleware :: behind) handler request)
        (w.noted (entries names)) = (.error failure, w.noted (entries names)) :=
    runFrom_throw _ _
  rw [runFrom_chain_trackers, refuses, left]

theorem map_toMiddleware_trackers (names : List String) :
    (names.map tracker).map toMiddleware = names.map (Middleware.track : String → Middleware ρ) :=
  List.map_map

theorem runFrom_chain_passed (names : List String) (handler : Handler ρ) (request : Request)
    (w : World) :
    runFrom (Middleware.chain ((names.map tracker).map toMiddleware) handler request) w =
      left names (runFrom (handler request) (w.noted (entries names))) := by
  rw [map_toMiddleware_trackers, ← List.append_nil (names.map Middleware.track)]
  exact runFrom_chain_trackers names [] handler request w

/-- How a request fares in front of a handler and behind it. -/
inductive Passage (handler : Handler ρ) (request : Request) (w : World) :
    List Gate → Except Failure (Outcome ρ) → World → Prop
  | returned {names : List String} {outcome : Outcome ρ} {after : World}
      (handled : runFrom (handler request) (w.noted (entries names)) = (.ok outcome, after)) :
    Passage handler request w (names.map tracker) (.ok outcome) (after.noted (exits names))
  | failed {names : List String} {failure : Failure} {after : World}
      (handled : runFrom (handler request) (w.noted (entries names)) = (.error failure, after)) :
    Passage handler request w (names.map tracker) (.error failure) after
  | denied {names : List String} {failure : Failure} {behind : List Gate} :
    Passage handler request w (names.map tracker ++ denier failure :: behind) (.error failure)
      (w.noted (entries names))

theorem Passage.runFrom_eq {gates : List Gate} {result : Except Failure (Outcome ρ)} {after : World}
    (passage : Passage handler request w gates result after) :
    runFrom (Middleware.chain (gates.map toMiddleware) handler request) w = (result, after) := by
  cases passage with
  | returned handled => rw [runFrom_chain_passed, handled, left]
  | failed handled => rw [runFrom_chain_passed, handled, left]
  | @denied names failure behind =>
    rw [List.map_append, List.map_cons, map_toMiddleware_trackers]
    exact runFrom_chain_denied names failure (behind.map toMiddleware) handler request w

/-- Gates are trackers, up to the first one that refuses if there is one. -/
theorem trackers_or_denier (gates : List Gate) :
    (∃ names : List String, gates = names.map tracker) ∨
      ∃ (names : List String) (failure : Failure) (behind : List Gate),
        gates = names.map tracker ++ denier failure :: behind := by
  induction gates with
  | nil => exact .inl ⟨[], rfl⟩
  | cons gate gates ih =>
    cases gate with
    | denier failure => exact .inr ⟨[], failure, gates, rfl⟩
    | tracker name =>
      rcases ih with ⟨names, rfl⟩ | ⟨names, failure, behind, rfl⟩
      · exact .inl ⟨name :: names, rfl⟩
      · exact .inr ⟨name :: names, failure, behind, rfl⟩

theorem exists_passage (handler : Handler ρ) (request : Request) (w : World) (gates : List Gate) :
    ∃ result after, Passage handler request w gates result after := by
  rcases trackers_or_denier gates with ⟨names, rfl⟩ | ⟨names, failure, behind, rfl⟩
  · rcases handled : runFrom (handler request) (w.noted (entries names)) with
      ⟨failure | outcome, after⟩
    · exact ⟨_, _, .failed handled⟩
    · exact ⟨_, _, .returned handled⟩
  · exact ⟨_, _, .denied⟩

theorem runFrom_chain_iff {gates : List Gate} {result : Except Failure (Outcome ρ)}
    {after : World} :
    runFrom (Middleware.chain (gates.map toMiddleware) handler request) w = (result, after) ↔
      Passage handler request w gates result after := by
  constructor
  · intro runs
    obtain ⟨result', after', passage⟩ := exists_passage handler request w gates
    cases passage.runFrom_eq.symm.trans runs
    exact passage
  · exact Passage.runFrom_eq

end Gate

namespace Service

open Gate

variable {ρ : Type} (service : Service ρ)

/-- What was noted before makes no difference to handling a request. -/
theorem runFrom_handle_noted (request : Request) (w : World) (notes : List TraceNote) :
    runFrom (service.handle request) (w.noted notes) =
      ((runFrom (service.handle request) w).1,
        (runFrom (service.handle request) w).2.noted notes) := by
  cases within : request.checkLimit service.settings with
  | error failure => simp only [runFrom_handle_of_limit service within]
  | ok _ => simp only [runFrom_handle service within, World.noted]

/-- The notes of trackers stand around what the handler of a service does, and the first gate that
refuses a request keeps it from everything behind, whatever that is. -/
theorem execute_passes_gates {gates : List Gate}
    (guarded : service.middleware = gates.map toMiddleware) (w : World) :
    (∀ request result after, runFrom (service.execute request) w = (result, after) ↔
      Passage service.handle request w gates result after) ∧
    (∀ query page result after, runFrom (service.executeList query page) w = (result, after) ↔
      Passage service.handle ⟨query, .list, page⟩ w gates result after) ∧
    (∀ query result after, runFrom (service.executeCount query) w = (result, after) ↔
      Passage service.handle ⟨query, .count, .unbounded⟩ w gates result after) ∧
    (∀ request notes, runFrom (service.handle request) (w.noted notes) =
      ((runFrom (service.handle request) w).1,
        (runFrom (service.handle request) w).2.noted notes)) ∧
    (∀ (names : List String) failure (behind : List (Middleware ρ)) (handler : Handler ρ) request,
      runFrom (Middleware.chain (names.map Middleware.track ++
          (denier failure).toMiddleware :: behind) handler request) w =
        (.error failure, { w with trace := w.trace ++ names.map .before })) := by
  have runs (request : Request) (result : Except Failure (Outcome ρ)) (after : World) :
      runFrom (service.execute request) w = (result, after) ↔
        Passage service.handle request w gates result after := by
    rw [execute, guarded]
    exact runFrom_chain_iff
  refine ⟨runs, fun _ _ => runs _, fun _ => runs _, ?_, ?_⟩
  · exact fun request notes => runFrom_handle_noted service request w notes
  · exact fun names failure behind handler request =>
      runFrom_chain_denied names failure behind handler request w

theorem execute_passes_gates_between :
    ∃ (service guarded : Service Datum) (query : Query),
      query = ⟨HistoricIncident.queryType, [("resolved", .flag true)], none⟩ ∧
      service.middleware = [Middleware.track "outer", Middleware.track "inner"] ∧
      runFrom (service.executeCount query) {} =
        (.ok (.count 0),
          { engine :=
              { created := ["create_historic_incident_query"]
                calls := [⟨"resolved", []⟩, ⟨"count", []⟩] }
            trace := [.before "outer", .before "inner", .after "inner", .after "outer"] }) ∧
      guarded.middleware =
        [Middleware.track "outer", Middleware.deny "denied", Middleware.track "inner"] ∧
      runFrom (guarded.executeList query) {} =
        (.error (.invalidRequest (.other "denied")), { trace := [.before "outer"] }) := by
  let denied : Failure := .invalidRequest (.other "denied")
  let openGates : List Gate := [.tracker "outer", .tracker "inner"]
  let shutGates : List Gate := [.tracker "outer", .denier denied, .tracker "inner"]
  let service : Service Datum :=
    { queryType := HistoricIncident.queryType
      toResult := .ok
      middleware := openGates.map toMiddleware }
  let guarded : Service Datum := { service with middleware := shutGates.map toMiddleware }
  let query : Query := ⟨HistoricIncident.queryType, [("resolved", .flag true)], none⟩
  have passing : service.middleware = openGates.map toMiddleware := rfl
  have stopping : guarded.middleware = shutGates.map toMiddleware := rfl
  obtain ⟨-, -, counts, handled, -⟩ := execute_passes_gates service passing {}
  obtain ⟨-, lists, -⟩ := execute_passes_gates guarded stopping {}
  let engine : Engine :=
    { created := ["create_historic_incident_query"], calls := [⟨"resolved", []⟩, ⟨"count", []⟩] }
  have made : QueryType.Makes (Catalog.queryType .historicIncident) query :=
    ⟨.request (.parameters [("resolved", ["true"])]), rfl⟩
  have alone : runFrom (service.handle ⟨query, .count, .unbounded⟩) {} =
      (.ok (.count 0), { engine }) := by
    rw [runFrom_handle service rfl, runFrom_perform (Catalog.runFrom_build made rfl)]
    rfl
  have behind : runFrom (service.handle ⟨query, .count, .unbounded⟩)
      (World.noted (entries ["outer", "inner"]) {}) =
        (.ok (.count 0), World.noted (entries ["outer", "inner"]) { engine }) := by
    rw [handled, alone]
  refine ⟨service, guarded, query, rfl, rfl, ?_, ?_, ?_⟩
  · exact (counts query _ _).2 (.returned behind)
  · exact congrArg (fun m => [Middleware.track "outer", m, Middleware.track "inner"])
      (toMiddleware_denier "denied")
  · exact (lists query _ _ _).2 (@Passage.denied _ _ _ _ ["outer"] denied [.tracker "inner"])

end Service
end QueryBinding
