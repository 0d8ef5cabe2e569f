import QueryBinding.Proofs.Catalog.Facet
import QueryBinding.Proofs.Query.Steadiness
import QueryBinding.Proofs.Service.Correlation
/-!
Histories of a service. The engine, its one handle and the place of contexts are shared by all that
is asked of a service, and what fails is not undone. Still, nothing that was asked before shows in
an answer: a history is made of what each of its parts does alone.
-/
namespace QueryBinding

open Engine

/-! ### Requests -/

/-- Gives the same in all worlds whose engines were set up alike, and adds the same to what was
asked of them. Contexts, logs and traces are left open. -/
def Recurs (m : ServiceM α) : Prop :=
  ∀ e : Engine, e.total ≠ some .null → ∃ result calls created,
    ∀ w : World, w.engine.unused = e.unused →
      (runFrom m w).1 = result ∧ (runFrom m w).2.engine = w.engine.extend calls created

namespace Recurs

theorem throw (failure : Failure) : Recurs (MonadExcept.throw failure : ServiceM α) :=
  fun _ _ => ⟨.error failure, [], [], fun w _ => ⟨rfl, (extend_nil w.engine).symm⟩⟩

theorem handedOn {ρ : Type} {m : Middleware ρ} {next : Handler ρ} {request : Request}
    (handsOn : m.HandsOn) (h : Recurs (next request)) : Recurs (m next request) := by
  intro e counted
  obtain ⟨result, calls, created, runs⟩ := h e counted
  refine ⟨result, calls, created, fun w alike => ?_⟩
  obtain ⟨u, same, gives, does⟩ := handsOn next request w
  rw [gives, does, ← same]
  exact runs u (same ▸ alike)

end Recurs

namespace Service

variable {ρ : Type} {service : Service ρ} {request : Request}

theorem memoryless_perform (steady : request.query.type.Steady) (settings : Settings) :
    Memoryless (perform settings request) := by
  intro e counted
  obtain ⟨result, calls, created, builds⟩ := Query.memoryless_build steady e counted
  cases result with
  | error failure =>
    exact ⟨.error failure, calls, created, fun f alike => runFrom_perform_of_error (builds f alike)⟩
  | ok _ =>
    refine ⟨e.failure.elim (request.outcomeOn settings e) .error,
      calls ++ [request.terminalCall settings], created, fun f alike => ?_⟩
    obtain ⟨results, total, failure, _⟩ := setUp_eq alike
    have outcome : request.outcomeOn settings (f.extend calls created) =
        request.outcomeOn settings e := by
      simp only [Request.outcomeOn, Page.resultsOn, extend, results, total]
    rw [runFrom_perform (builds f alike), outcome]
    simp only [extend, recordAll, failure, List.append_assoc]

theorem recurs_handle (service : Service ρ) (steady : request.query.type.Steady) :
    Recurs (service.handle request) := by
  intro e counted
  cases within : request.checkLimit service.settings with
  | error failure =>
    refine ⟨.error failure, [], [], fun w _ => ?_⟩
    rw [runFrom_handle_of_limit service within, extend_nil]
    exact ⟨rfl, rfl⟩
  | ok _ =>
    obtain ⟨result, calls, created, performs⟩ :=
      memoryless_perform steady service.settings e counted
    refine ⟨service.conclude result, calls, created, fun w alike => ?_⟩
    rw [runFrom_handle service within, performs w.engine alike]
    exact ⟨rfl, rfl⟩

variable {stack : List StandardMiddleware}

theorem recurs_execute (standard : service.middleware = stack.map (·.toMiddleware))
    (steady : request.query.type.Steady) : Recurs (service.execute request) := by
  have behind : Recurs (StandardMiddleware.reached stack service.handle request) := by
    unfold StandardMiddleware.reached
    split
    · exact recurs_handle service steady
    · exact .throw _
  have handOn : Middleware.HandsOn (Middleware.chain
      ((stack.takeWhile (·.admits)).map fun m => (m.toMiddleware : Middleware ρ))) := by
    refine Middleware.handsOn_chain fun m mem => ?_
    obtain ⟨own, known, rfl⟩ := List.mem_map.1 mem
    exact StandardMiddleware.handsOn_of_admits (List.all_eq_true.1 List.all_takeWhile own known)
  unfold execute
  rw [standard, StandardMiddleware.chain_eq_chain_takeWhile]
  exact .handedOn handOn behind

end Service

/-! ### Demands -/

/-- What a service is asked for: something that it has to bind first, or a request that is ready. -/
inductive Demand where
  | inquiry (inquiry : Inquiry)
  | ready (request : Request)

/-- The query that a demand leads to leaves the handle as it was set up, if the service has queries
of the given type. -/
def Demand.Steady (type : QueryType) : Demand → Prop
  | inquiry _ => type.Steady
  | ready request => request.query.type.Steady

namespace Service

variable {ρ : Type} {service : Service ρ} {stack : List StandardMiddleware} {demand : Demand}

def serve (service : Service ρ) : Demand → ServiceM (Outcome ρ)
  | .inquiry inquiry => service.answer inquiry
  | .ready request => service.execute request

/-- The answers to demands that are made one after the other, and the world that is left. -/
def serveAll (service : Service ρ) :
    List Demand → World → List (Except Failure (Outcome ρ)) × World
  | [], w => ([], w)
  | demand :: demands, w =>
    let (answer, next) := runFrom (service.serve demand) w
    let (answers, last) := service.serveAll demands next
    (answer :: answers, last)

/-- A demand fails before anything happens, or it is the execution of a request. -/
theorem serve_cases (service : Service ρ) (demand : Demand) :
    (∃ failure, service.serve demand = throw failure) ∨
      ∃ request, service.serve demand = service.execute request ∧
        (demand.Steady service.queryType → request.query.type.Steady) := by
  cases demand with
  | ready request => exact .inr ⟨request, rfl, id⟩
  | inquiry inquiry =>
    rw [serve, answer_eq]
    cases binds : service.bound inquiry with
    | error failure => exact .inl ⟨failure, rfl⟩
    | ok request =>
      have made := (makes_of_bound service binds).type_eq
      exact .inr ⟨request, rfl, fun steady => made ▸ steady⟩

theorem serve_alone (recurs : Recurs (service.serve demand)) {w fresh : World}
    (counted : w.engine.total ≠ some .null) (same : fresh.engine = w.engine.unused) :
    let alone := runFrom (service.serve demand) fresh
    (runFrom (service.serve demand) w).1 = alone.1 ∧
      (runFrom (service.serve demand) w).2.engine =
        w.engine.extend alone.2.engine.calls alone.2.engine.created := by
  obtain ⟨result, calls, created, runs⟩ := recurs w.engine counted
  obtain ⟨gives, does⟩ := runs w rfl
  have alike : fresh.engine.unused = w.engine.unused := by
    rw [same]
    rfl
  obtain ⟨gives', does'⟩ := runs fresh alike
  refine ⟨gives.trans gives'.symm, ?_⟩
  rw [does, does', same]
  rfl

theorem serveAll_alone {demands : List Demand} (recur : ∀ d ∈ demands, Recurs (service.serve d))
    {w fresh : World} (counted : w.engine.total ≠ some .null)
    (same : fresh.engine = w.engine.unused) :
    let alone (d : Demand) := runFrom (service.serve d) fresh
    (service.serveAll demands w).1 = demands.map (fun d => (alone d).1) ∧
      (service.serveAll demands w).2.engine =
        w.engine.extend (demands.flatMap fun d => (alone d).2.engine.calls)
          (demands.flatMap fun d => (alone d).2.engine.created) := by
  induction demands generalizing w with
  | nil => exact ⟨rfl, (extend_nil _).symm⟩
  | cons demand demands ih =>
    obtain ⟨answers, adds⟩ := serve_alone (recur demand List.mem_cons_self) counted same
    -- What a demand leaves is an engine that was set up like the one before.
    let next := (runFrom (service.serve demand) w).2
    have counted' : next.engine.total ≠ some .null := by
      rw [adds]
      exact counted
    have same' : fresh.engine = next.engine.unused := by
      rw [adds]
      exact same
    obtain ⟨others, more⟩ := ih (fun d mem => recur d (List.mem_cons_of_mem _ mem)) counted' same'
    refine ⟨?_, ?_⟩
    · rw [List.map_cons, ← answers, ← others]
      rfl
    · rw [List.flatMap_cons, List.flatMap_cons, ← extend_extend, ← adds, ← more]
      rfl

section Standard

variable (standard : service.middleware = stack.map (·.toMiddleware))

include standard

theorem recurs_serve (steady : demand.Steady service.queryType) :
    Recurs (service.serve demand) := by
  rcases service.serve_cases demand with ⟨failure, serves⟩ | ⟨request, serves, own⟩
  · rw [serves]
    exact .throw failure
  · rw [serves]
    exact recurs_execute standard (own steady)

theorem current_serve (demand : Demand) (w : World) :
    (runFrom (service.serve demand) w).2.context.current = w.context.current := by
  rcases service.serve_cases demand with ⟨failure, serves⟩ | ⟨request, serves, _⟩
  · rw [serves]
    rfl
  · rw [serves, execute, standard]
    exact StandardMiddleware.chain_restores (.inl service.keepsContext_handle)

theorem current_serveAll (demands : List Demand) (w : World) :
    (service.serveAll demands w).2.context.current = w.context.current := by
  induction demands generalizing w with
  | nil => rfl
  | cons demand demands ih => exact (ih _).trans (current_serve standard demand w)

/-- Every demand of a history is answered as it would be by a service on an engine of which nothing
has been asked; the calls on the handle and the factory calls are those that the demands lead to
alone, one after the other; and the context that is in force in the end is the one that was in force
in the beginning. An engine without a count has none in its place, not null. -/
theorem history {demands : List Demand} (steady : ∀ d ∈ demands, d.Steady service.queryType)
    {w fresh : World} (counted : w.engine.total ≠ some .null)
    (same : fresh.engine = w.engine.unused) :
    let alone (d : Demand) := runFrom (service.serve d) fresh
    (service.serveAll demands w).1 = demands.map (fun d => (alone d).1) ∧
      (service.serveAll demands w).2.engine =
        w.engine.extend (demands.flatMap fun d => (alone d).2.engine.calls)
          (demands.flatMap fun d => (alone d).2.engine.created) ∧
      (service.serveAll demands w).2.context.current = w.context.current := by
  obtain ⟨answers, adds⟩ :=
    serveAll_alone (fun d mem => recurs_serve standard (steady d mem)) counted same
  exact ⟨answers, adds, current_serveAll standard demands w⟩

end Standard

/-- A listing, a body that cannot be bound and a count, one after the other. -/
theorem history_of_mixed :
    let service : Service Datum :=
      { queryType := HistoricIncident.queryType
        toResult := .ok
        middleware := [Middleware.loggingAt (.number 20), Middleware.propagation] }
    let demands : List Demand :=
      [.inquiry (.list (.parameters []) .null (.number 1)), .inquiry (.count (.body (.text "x"))),
        .ready ⟨⟨service.queryType, [("resolved", .flag true)], none⟩, .count, {}⟩]
    let w : World :=
      { engine := { results := [.number 1, .number 2] }, context := { current := some {} } }
    (service.serveAll demands w).1 =
        [.ok (.results [.number 1]), .error (.noAttribute "str" "get"), .ok (.count 2)] ∧
      (service.serveAll demands w).2.engine.calls =
        [⟨"list_page", [.number 0, .number 1]⟩, ⟨"resolved", []⟩, ⟨"count", []⟩] ∧
      (service.serveAll demands w).2.context.current = some {} := by
  intro service demands w
  have standard : service.middleware =
      [StandardMiddleware.logging (.number 20), .propagation].map (·.toMiddleware) := rfl
  have direct : service.queryType.Steady := (Catalog.direct .historicIncident).callsApart.steady
  have steady : ∀ d ∈ demands, d.Steady service.queryType := by
    simp only [demands, List.mem_cons, List.not_mem_nil, or_false, forall_eq_or_imp, forall_eq]
    exact ⟨direct, direct, direct⟩
  let fresh : World := { engine := { results := [.number 1, .number 2] } }
  have same : fresh.engine = w.engine.unused := rfl
  obtain ⟨answers, adds, current⟩ := history standard steady (by simp [w]) same
  have gives : demands.map (fun d => (runFrom (service.serve d) fresh).1) =
      [.ok (.results [.number 1]), .error (.noAttribute "str" "get"), .ok (.count 2)] := by
    dsimp only [demands, fresh, service, List.map]
    rfl
  have calls : demands.flatMap (fun d => (runFrom (service.serve d) fresh).2.engine.calls) =
      [⟨"list_page", [.number 0, .number 1]⟩, ⟨"resolved", []⟩, ⟨"count", []⟩] := by
    dsimp only [demands, fresh, service, List.flatMap, List.map]
    rfl
  refine ⟨answers.trans gives, ?_, current⟩
  rw [adds, extend, calls]
  rfl

/-- An ordering that is named like the member that makes a handle anew loses the results of all
later demands. -/
theorem not_history_of_renewal :
    ∃ type, Declaration.toQueryType { name := "T", sortFields := [("a", "__init__")] } = .ok type ∧
      let service : Service Datum := { queryType := type, toResult := .ok }
      let sorted : RawParameters := [("sortBy", ["a"]), ("sortOrder", ["asc"])]
      let all : Demand := .inquiry (.list (.parameters []) .null .null)
      let w : World := { engine := { results := [.number 1] } }
      (runFrom (service.serve all) w).1 = .ok (.results [.number 1]) ∧
        (service.serveAll [.inquiry (.list (.parameters sorted) .null .null), all] w).1 =
          [.ok (.results []), .ok (.results [])] :=
  ⟨_, rfl, rfl, rfl⟩

end Service
end QueryBinding
