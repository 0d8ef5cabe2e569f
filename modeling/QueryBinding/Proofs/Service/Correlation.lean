import QueryBinding.Catalog.HistoricIncident
import QueryBinding.Proofs.Service.Handling
import QueryBinding.Proofs.Service.Stack
/-!
Identifiers on the way of a request. An identifier that is in force stays in force. Where there is
none, the first middleware that sees to it issues one for all that lies behind it, and what was in
force before is back in the end, whatever is done in between.
-/
namespace QueryBinding

/-- Leaves in force what it finds in force. -/
def Handler.KeepsContext (next : Handler ρ) : Prop :=
  ∀ request w, (runFrom (next request) w).2.context.current = w.context.current

/-- What a request is handled in behind middlewares to which it came in the world `w`. -/
structure Correlated (front : List StandardMiddleware) (w u : World) : Prop where
  kept : w.correlationId.isSome = true → u.context = w.context
  missing : w.correlationId = none → .propagation ∉ front → u.context = w.context
  /-- However many of these there are, they issue one identifier. -/
  issued : w.correlationId = none → .propagation ∈ front →
    u.context =
      { current := some ⟨some (.issued w.context.issued)⟩, issued := w.context.issued + 1 }

namespace StandardMiddleware

variable {ρ : Type} {m : StandardMiddleware} {stack front : List StandardMiddleware}
  {request : Request} {w after : World} {c : ContextState}

/-! ### The way in -/

theorem contextBehind_of_known (known : (Context.inForce c).correlationId.isSome = true) :
    m.contextBehind c = c := by
  cases m with
  | propagation => exact if_pos known
  | logging level => rfl

theorem contextsBehind_of_known (known : (Context.inForce c).correlationId.isSome = true)
    (stack : List StandardMiddleware) : contextsBehind stack c = c := by
  induction stack with
  | nil => rfl
  | cons m stack ih =>
    unfold contextsBehind at ih ⊢
    rw [List.foldl_cons, contextBehind_of_known known, ih]

theorem contextsBehind_of_not_mem (absent : .propagation ∉ stack) (c : ContextState) :
    contextsBehind stack c = c := by
  induction stack with
  | nil => rfl
  | cons m stack ih =>
    have rest := ih fun mem => absent (List.mem_cons_of_mem _ mem)
    cases m with
    | propagation => exact absurd List.mem_cons_self absent
    | logging level => exact rest

theorem contextsBehind_of_unknown (unknown : (Context.inForce c).correlationId = none)
    (mem : .propagation ∈ stack) :
    contextsBehind stack c =
      { current := some ⟨some (.issued c.issued)⟩, issued := c.issued + 1 } := by
  induction stack with
  | nil => cases mem
  | cons m stack ih =>
    cases m with
    | propagation =>
      have issues : propagation.contextBehind c =
          { current := some ⟨some (.issued c.issued)⟩, issued := c.issued + 1 } := by
        simp only [contextBehind, unknown, Option.isSome_none, Bool.false_eq_true, if_false]
      change contextsBehind stack (propagation.contextBehind c) = _
      rw [issues]
      exact contextsBehind_of_known rfl stack
    | logging level => exact ih ((List.mem_cons.1 mem).resolve_left (by simp))

theorem correlated_entry (front : List StandardMiddleware) (request : Request) (w : World) :
    Correlated front w (entry front request w) where
  kept := by
    intro known
    rw [entry_eq, contextsBehind_of_known known]
  missing := by
    intro _ absent
    rw [entry_eq, contextsBehind_of_not_mem absent]
  issued := by
    intro unknown mem
    rw [entry_eq, contextsBehind_of_unknown unknown mem]

/-! ### The way out -/

theorem left_current {result : Except Failure α}
    (kept : after.context.current = (m.contextBehind w.context).current) :
    (m.left request w result after).context.current = w.context.current := by
  cases m with
  | propagation =>
    unfold left
    dsimp only
    split
    · rename_i known
      rw [kept, contextBehind_of_known known]
    · rfl
  | logging level => exact kept

theorem exit_current {result : Except Failure α}
    (kept : after.context.current = (contextsBehind stack w.context).current) :
    (exit request result stack w after).context.current = w.context.current := by
  induction stack generalizing w with
  | nil => exact kept
  | cons m stack ih =>
    have behind := ih (w := m.entered request w) kept
    exact left_current behind

/-- What was in force is put back by the middleware that issued an identifier, whatever happened
behind it. -/
theorem exit_current_of_unknown {result : Except Failure α} (unknown : w.correlationId = none)
    (mem : .propagation ∈ stack) :
    (exit request result stack w after).context.current = w.context.current := by
  induction stack generalizing w with
  | nil => cases mem
  | cons m stack ih =>
    cases m with
    | propagation =>
      -- It issues the identifier, so it restores whatever is left behind it.
      simp only [exit, left, unknown, Option.isSome_none, Bool.false_eq_true, if_false,
        World.restore]
    | logging level =>
      have later := (List.mem_cons.1 mem).resolve_left (by simp)
      exact ih (w := (logging level).entered request w) unknown later

/-! ### Chains -/

theorem chain_refuses (mem : m ∈ stack) (refuses : m.admits = false) (next : Handler ρ)
    (request : Request) (w : World) :
    (runFrom (Middleware.chain (stack.map toMiddleware) next request) w).1 =
      .error (.misuse .notLevel) := by
  have stops : stack.all (·.admits) = false := List.all_eq_false.2 ⟨m, mem, by simp [refuses]⟩
  rw [runFrom_chain_reached, reached, stops]
  rfl

theorem chain_restores {next : Handler ρ}
    (keeps : next.KeepsContext ∨
      w.correlationId = none ∧ .propagation ∈ stack.takeWhile (·.admits)) :
    (runFrom (Middleware.chain (stack.map toMiddleware) next request) w).2.context.current =
      w.context.current := by
  rw [runFrom_chain_reached]
  rcases keeps with keeps | ⟨unknown, mem⟩
  · refine exit_current ?_
    unfold reached
    split
    · rw [keeps request, entry_eq]
    · rw [runFrom_throw, entry_eq]
  · exact exit_current_of_unknown unknown mem

theorem chain_passes (allAdmit : ∀ m ∈ front, m.admits = true) (back : List StandardMiddleware)
    (next : Handler ρ) (request : Request) (w : World) :
    let u := entry front request w
    let before := runFrom (Middleware.chain ((front ++ back).map toMiddleware) next request) w
    let behind := runFrom (Middleware.chain (back.map toMiddleware) next request) u
    before.1 = behind.1 ∧ before.2.engine = behind.2.engine ∧
      before.2.context.issued = behind.2.context.issued := by
  intro u before behind
  simp only [before, chain_append, runFrom_chain allAdmit]
  obtain ⟨_, leaves⟩ := exit_eq front request w behind.2 behind.1
  rw [leaves]
  exact ⟨rfl, rfl, rfl⟩

/-- What becomes of identifiers and contexts in a chain of middlewares. What was in force is in
force again after every request, if the handler keeps it or a new identifier was issued. What lies
behind any of the middlewares gets the request once, in a context as in `Correlated`, and its result
and its effects are those of the chain; so the outcome of the handler is handed back as it is,
unless a middleware refuses all requests, which lets none of them through to any handler. -/
theorem correlates (stack : List StandardMiddleware) (request : Request) (w : World) :
    (∀ next : Handler ρ,
      (next.KeepsContext ∨ w.correlationId = none ∧ .propagation ∈ stack.takeWhile (·.admits)) →
      (runFrom (Middleware.chain (stack.map toMiddleware) next request) w).2.context.current =
        w.context.current) ∧
    (∀ front back, stack = front ++ back → (∀ m ∈ front, m.admits = true) →
      ∃ u, Correlated front w u ∧ ∀ next : Handler ρ,
        let before := runFrom (Middleware.chain (stack.map toMiddleware) next request) w
        let behind := runFrom (Middleware.chain (back.map toMiddleware) next request) u
        before.1 = behind.1 ∧ before.2.engine = behind.2.engine ∧
          before.2.context.issued = behind.2.context.issued) ∧
    ∀ m ∈ stack, m.admits = false → ∀ next : Handler ρ,
      (runFrom (Middleware.chain (stack.map toMiddleware) next request) w).1 =
        .error (.misuse .notLevel) := by
  refine ⟨fun next => chain_restores, ?_, fun m mem refuses next => ?_⟩
  · rintro front back rfl allAdmit
    exact ⟨entry front request w, correlated_entry front request w,
      fun next => chain_passes allAdmit back next request w⟩
  · exact chain_refuses mem refuses next request w

/-- A context without an identifier is put back after a failure behind two middlewares that see to
identifiers; what lies behind the first of them is handled under the one that it issued. -/
theorem correlates_failed :
    let stack : List StandardMiddleware := [logging (.number 20), propagation, propagation]
    let next : Handler Datum := fun _ => throw (.invalidRequest (.other "no"))
    let request : Request := ⟨⟨HistoricIncident.queryType, [], none⟩, .list, {}⟩
    let w : World := { context := { current := some {} } }
    let after := runFrom (Middleware.chain (stack.map toMiddleware) next request) w
    after.1 = .error (.invalidRequest (.other "no")) ∧ after.2.context.current = some {} ∧
      ∃ u, u.correlationId = some (.issued 0) ∧
        after.1 = (runFrom (Middleware.chain [Middleware.propagation] next request) u).1 := by
  intro stack next request w after
  obtain ⟨restores, passes, _⟩ := correlates (ρ := Datum) stack request w
  have keeps : next.KeepsContext := fun _ _ => rfl
  obtain ⟨u, seen, same⟩ := passes [logging (.number 20), propagation] [propagation] rfl (by decide)
  refine ⟨rfl, restores next (.inl keeps), u, ?_, (same next).1⟩
  rw [World.correlationId, seen.issued rfl (by decide)]
  rfl

/-- A middleware for logs that was made with the name of no level does not hand back the results of
the handler. -/
theorem not_correlates_of_styles :
    ∃ level, LogLevel.ofName "_styles" = .ok level ∧
      let stack : List StandardMiddleware := [propagation, logging level]
      let next : Handler Datum := fun _ => return .results [.number 1]
      let request : Request := ⟨⟨HistoricIncident.queryType, [], none⟩, .list, {}⟩
      (runFrom (next request) {}).1 = .ok (.results [.number 1]) ∧
        (runFrom (Middleware.chain (stack.map toMiddleware) next request) {}).1 =
          .error (.misuse .notLevel) :=
  ⟨_, rfl, rfl, rfl⟩

end StandardMiddleware

theorem Service.keepsContext_handle {ρ : Type} (service : Service ρ) :
    Handler.KeepsContext service.handle := by
  intro request w
  obtain ⟨_, leaves⟩ := service.exists_engine_of_handle request w
  rw [leaves]

end QueryBinding
