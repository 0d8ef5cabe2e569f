import QueryBinding.Proofs.Service.Activity
/-!
The way of a request through middlewares for contexts and logs. Each of them hands the request on
once, in a world that it has entered, and leaves what comes back in a world that it has put in
order: `runFrom_toMiddleware` is what one of them does, and what a chain of them does follows from
it.
-/
namespace QueryBinding

/-! ### Worlds -/

/-- Whether a record of that level is written at all. -/
def LogRecord.isKept (threshold : Nat) (record : LogRecord) : Bool :=
  record.level != 0 && decide (threshold ≤ record.level)

namespace World

def correlationId (w : World) : Option CorrelationId := (Context.inForce w.context).correlationId

/-- The world after records were written, as far as their levels are high enough. -/
def write (records : List LogRecord) (w : World) : World :=
  { w with log := w.log ++ records.filter (·.isKept w.logThreshold) }

/-- The world with the context in force that was in force in another one. -/
def restore (before : World) (w : World) : World :=
  { w with context := { w.context with current := before.context.current } }

@[simp] theorem write_nil (w : World) : w.write [] = w := by simp [write]

theorem write_append (records more : List LogRecord) (w : World) :
    w.write (records ++ more) = (w.write records).write more := by
  simp only [write, List.filter_append, List.append_assoc]

end World

theorem ServiceM.runFrom_log (record : LogRecord) (w : World) :
    runFrom (ServiceM.log record) w = (.ok (), w.write [record]) := by
  unfold ServiceM.log World.write LogRecord.isKept
  rw [runFrom_modify]
  by_cases dropped : record.level = 0 ∨ record.level < w.logThreshold
  · have refused : (record.level != 0 && decide (w.logThreshold ≤ record.level)) = false := by
      simp only [Bool.and_eq_false_iff, bne_eq_false_iff_eq, decide_eq_false_iff_not, Nat.not_le]
      exact dropped
    simp [dropped, refused]
  · have kept : (record.level != 0 && decide (w.logThreshold ≤ record.level)) = true := by
      simp only [not_or, Nat.not_lt] at dropped
      simp [dropped]
    simp [dropped, kept]

theorem ServiceM.runFrom_log_then (record : LogRecord) (rest : ServiceM α) (w : World) :
    runFrom (ServiceM.log record >>= fun _ => rest) w = runFrom rest (w.write [record]) :=
  runFrom_bind_ok (ServiceM.runFrom_log record w)

/-- What there is to log about a result: a failure of the service's own. -/
def failureEvent? : Except Failure α → Option LogEvent
  | .ok _ => none
  | .error failure => if failure.isA .service then some (.failed failure.kind) else none

/-! ### One middleware -/

namespace StandardMiddleware

/-- The contexts in which a middleware hands requests on. -/
def contextBehind (m : StandardMiddleware) (c : ContextState) : ContextState :=
  match m with
  | propagation =>
    if (Context.inForce c).correlationId.isSome then c
    else { current := some ⟨some (.issued c.issued)⟩, issued := c.issued + 1 }
  | logging _ => c

def recordsOf (m : StandardMiddleware) (event : LogEvent) (request : Request) (c : ContextState) :
    List LogRecord :=
  match m with
  | logging (.number level) =>
    [⟨level, event, request.query.type.name, request.operation, (Context.inForce c).correlationId⟩]
  | _ => []

def entered (m : StandardMiddleware) (request : Request) (w : World) : World :=
  { w.write (m.recordsOf .executing request w.context) with context := m.contextBehind w.context }

/-- The world that a middleware leaves, after the request was handled behind it. -/
def left (m : StandardMiddleware) (request : Request) (w : World) (result : Except Failure α)
    (after : World) : World :=
  match m with
  | propagation => if w.correlationId.isSome then after else w.restore after
  | logging _ =>
    after.write ((failureEvent? result).elim [] fun event => m.recordsOf event request w.context)

variable {ρ : Type} {m : StandardMiddleware} {request : Request} {w : World}

theorem runFrom_propagation (next : Handler ρ) (request : Request) (w : World) :
    runFrom (Middleware.propagation next request) w =
      ((runFrom (next request) (propagation.entered request w)).1,
        propagation.left request w (runFrom (next request) (propagation.entered request w)).1
          (runFrom (next request) (propagation.entered request w)).2) := by
  have entered : propagation.entered request w =
      { w with context := propagation.contextBehind w.context } := by
    simp only [StandardMiddleware.entered, recordsOf, World.write_nil]
  rw [entered]
  unfold Middleware.propagation left contextBehind World.correlationId
  rw [runFrom_bind_ok (runFrom_liftState _ w)]
  by_cases known : (Context.inForce w.context).correlationId.isSome = true
  · simp only [known, if_true]
    exact congrArg (fun m => runFrom m w) (if_pos known)
  · simp only [known]
    exact congrArg (fun m => runFrom m w) (if_neg known)

theorem runFrom_logging (level : Nat) (next : Handler ρ) (request : Request) (w : World) :
    let m := logging (.number level)
    runFrom (Middleware.logging level next request) w =
      ((runFrom (next request) (m.entered request w)).1,
        m.left request w (runFrom (next request) (m.entered request w)).1
          (runFrom (next request) (m.entered request w)).2) := by
  intro m
  let record (event : LogEvent) : LogRecord :=
    ⟨level, event, request.query.type.name, request.operation, w.correlationId⟩
  let handled : ServiceM (Outcome ρ) :=
    tryCatch (next request) (Middleware.rethrow fun kind => record (.failed kind))
  have logs : runFrom (Middleware.logging level next request) w =
      runFrom handled (m.entered request w) :=
    ServiceM.runFrom_log_then (record .executing) handled w
  rw [logs, runFrom_tryCatch]
  rcases runFrom (next request) (m.entered request w) with ⟨failure | outcome, after⟩
  · dsimp only [left, failureEvent?]
    unfold Middleware.rethrow
    dsimp only
    split
    · exact ServiceM.runFrom_log_then _ _ after
    · simp only [m, Option.elim_none, World.write_nil, runFrom_throw]
  · simp only [left, m, failureEvent?, Option.elim_none, World.write_nil]

/-- A middleware that admits requests hands them on once, in the world that it has entered, gives
what comes back and puts its world in order. -/
theorem runFrom_toMiddleware (admits : m.admits = true) (next : Handler ρ) (request : Request)
    (w : World) :
    runFrom (m.toMiddleware next request) w =
      ((runFrom (next request) (m.entered request w)).1,
        m.left request w (runFrom (next request) (m.entered request w)).1
          (runFrom (next request) (m.entered request w)).2) := by
  cases m with
  | propagation => exact runFrom_propagation next request w
  | logging level =>
    cases level with
    | number n => exact runFrom_logging n next request w
    | _ => cases admits

/-! ### A chain of them -/

def contextsBehind (stack : List StandardMiddleware) (c : ContextState) : ContextState :=
  stack.foldl (fun c m => m.contextBehind c) c

/-- The records about an event of a request that came to the middlewares in the contexts, in their
order. -/
def records (event : LogEvent) (request : Request) :
    List StandardMiddleware → ContextState → List LogRecord
  | [], _ => []
  | m :: stack, c => m.recordsOf event request c ++ records event request stack (m.contextBehind c)

def entry (stack : List StandardMiddleware) (request : Request) (w : World) : World :=
  stack.foldl (fun w m => m.entered request w) w

/-- The world that the middlewares leave, after the request was handled behind them. -/
def exit (request : Request) (result : Except Failure α) :
    List StandardMiddleware → World → World → World
  | [], _, after => after
  | m :: stack, w, after =>
    m.left request w result (exit request result stack (m.entered request w) after)

theorem runFrom_chain {stack : List StandardMiddleware} (allAdmit : ∀ m ∈ stack, m.admits = true)
    (next : Handler ρ) (request : Request) (w : World) :
    runFrom (Middleware.chain (stack.map toMiddleware) next request) w =
      ((runFrom (next request) (entry stack request w)).1,
        exit request (runFrom (next request) (entry stack request w)).1 stack w
          (runFrom (next request) (entry stack request w)).2) := by
  induction stack generalizing w with
  | nil => rfl
  | cons m stack ih =>
    -- The rest of the chain starts in the world that the first middleware has entered.
    have rest := ih (fun other mem => allAdmit other (List.mem_cons_of_mem _ mem))
      (m.entered request w)
    have first := runFrom_toMiddleware (allAdmit m List.mem_cons_self)
      (Middleware.chain (stack.map toMiddleware) next) request w
    rw [rest] at first
    exact first

theorem chain_append (front back : List StandardMiddleware) (next : Handler ρ) :
    Middleware.chain ((front ++ back).map toMiddleware) next =
      Middleware.chain (front.map toMiddleware)
        (Middleware.chain (back.map toMiddleware) next) := by
  rw [List.map_append, Middleware.chain, List.foldr_append]
  rfl

theorem toMiddleware_of_not_admits (refuses : m.admits = false) (next : Handler ρ) :
    m.toMiddleware next = fun _ => throw (.misuse .notLevel) := by
  cases m with
  | propagation => cases refuses
  | logging level =>
    cases level with
    | number n => cases refuses
    | _ => rfl

/-- The handler that requests get to: none gets behind a middleware that refuses them. -/
def reached (stack : List StandardMiddleware) (next : Handler ρ) : Handler ρ :=
  if stack.all (·.admits) then next else fun _ => throw (.misuse .notLevel)

theorem chain_eq_chain_takeWhile (stack : List StandardMiddleware) (next : Handler ρ) :
    Middleware.chain (stack.map toMiddleware) next =
      Middleware.chain ((stack.takeWhile (·.admits)).map toMiddleware) (reached stack next) := by
  induction stack with
  | nil => rfl
  | cons m stack ih =>
    unfold reached at ih ⊢
    cases passes : m.admits with
    | true =>
      rw [List.takeWhile_cons_of_pos passes, List.all_cons, passes, Bool.true_and]
      exact congrArg m.toMiddleware ih
    | false =>
      rw [List.takeWhile_cons_of_neg (by simp [passes]), List.all_cons, passes, Bool.false_and]
      exact toMiddleware_of_not_admits passes _

/-- A request goes through the middlewares up to the first one that refuses it, and back. -/
theorem runFrom_chain_reached (stack : List StandardMiddleware) (next : Handler ρ)
    (request : Request) (w : World) :
    runFrom (Middleware.chain (stack.map toMiddleware) next request) w =
      let front := stack.takeWhile (·.admits)
      let handled := runFrom (reached stack next request) (entry front request w)
      (handled.1, exit request handled.1 front w handled.2) := by
  rw [chain_eq_chain_takeWhile]
  exact runFrom_chain (fun m mem => List.all_eq_true.1 List.all_takeWhile m mem) _ request w

/-! ### What entering and leaving change -/

theorem entry_eq (stack : List StandardMiddleware) (request : Request) (w : World) :
    entry stack request w =
      { w.write (records .executing request stack w.context) with
        context := contextsBehind stack w.context } := by
  induction stack generalizing w with
  | nil => rw [records, World.write_nil]; rfl
  | cons m stack ih =>
    rw [records, World.write_append]
    exact ih (m.entered request w)

/-- The records that middlewares write on the way out, if the request ended in that way. -/
def closingRecords (stack : List StandardMiddleware) (request : Request) (c : ContextState)
    (result : Except Failure α) : List LogRecord :=
  ((failureEvent? result).elim [] fun event => records event request stack c).reverse

theorem reverse_recordsOf (m : StandardMiddleware) (event : LogEvent) (request : Request)
    (c : ContextState) : (m.recordsOf event request c).reverse = m.recordsOf event request c := by
  cases m with
  | propagation => rfl
  | logging level => cases level <;> rfl

theorem closingRecords_cons (m : StandardMiddleware) (stack : List StandardMiddleware)
    (request : Request) (c : ContextState) (result : Except Failure α) :
    closingRecords (m :: stack) request c result =
      closingRecords stack request (m.contextBehind c) result ++
        (failureEvent? result).elim [] fun event => m.recordsOf event request c := by
  unfold closingRecords
  cases failureEvent? result with
  | none => rfl
  | some event =>
    simp only [Option.elim_some, records, List.reverse_append, reverse_recordsOf]

theorem left_eq (m : StandardMiddleware) (request : Request) (w after : World)
    (result : Except Failure α) :
    ∃ current, m.left request w result after =
      { after.write ((failureEvent? result).elim [] fun event =>
          m.recordsOf event request w.context) with
        context := { after.context with current } } := by
  cases m with
  | propagation =>
    have none : ((failureEvent? result).elim [] fun event =>
        propagation.recordsOf event request w.context) = [] := by
      cases failureEvent? result <;> rfl
    rw [none, World.write_nil]
    unfold left
    dsimp only
    split
    · exact ⟨after.context.current, rfl⟩
    · exact ⟨w.context.current, rfl⟩
  | logging level => exact ⟨after.context.current, rfl⟩

/-- On the way out middlewares write their records, and all else is as it was left behind them but
for the context in force. -/
theorem exit_eq (stack : List StandardMiddleware) (request : Request) (w after : World)
    (result : Except Failure α) :
    ∃ current, exit request result stack w after =
      { after.write (closingRecords stack request w.context result) with
        context := { after.context with current } } := by
  induction stack generalizing w with
  | nil =>
    have none : closingRecords [] request w.context result = [] := by
      unfold closingRecords
      cases failureEvent? result <;> rfl
    rw [none, World.write_nil]
    exact ⟨after.context.current, rfl⟩
  | cons m stack ih =>
    -- Each middleware writes after those behind it, which turns their order around.
    obtain ⟨_, behind⟩ := ih (m.entered request w)
    obtain ⟨current, leaves⟩ :=
      left_eq m request w (exit request result stack (m.entered request w) after) result
    refine ⟨current, ?_⟩
    rw [exit, leaves, behind, closingRecords_cons, World.write_append]
    rfl

end StandardMiddleware
end QueryBinding
