import QueryBinding.Proofs.Engine.Calls
import QueryBinding.Proofs.Entries
/-!
What an engine remembers. The calls on a handle are kept in its log, but no call asks the log for
anything that would count: engines that were set up alike give the same result for the same
computation, and their logs get the same calls. The members that change a handle are the exception
(`Call.Harmless`); of all others some read the log, but whether they succeed does not depend on it.
-/
namespace QueryBinding

/-! ### Handles -/

/-- The members that change a handle: one makes it anew, one replaces attributes of it and one
removes them. -/
def Handle.changers : List String := ["__init__", "__setattr__", "__delattr__"]

/-- Leaves a handle as it was set up. Making it anew is the only change that needs no arguments. -/
def Call.Harmless (c : Call) : Prop :=
  c.name ∈ Handle.changers → c.name ≠ "__init__" ∧ c.args = []

namespace Handle

/-- The handle of an engine, with the given log. -/
def logged (e : Engine) (items : List LogItem) : Handle where
  attributes :=
    [(logName, .log items), (resultsName, .value (.list e.results)),
      (totalName, .value (e.total.getD .null)),
      (failureName, e.failure.elim (.value .null) .failure)]
  rejects := e.rejects

/-- Gives the same on all handles that differ in their logs only, and adds the same to each log. -/
def Appends (m : HandleM α) : Prop :=
  ∀ e, ∃ result more, ∀ items,
    runFrom m (logged e items) = (result, logged e (items ++ more))

namespace Appends

variable {α β : Type} {m : HandleM α} {f : α → HandleM β}

theorem pure (a : α) : Appends (Pure.pure a : HandleM α) :=
  fun _ => ⟨.ok a, [], fun _ => by rw [List.append_nil]; rfl⟩

theorem throw (failure : Failure) : Appends (MonadExcept.throw failure : HandleM α) :=
  fun _ => ⟨.error failure, [], fun _ => by rw [List.append_nil]; rfl⟩

theorem lift (x : Except Failure α) : Appends (liftM x : HandleM α) :=
  fun _ => ⟨x, [], fun _ => by rw [List.append_nil]; rfl⟩

theorem bind (first : Appends m) (rest : ∀ a, Appends (f a)) : Appends (m >>= f) := by
  intro e
  obtain ⟨result, more, runs⟩ := first e
  cases result with
  | error failure =>
    exact ⟨.error failure, more, fun items => by rw [runFrom_bind, runs]⟩
  | ok a =>
    obtain ⟨result, others, continues⟩ := rest a e
    refine ⟨result, more ++ others, fun items => ?_⟩
    rw [runFrom_bind_ok (runs items), continues, List.append_assoc]

theorem map (g : α → β) (h : Appends m) : Appends (g <$> m) := by
  rw [map_eq_pure_bind]
  exact h.bind fun a => pure (g a)

theorem refuse {c : Prop} [Decidable c] {failure : Failure} (rest : Appends m) :
    Appends (if c then (MonadExcept.throw failure : HandleM β) >>= fun _ => m else m) := by
  split
  · exact (throw failure).bind fun _ => rest
  · exact rest

end Appends

theorem lookup_logged {name : String} (other : name ≠ logName) (e : Engine) (items : List LogItem) :
    (logged e items).attributes.lookup name = (logged e []).attributes.lookup name := by
  simp only [logged, List.lookup_cons, beq_eq_false_iff_ne.2 other]

theorem appends_read {name : String} (other : name ≠ logName) : Appends (read name) := by
  refine fun e => ⟨.ok ((logged e []).attributes.lookup name), [], fun items => ?_⟩
  rw [← lookup_logged other e items, List.append_nil]
  rfl

theorem appends_keep (name : Datum) (args : List Datum) : Appends (keep name args) :=
  fun _ => ⟨.ok (), [.call name args], fun _ => rfl⟩

theorem appends_terminal (name : Datum) (args : List Datum) : Appends (terminal name args) := by
  refine (appends_keep name args).bind fun _ => (appends_read (by decide)).bind fun found => ?_
  split
  · exact .pure ()
  · exact .throw _
  · exact .throw _

theorem appends_viaTerminal (name : String) (args : List Datum) :
    Appends (viaTerminal name args) := by
  refine (appends_read (by decide)).bind fun found => ?_
  split
  · exact .throw _
  · exact appends_terminal _ _

theorem appends_list : Appends list := by
  refine (appends_viaTerminal _ _).bind fun _ => (appends_read (by decide)).bind fun results => ?_
  exact (Appends.lift _).bind fun _ => .pure _

theorem appends_listPage (first max : Datum) : Appends (listPage first max) := by
  refine (appends_viaTerminal _ _).bind fun _ => (appends_read (by decide)).bind fun results => ?_
  refine (Appends.lift _).bind fun stop => ?_
  split
  · exact (Appends.lift _).bind fun _ => .pure _
  · exact .throw _

theorem appends_count : Appends count := by
  refine (appends_viaTerminal _ _).bind fun _ => (appends_read (by decide)).bind fun total => ?_
  split
  · refine (appends_read (by decide)).bind fun results => ?_
    exact (Appends.lift _).bind fun _ => .pure _
  · exact .pure _
  · exact .pure _

/-! ### Members -/

/-- Does the same on handles that differ in their logs only, but for what it replies. -/
def Harmless (m : HandleM α) : Prop :=
  ∀ e, ∃ result more, ∀ calls : List Call,
    runFrom (discard m) (logged e (calls.map .ofCall)) =
      (result, logged e (calls.map .ofCall ++ more))

namespace Harmless

variable {α β : Type} {m : HandleM α}

theorem of_appends (h : Appends m) : Harmless m := by
  intro e
  obtain ⟨result, more, runs⟩ := (h.map fun _ => ()) e
  exact ⟨result, more, fun calls => runs _⟩

theorem of_reads
    (reads : ∀ e (calls : List Call), ∃ a, runFrom m (logged e (calls.map .ofCall)) =
      (.ok a, logged e (calls.map .ofCall))) : Harmless m := by
  refine fun e => ⟨.ok (), [], fun calls => ?_⟩
  obtain ⟨a, runs⟩ := reads e calls
  rw [runFrom_discard, runs, List.append_nil]
  rfl

theorem throw (failure : Failure) : Harmless (MonadExcept.throw failure : HandleM α) :=
  of_appends (.throw failure)

theorem pure (a : α) : Harmless (Pure.pure a : HandleM α) := of_appends (.pure a)

theorem lift (x : Except Failure α) : Harmless (liftM x : HandleM α) := of_appends (.lift x)

theorem lift_bind {x : Except Failure α} {f : α → HandleM β} (rest : ∀ a, Harmless (f a)) :
    Harmless (liftM x >>= f) := by
  cases x with
  | error failure => exact throw failure
  | ok a => exact rest a

end Harmless

theorem mapM_ofCall {α : Type} (f : LogItem → Except Failure α) (g : Call → α)
    (each : ∀ c, f (.ofCall c) = .ok (g c)) (calls : List Call) :
    (calls.map LogItem.ofCall).mapM f = .ok (calls.map g) := by
  refine mapM_eq_ok.2 ?_
  rw [List.map_map, List.map_map]
  exact List.map_congr_left fun c _ => each c

/-- What tells about the log is no harm if it succeeds on every log of calls. -/
theorem harmless_of_log {α : Type} (f : List LogItem → Except Failure α) (reply : α → Reply)
    (tells : ∀ calls : List Call, ∃ a, f (calls.map .ofCall) = .ok a) :
    Harmless (do return reply (← f (← items (← read logName)))) := by
  refine .of_reads fun e calls => ?_
  obtain ⟨a, told⟩ := tells calls
  refine ⟨reply a, ?_⟩
  change runFrom (liftM (f (calls.map .ofCall)) >>= fun a => Pure.pure (reply a)) _ = _
  rw [told]
  rfl

theorem harmless_names : Harmless names :=
  harmless_of_log namesOf (fun names => .value (.list names)) fun calls =>
    ⟨_, mapM_ofCall LogItem.name (fun c => .text c.name) (fun _ => rfl) calls⟩

theorem harmless_callsThat (test : Call → Bool) : Harmless (callsThat test) := by
  refine harmless_of_log callsOf (fun calls => .log ((calls.filter test).map .ofCall)) ?_
  exact fun calls => ⟨_, mapM_ofCall LogItem.toCall id (fun _ => rfl) calls⟩

theorem harmless_terminalCalls : Harmless terminalCalls := by
  refine harmless_of_log terminalsOf (fun items => .log items) fun calls => ?_
  have marks := mapM_ofCall LogItem.isTerminal (·.isTerminal) (fun _ => rfl) calls
  unfold terminalsOf
  rw [marks]
  exact ⟨_, rfl⟩

/-- All attributes but the log are the same under every log. -/
theorem Harmless.read_bind {α : Type} {name : String} {f : Option Attribute → HandleM α}
    (other : name ≠ logName) (rest : ∀ found, Harmless (f found)) : Harmless (read name >>= f) := by
  intro e
  obtain ⟨result, more, runs⟩ := rest ((logged e []).attributes.lookup name) e
  refine ⟨result, more, fun calls => ?_⟩
  rw [← runs, ← lookup_logged other e (calls.map .ofCall)]
  rfl

theorem harmless_lookUp (name : String) : Harmless (lookUp name) := by
  unfold lookUp
  split
  · exact .of_reads fun _ _ => ⟨_, rfl⟩
  · exact .pure _
  · exact .pure _
  · by_cases isLog : name = logName
    · subst isLog
      exact .of_reads fun _ _ => ⟨_, rfl⟩
    · refine .read_bind isLog fun found => ?_
      split
      · exact .pure _
      · split
        · exact .pure _
        · split
          · exact .pure _
          · exact .throw _

theorem harmless_answer {member : String} {args : List Datum}
    (harmless : (⟨member, args⟩ : Call).Harmless) : Harmless (answer member args) := by
  have appends {m : HandleM Reply} (h : Appends m) : Harmless m := .of_appends h
  have answered := answers member args
  generalize answer member args = m at answered ⊢
  cases answered with
  | list => exact appends appends_list
  | listPage => exact appends (appends_listPage _ _)
  | count => exact appends appends_count
  | names => exact harmless_names
  | filterCalls | orderingCalls => exact harmless_callsThat _
  | terminalCalls => exact harmless_terminalCalls
  | terminal => exact appends ((appends_terminal _ _).bind fun _ => .pure _)
  | renewal => exact absurd rfl (harmless (by simp [changers])).1
  | another => exact appends ((Appends.map _ (.lift _)).bind fun _ => .pure _)
  | madeOfNothing | made => exact .throw _
  | replacement | removal => cases (harmless (by simp [changers])).2
  | lookUp => exact .lift_bind fun name => harmless_lookUp name
  | fallBack | layout => exact .lift _
  | version =>
    split
    · exact .pure _
    · exact .throw _
  | state | directory => exact .of_reads fun _ _ => ⟨_, rfl⟩
  | size | subtype | other => exact .pure _

theorem harmless_callMember {name : String} (member : Member) {args : List Datum}
    (harmless : (⟨name, args⟩ : Call).Harmless) : Harmless (callMember name member args) := by
  unfold callMember
  split
  · exact .throw _
  · exact harmless_answer harmless

theorem appends_take (name : String) (args : List Datum) : Appends (take name args) := by
  refine .refuse ((appends_keep _ _).bind fun _ e => ?_)
  cases rejected : e.rejects.lookup name with
  | some failure =>
    refine ⟨.error failure, [], fun items => ?_⟩
    rw [runFrom_bind_ok (runFrom_get _), List.append_nil]
    simp only [logged, rejected, runFrom_throw]
  | none =>
    refine ⟨.ok .handle, [], fun items => ?_⟩
    rw [runFrom_bind_ok (runFrom_get _), List.append_nil]
    simp only [logged, rejected, runFrom_pure]

theorem harmless_call {c : Call} (harmless : c.Harmless) : Harmless (call c.name c.args) := by
  by_cases isLog : c.name = logName
  · have noMember : type.member? logName = none := by decide +kernel
    refine .of_appends fun e =>
      ⟨.error (.misuse (.notCallable (Datum.list []).typeName)), [], fun items => ?_⟩
    have read : runFrom (read logName) (logged e items) = (.ok (some (.log items)), _) := rfl
    rw [isLog, call, runFrom_bind_ok read, noMember, List.append_nil]
    rfl
  · refine .read_bind isLog fun found => ?_
    split
    · split
      · exact harmless_callMember _ harmless
      · exact .throw _
    · exact harmless_callMember _ harmless
    · exact .of_appends (appends_take _ _)

end Handle

/-! ### Engines -/

namespace Engine

def unused (e : Engine) : Engine := { e with calls := [], created := [] }

def extend (calls : List Call) (created : List String) (e : Engine) : Engine :=
  { e with calls := e.calls ++ calls, created := e.created ++ created }

theorem setUp_eq {e f : Engine} (alike : f.unused = e.unused) :
    f.results = e.results ∧ f.total = e.total ∧ f.failure = e.failure ∧ f.rejects = e.rejects := by
  simpa only [unused, Engine.mk.injEq, and_true] using alike

@[simp] theorem extend_nil (e : Engine) : e.extend [] [] = e := by simp [extend]

@[simp] theorem extend_extend (calls more : List Call) (created others : List String) (e : Engine) :
    (e.extend calls created).extend more others = e.extend (calls ++ more) (created ++ others) := by
  simp [extend]

/-- Gives the same on all engines that were set up alike, and adds the same to what was asked of
them. A count that is null counts as none. -/
def Memoryless (m : EngineM α) : Prop :=
  ∀ e : Engine, e.total ≠ some .null → ∃ result calls created, ∀ f : Engine, f.unused = e.unused →
    runFrom m f = (result, f.extend calls created)

namespace Memoryless

variable {α β : Type} {m : EngineM α} {f : α → EngineM β}

theorem pure (a : α) : Memoryless (Pure.pure a : EngineM α) :=
  fun _ _ => ⟨.ok a, [], [], fun f _ => by rw [extend_nil, runFrom_pure]⟩

theorem throw (failure : Failure) : Memoryless (MonadExcept.throw failure : EngineM α) :=
  fun _ _ => ⟨.error failure, [], [], fun f _ => by rw [extend_nil, runFrom_throw]⟩

theorem lift_bind {x : Except Failure α} (rest : ∀ a, x = .ok a → Memoryless (f a)) :
    Memoryless (liftM x >>= f) := by
  cases x with
  | error failure => exact throw failure
  | ok a => exact rest a rfl

theorem bind (first : Memoryless m) (rest : ∀ a, Memoryless (f a)) : Memoryless (m >>= f) := by
  intro e counted
  obtain ⟨result, calls, created, runs⟩ := first e counted
  cases result with
  | error failure =>
    refine ⟨.error failure, calls, created, fun other alike => ?_⟩
    rw [runFrom_bind, runs other alike]
  | ok a =>
    obtain ⟨result, more, others, continues⟩ := rest a e counted
    -- The engine that the first part leaves was set up alike as well.
    refine ⟨result, calls ++ more, created ++ others, fun other alike => ?_⟩
    rw [runFrom_bind_ok (runs other alike), continues (other.extend calls created) alike,
      extend_extend]

theorem map (g : α → β) (h : Memoryless m) : Memoryless (g <$> m) := by
  rw [map_eq_pure_bind]
  exact h.bind fun a => pure (g a)

theorem refuse {c : Prop} [Decidable c] {failure : Failure} (rest : Memoryless m) :
    Memoryless (if c then (MonadExcept.throw failure : EngineM β) >>= fun _ => m else m) := by
  split
  · exact (throw failure).bind fun _ => rest
  · exact rest

theorem forM {g : α → EngineM Unit} {as : List α} (each : ∀ a ∈ as, Memoryless (g a)) :
    Memoryless (as.forM g) := by
  induction as with
  | nil => exact pure ()
  | cons a as ih =>
    have rest := ih fun b mem => each b (List.mem_cons_of_mem _ mem)
    exact (each a List.mem_cons_self).bind fun _ => rest

end Memoryless

/-- What was added to the log of a handle is added to that of its engine. -/
theorem withHandle_logged {e : Engine} (counted : e.total ≠ some .null) (more : List LogItem) :
    e.withHandle (Handle.logged e (e.calls.map .ofCall ++ more)) =
      e.extend (more.filterMap fun item => item.toCall.toOption) [] := by
  let attributes := (Handle.logged e (e.calls.map .ofCall ++ more)).attributes
  have log : attributes.lookup Handle.logName = some (.log (e.calls.map .ofCall ++ more)) := rfl
  have results : attributes.lookup Handle.resultsName = some (.value (.list e.results)) := rfl
  have count : attributes.lookup Handle.totalName = some (.value (e.total.getD .null)) := rfl
  have failure : attributes.lookup Handle.failureName =
      some (e.failure.elim (.value .null) .failure) := rfl
  have calls : (e.calls.map LogItem.ofCall).filterMap (fun item => item.toCall.toOption) =
      e.calls := by
    rw [List.filterMap_map]
    exact List.filterMap_some
  have total : (if (e.total.getD .null).isNull then none else some (e.total.getD .null)) =
      e.total := by
    cases set : e.total with
    | none => rfl
    | some d =>
      rw [set] at counted
      cases d with
      | null => exact absurd rfl counted
      | _ => rfl
  unfold withHandle extend
  simp only [attributes, log, results, count, failure, List.filterMap_append, calls, total,
    List.append_nil]
  cases e.failure <;> simp

theorem logged_eq {e f : Engine} (alike : f.unused = e.unused) (items : List LogItem) :
    Handle.logged f items = Handle.logged e items := by
  have same : Handle.logged f.unused items = Handle.logged e.unused items := by rw [alike]
  exact same

theorem memoryless_onHandle {action : HandleM α} (harmless : Handle.Harmless action) :
    Memoryless (discard (onHandle action)) := by
  intro e counted
  obtain ⟨result, more, runs⟩ := harmless e
  refine ⟨result, more.filterMap fun item => item.toCall.toOption, [], fun f alike => ?_⟩
  have counted' : f.total ≠ some .null := (setUp_eq alike).2.1 ▸ counted
  have acts := runs f.calls
  rw [runFrom_discard, ← logged_eq alike, ← logged_eq alike] at acts
  obtain ⟨gives, leaves⟩ := Prod.mk.inj acts
  have handle : runFrom (onHandle action) f =
      ((runFrom action (Handle.logged f (f.calls.map .ofCall))).1,
        f.withHandle (runFrom action (Handle.logged f (f.calls.map .ofCall))).2) := rfl
  rw [runFrom_discard, handle, leaves, gives, withHandle_logged counted']

theorem memoryless_take (name : String) (args : List Datum) : Memoryless (take name args) := by
  refine .refuse fun e _ => ?_
  refine ⟨(e.rejects.lookup name).elim (.ok ()) .error, [⟨name, args⟩], [], fun f alike => ?_⟩
  have same : (f.record ⟨name, args⟩).rejects = e.rejects := (setUp_eq alike).2.2.2
  rw [runFrom_bind_ok (runFrom_modify _ f), runFrom_bind_ok (runFrom_get _), same]
  have extended : f.extend [⟨name, args⟩] [] = f.record ⟨name, args⟩ := by
    simp only [extend, record, List.append_nil]
  rw [extended]
  cases e.rejects.lookup name <;> rfl

theorem memoryless_call {c : Call} (harmless : c.Harmless) :
    Memoryless (discard (call c.name c.args)) := by
  unfold call
  split
  · exact memoryless_onHandle (Handle.harmless_call harmless)
  · exact .map _ ((memoryless_take _ _).bind fun _ => .pure _)

theorem memoryless_callAll {calls : List Call} (harmless : ∀ c ∈ calls, c.Harmless) :
    Memoryless (callAll calls) := .forM fun c mem => memoryless_call (harmless c mem)

theorem memoryless_create (service factory : String) : Memoryless (create service factory) := by
  refine .refuse (.refuse fun e _ => ⟨.ok (), [], [factory], fun f _ => ?_⟩)
  rw [runFrom_modify, extend, List.append_nil]

end Engine
end QueryBinding
