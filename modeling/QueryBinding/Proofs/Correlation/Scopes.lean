import QueryBinding.Proofs.Correlation.Header
/-!
Programs that work with contexts, and where their runs lead. A program calls operations, fails, and
nests scopes in any way; the contexts that it was given are kept with the state, so that a set can
be traced to where its context comes from. Every scope that a run comes to begins with its own
context in force, and once it is left, what was in force before is in force again: whatever its body
did, and also if it failed, in which case the failure goes on outwards as it is.
-/
namespace QueryBinding

/-- The state of contexts, and the contexts that a program was given so far. -/
structure ContextSession where
  context : ContextState := {}
  given : List Context := []
deriving DecidableEq, Repr

instance : HasContext ContextSession where
  contextState := ContextSession.context
  withContextState c s := { s with context := c }
  contextState_with _ _ := rfl

namespace ContextSession

def add (context : Context) (s : ContextSession) : ContextSession :=
  { s with given := s.given ++ [context] }

/-- The context of a scope that is entered. -/
def scopeContext (context : Option Context) (s : ContextSession) : Context :=
  context.getD ⟨some (.issued s.context.issued)⟩

/-- The state in which the body of a scope begins. -/
def enter (context : Option Context) (s : ContextSession) : ContextSession where
  context :=
    { current := some (s.scopeContext context)
      issued := if context.isSome then s.context.issued else s.context.issued + 1 }
  given := s.given ++ [s.scopeContext context]

/-- The state with the context in force that was in force before. -/
def restore (before s : ContextSession) : ContextSession :=
  { s with context := { s.context with current := before.context.current } }

end ContextSession

abbrev ContextM := ExceptT Failure (StateM ContextSession)

/-- Gives a program the context that is obtained. -/
def ContextM.give (source : ContextM Context) : ContextM Unit := do
  let context ← source
  modify (·.add context)

inductive ContextCall where
  | get
  | getOrCreate
  | create (id : Option Ulid)
  | header (text : Option String)
  | set (context : Context)
  | clear

namespace ContextCall

def run : ContextCall → ContextM Unit
  | get => ContextM.give (Context.get : StateM ContextSession Context)
  | getOrCreate => ContextM.give (Context.getOrCreate : StateM ContextSession Context)
  | create id => ContextM.give (Context.create id : StateM ContextSession Context)
  | header text => ContextM.give (Context.ofHeader text)
  | set context => (Context.set context : StateM ContextSession Unit)
  | clear => (Context.clear : StateM ContextSession Unit)

end ContextCall

/-- The contexts in a program are written down, also those with identifiers that are issued in its
run: these are known by their numbers. -/
inductive ContextProgram where
  | done
  | call (call : ContextCall)
  | fail (failure : Failure)
  | seq (first second : ContextProgram)
  /-- A scope with the given context or a new one. -/
  | within (context : Option Context) (body : ContextProgram)

namespace ContextProgram

def run : ContextProgram → ContextM Unit
  | done => return
  | call c => c.run
  | fail failure => throw failure
  | seq first second => do
    first.run
    second.run
  | within context body =>
    Context.within context fun entered => do
      modify (·.add entered)
      body.run

/-- A run of a program from a state comes to a part of the program, in a state. -/
inductive Reaches : ContextProgram → ContextSession → ContextProgram → ContextSession → Prop
  | here {p s} : Reaches p s p s
  | first {p q s part t} (reached : Reaches p s part t) : Reaches (seq p q) s part t
  | second {p q s u part t} (ends : runFrom p.run s = (.ok (), u)) (reached : Reaches q u part t) :
    Reaches (seq p q) s part t
  | inside {context body s part t} (reached : Reaches body (s.enter context) part t) :
    Reaches (within context body) s part t

/-- What comes to a failure by itself: a failure that is raised, and a header that is rejected. -/
inductive Raises : ContextProgram → Failure → Prop
  | fail {failure} : Raises (fail failure) failure
  | header {text failure} (rejected : Ulid.ofHeader text = .error failure) :
    Raises (call (.header text)) failure

variable {p q part body : ContextProgram} {s t u : ContextSession} {context : Option Context}
  {failure : Failure}

/-! ### Runs -/

theorem runFrom_give (source : ContextM Context) (s : ContextSession) :
    runFrom (ContextM.give source) s =
      match runFrom source s with
      | (.ok context, t) => (.ok (), t.add context)
      | (.error failure, t) => (.error failure, t) := by
  unfold ContextM.give
  rw [runFrom_bind]
  rcases runFrom source s with ⟨_ | _, t⟩ <;> rfl

theorem runFrom_within (context : Option Context) (body : ContextProgram) (s : ContextSession) :
    runFrom (within context body).run s =
      ((runFrom body.run (s.enter context)).1,
        s.restore (runFrom body.run (s.enter context)).2) := by
  cases context <;> rfl

theorem runFrom_seq_of_ok (ends : runFrom p.run s = (.ok (), u)) :
    runFrom (seq p q).run s = runFrom q.run u := runFrom_bind_ok ends

theorem runFrom_seq_of_error (ends : runFrom p.run s = (.error failure, u)) :
    runFrom (seq p q).run s = (.error failure, u) := by
  rw [run, runFrom_bind, ends]

theorem call_raises {c : ContextCall} (fails : (runFrom (call c).run s).1 = .error failure) :
    Raises (call c) failure := by
  cases c with
  | get => cases fails
  | getOrCreate =>
    obtain ⟨⟨_ | _, _⟩, _⟩ := s <;> cases fails
  | create id => cases id <;> cases fails
  | header text =>
    refine .header ?_
    rw [run, ContextCall.run, runFrom_give, Context.runFrom_ofHeader] at fails
    cases read : Ulid.ofHeader text with
    | error cause =>
      rw [read] at fails
      cases fails
      rfl
    | ok id =>
      rw [read] at fails
      cases fails
  | set context => cases fails
  | clear => cases fails

theorem Raises.error (raises : Raises part failure) (t : ContextSession) :
    (runFrom part.run t).1 = .error failure := by
  cases raises with
  | fail => rfl
  | header rejected =>
    rw [run, ContextCall.run, runFrom_give, Context.runFrom_ofHeader, rejected]

/-- A failure of any part that a run comes to is the failure of the run, through all scopes around
that part. -/
theorem Reaches.error (reached : Reaches p s part t)
    (fails : (runFrom part.run t).1 = .error failure) :
    (runFrom p.run s).1 = .error failure := by
  induction reached with
  | here => exact fails
  | first reached ih => rw [runFrom_seq_of_error (Prod.ext (ih fails) rfl)]
  | second ends reached ih =>
    rw [runFrom_seq_of_ok ends]
    exact ih fails
  | inside reached ih =>
    rw [runFrom_within]
    exact ih fails

theorem exists_raises (fails : (runFrom p.run s).1 = .error failure) :
    ∃ part t, Reaches p s part t ∧ Raises part failure := by
  induction p generalizing s with
  | done => cases fails
  | call c => exact ⟨_, _, .here, call_raises fails⟩
  | fail cause =>
    cases fails
    exact ⟨_, _, .here, .fail⟩
  | seq p q ihp ihq =>
    rcases ends : runFrom p.run s with ⟨cause | _, u⟩
    · rw [runFrom_seq_of_error ends] at fails
      obtain ⟨part, t, reached, raises⟩ := ihp (by rw [ends]; exact fails)
      exact ⟨part, t, .first reached, raises⟩
    · rw [runFrom_seq_of_ok ends] at fails
      obtain ⟨part, t, reached, raises⟩ := ihq fails
      exact ⟨part, t, .second ends reached, raises⟩
  | within context body ih =>
    rw [runFrom_within] at fails
    obtain ⟨part, t, reached, raises⟩ := ih fails
    exact ⟨part, t, .inside reached, raises⟩

/-! ### Scopes -/

/-- What becomes of a scope that is entered in the state `before`: its body begins in the state
`begun`, with `entered` in force, and the scope does what the body does from there, except that what
was in force before is in force again. -/
structure Scoped (context : Option Context) (body : ContextProgram) (before begun : ContextSession)
    (entered : Context) : Prop where
  chosen : ∀ given, context = some given → entered = given
  fresh : context = none → entered = ⟨some (.issued before.context.issued)⟩
  begins : Reaches (within context body) before body begun
  inForce : begun.context.current = some entered
  handed : begun.given = before.given ++ [entered]
  runs : runFrom (within context body).run before =
    ((runFrom body.run begun).1, before.restore (runFrom body.run begun).2)
  restored : (runFrom (within context body).run before).2.context.current = before.context.current

theorem scoped_enter (context : Option Context) (body : ContextProgram) (s : ContextSession) :
    Scoped context body s (s.enter context) (s.scopeContext context) where
  chosen := by
    rintro given rfl
    rfl
  fresh := by
    rintro rfl
    rfl
  begins := .inside .here
  inForce := rfl
  handed := rfl
  runs := runFrom_within context body s
  restored := by
    rw [runFrom_within]
    rfl

/-- Scopes in the runs of programs. Each scope that a run comes to, at whatever depth, begins with
its own context in force, runs as its body does, and leaves in force what was in force before. A run
fails with a failure exactly if it comes to something that raises this failure: scopes let it
through as it is. -/
theorem scopes_restore (p : ContextProgram) (s : ContextSession) :
    (∀ context body t, Reaches p s (within context body) t →
      ∃ begun entered, Scoped context body t begun entered) ∧
    ∀ failure, (runFrom p.run s).1 = .error failure ↔
      ∃ part t, Reaches p s part t ∧ Raises part failure := by
  refine ⟨fun context body t _ => ⟨_, _, scoped_enter context body t⟩, fun failure => ?_⟩
  constructor
  · exact exists_raises
  · rintro ⟨part, t, reached, raises⟩
    exact reached.error (raises.error t)

/-- A scope is entered while no context is in force and left by a failure, which leaves the scope
around it as well. -/
theorem scopes_restore_failed :
    let cause : Failure := .invalidRequest (.other "no")
    let inner := seq (call .getOrCreate) (fail cause)
    let p := within none (seq (call .clear) (seq (within (some {}) inner) (call .get)))
    let s : ContextSession := { context := { current := some {}, issued := 3 } }
    (∃ t begun entered, Reaches p s (within (some {}) inner) t ∧ t.context.current = none ∧
      Scoped (some {}) inner t begun entered) ∧
    (∃ part t, Reaches p s part t ∧ Raises part cause) ∧ (runFrom p.run s).1 = .error cause ∧
    (runFrom p.run s).2.context.current = some {} := by
  intro cause inner p s
  obtain ⟨scopes, fails⟩ := scopes_restore p s
  have reached : Reaches p s (within (some {}) inner) _ := .inside (.second rfl (.first .here))
  obtain ⟨begun, entered, isScoped⟩ := scopes _ _ _ reached
  obtain ⟨_, _, whole⟩ := scopes _ _ _ .here
  have raised : ∃ part t, Reaches p s part t ∧ Raises part cause :=
    ⟨_, _, .inside (.second rfl (.first (.inside (.second rfl .here)))), .fail⟩
  exact ⟨⟨_, begun, entered, reached, rfl, isScoped⟩, raised, (fails cause).2 raised,
    whole.restored⟩

end ContextProgram
end QueryBinding
