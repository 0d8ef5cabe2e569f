import QueryBinding.Proofs.Correlation.Scopes
/-!
Contexts without an identifier in the runs of programs. A program that starts without a context, and
sets only contexts that it was given, comes by a context without an identifier in two ways: it asks
for the context in force while there is none, or it enters a scope with one. A run that does neither
has identifiers throughout; one that does may put the empty context in force, which then is what
`getOrCreate` gives.
-/
namespace QueryBinding.ContextProgram

/-- The state of a program that starts without a context. -/
def start (issued : Nat) : ContextSession := { context := { issued } }

/-- Every context that a run sets was given to the program before. -/
def Acquires (p : ContextProgram) (s : ContextSession) : Prop :=
  ∀ context t, Reaches p s (call (.set context)) t → context ∈ t.given

/-- The ways in which a run comes by a context without an identifier. -/
inductive ComesByEmpty (p : ContextProgram) (s : ContextSession) : Prop
  | asked (reached : Reaches p s (call .get) t) (missing : t.context.current = none)
  | entered (reached : Reaches p s (within (some context) body) t)
    (empty : context.correlationId = none)

/-- All contexts that a program can get hold of have identifiers. -/
structure Identified (s : ContextSession) : Prop where
  current : ∀ context, s.context.current = some context → context.correlationId.isSome = true
  given : ∀ context ∈ s.given, context.correlationId.isSome = true

variable {p part : ContextProgram} {s t : ContextSession} {context : Context}

theorem identified_start (issued : Nat) : Identified (start issued) where
  current := by
    intro context inForce
    cases inForce
  given := by
    intro context mem
    cases mem

theorem Identified.add (identified : Identified s)
    (isSome : context.correlationId.isSome = true) : Identified (s.add context) where
  current := identified.current
  given := by
    intro other mem
    rcases List.mem_append.1 mem with mem | mem
    · exact identified.given other mem
    · rw [List.mem_singleton.1 mem]
      exact isSome

theorem Identified.replace {current : Option Context} (identified : Identified s)
    (each : ∀ context, current = some context → context.correlationId.isSome = true)
    (issued : Nat) : Identified { s with context := { current, issued } } where
  current := each
  given := identified.given

/-! ### Parts of a run -/

theorem Reaches.trans (reached : Reaches p s part t) {rest : ContextProgram} {u : ContextSession}
    (further : Reaches part t rest u) : Reaches p s rest u := by
  induction reached with
  | here => exact further
  | first _ ih => exact .first (ih further)
  | second ends _ ih => exact .second ends (ih further)
  | inside _ ih => exact .inside (ih further)

/-- A run that comes by contexts with identifiers only. -/
structure Careful (p : ContextProgram) (s : ContextSession) : Prop where
  acquires : Acquires p s
  avoids : ¬ComesByEmpty p s

theorem Careful.of_reaches (careful : Careful p s) (reached : Reaches p s part t) :
    Careful part t where
  acquires := fun context u further => careful.acquires context u (reached.trans further)
  avoids := by
    rintro (⟨further, missing⟩ | ⟨further, empty⟩)
    · exact careful.avoids (.asked (reached.trans further) missing)
    · exact careful.avoids (.entered (reached.trans further) empty)

theorem acquires_call {c : ContextCall} (given : ∀ context, c = .set context → context ∈ s.given) :
    Acquires (call c) s := by
  rintro context _ (_ | _)
  exact given context rfl

theorem acquires_seq {q : ContextProgram} (first : Acquires p s)
    (rest : ∀ u, runFrom p.run s = (.ok (), u) → Acquires q u) : Acquires (seq p q) s := by
  rintro context t (_ | reached | ⟨ends, reached⟩)
  · exact first context t reached
  · exact rest _ ends context t reached

theorem acquires_within {context : Option Context} {body : ContextProgram}
    (inside : Acquires body (s.enter context)) : Acquires (within context body) s := by
  rintro given t (_ | _ | _ | reached)
  exact inside given t reached

/-! ### What a run keeps -/

/-- What `getOrCreate` gives is in force afterwards: it was before, or there was none and it is
new. -/
theorem run_getOrCreate (s : ContextSession) :
    let returned := (Context.getOrCreate : StateM ContextSession Context).run s
    returned.2.context.current = some returned.1 ∧ returned.2.given = s.given ∧
      (s.context.current = some returned.1 ∨
        s.context.current = none ∧ returned.1 = ⟨some (.issued s.context.issued)⟩) := by
  obtain ⟨⟨_ | context, issued⟩, given⟩ := s
  · exact ⟨rfl, rfl, .inr ⟨rfl, rfl⟩⟩
  · exact ⟨rfl, rfl, .inl rfl⟩

theorem identified_create (identified : Identified s) (id : Option Ulid) :
    Identified (runFrom (ContextCall.create id).run s).2 := by
  cases id with
  | none =>
    have creates := identified.replace identified.current (s.context.issued + 1)
    exact creates.add rfl
  | some ulid => exact identified.add rfl

/-- One call keeps identifiers. -/
theorem identified_call {c : ContextCall} (careful : Careful (call c) s)
    (identified : Identified s) : Identified (runFrom c.run s).2 := by
  cases c with
  | get =>
    have present : s.context.current ≠ none := fun missing =>
      careful.avoids (.asked .here missing)
    obtain ⟨context, inForce⟩ := Option.ne_none_iff_exists'.1 present
    have asks : (Context.inForce s.context).correlationId.isSome = true := by
      rw [Context.inForce, inForce]
      exact identified.current context inForce
    exact identified.add asks
  | getOrCreate =>
    obtain ⟨inForce, given, origin⟩ := run_getOrCreate s
    have isSome : ((Context.getOrCreate : StateM ContextSession Context).run
        s).1.correlationId.isSome = true := by
      rcases origin with old | ⟨_, new⟩
      · exact identified.current _ old
      · rw [new]
        rfl
    refine Identified.add ⟨?_, given ▸ identified.given⟩ isSome
    intro other same
    cases inForce.symm.trans same
    exact isSome
  | create id => exact identified_create identified id
  | header text =>
    rw [ContextCall.run, runFrom_give, Context.runFrom_ofHeader]
    cases Ulid.ofHeader text with
    | error failure => exact identified
    | ok id => exact identified_create identified id
  | set context =>
    refine identified.replace ?_ s.context.issued
    rintro _ ⟨⟩
    exact identified.given context (careful.acquires context s .here)
  | clear =>
    refine identified.replace ?_ s.context.issued
    rintro _ ⟨⟩

theorem identified_enter {context : Option Context} (identified : Identified s)
    (each : ∀ given, context = some given → given.correlationId.isSome = true) :
    Identified (s.enter context) := by
  have isSome : (s.scopeContext context).correlationId.isSome = true := by
    cases context with
    | none => rfl
    | some given => exact each given rfl
  refine Identified.add (identified.replace ?_ _) isSome
  rintro _ ⟨⟩
  exact isSome

theorem identified_enter_of_careful {context : Option Context} {body : ContextProgram}
    (careful : Careful (within context body) s) (identified : Identified s) :
    Identified (s.enter context) := by
  refine identified_enter identified ?_
  rintro given rfl
  rw [Option.isSome_iff_ne_none]
  exact fun empty => careful.avoids (.entered .here empty)

theorem identified_run (careful : Careful p s) (identified : Identified s) :
    Identified (runFrom p.run s).2 := by
  induction p generalizing s with
  | done => exact identified
  | call c => exact identified_call careful identified
  | fail failure => exact identified
  | seq p q ihp ihq =>
    have first := ihp (careful.of_reaches (.first .here)) identified
    rcases ends : runFrom p.run s with ⟨failure | _, u⟩
    · rw [runFrom_seq_of_error ends]
      rw [ends] at first
      exact first
    · rw [runFrom_seq_of_ok ends]
      rw [ends] at first
      exact ihq (careful.of_reaches (.second ends .here)) first
  | within context body ih =>
    have entered := identified_enter_of_careful careful identified
    have after := ih (careful.of_reaches (.inside .here)) entered
    rw [runFrom_within]
    exact after.replace identified.current _

/-- A careful run has identifiers wherever it comes to. -/
theorem identified_of_reaches (reached : Reaches p s part t) (careful : Careful p s)
    (identified : Identified s) : Identified t := by
  induction reached with
  | here => exact identified
  | first _ ih => exact ih (careful.of_reaches (.first .here)) identified
  | second ends _ ih =>
    have first := identified_run (careful.of_reaches (.first .here)) identified
    rw [ends] at first
    exact ih (careful.of_reaches (.second ends .here)) first
  | inside _ ih =>
    exact ih (careful.of_reaches (.inside .here)) (identified_enter_of_careful careful identified)

/-- Every call of `getOrCreate` gives the context in force, or a new one if there is none, and
leaves in force what it gives. That has an identifier unless the empty context is in force, and a
run that sets only what it was given comes to this only if it asks for the context in force while
there is none, or enters a scope with an empty one. -/
theorem getOrCreate_in_force (issued : Nat) (acquires : Acquires p (start issued))
    (reached : Reaches p (start issued) (call .getOrCreate) t) :
    let returned := (Context.getOrCreate : StateM ContextSession Context).run t
    returned.2.context.current = some returned.1 ∧
      (t.context.current = some returned.1 ∨
        t.context.current = none ∧ returned.1 = ⟨some (.issued t.context.issued)⟩) ∧
      (returned.1.correlationId.isSome = true ∨
        t.context.current = some {} ∧ ComesByEmpty p (start issued)) := by
  obtain ⟨inForce, _, origin⟩ := run_getOrCreate t
  refine ⟨inForce, origin, ?_⟩
  rcases origin with old | ⟨_, new⟩
  · by_cases comes : ComesByEmpty p (start issued)
    · rcases known : (Context.getOrCreate.run t).1 with ⟨_ | id⟩
      · exact .inr ⟨known ▸ old, comes⟩
      · exact .inl rfl
    · have identified := identified_of_reaches reached ⟨acquires, comes⟩ (identified_start issued)
      exact .inl (identified.current _ old)
  · rw [new]
    exact .inl rfl

/-- Nothing is in force in a scope that was cleared, so a new context is given. -/
theorem getOrCreate_in_force_cleared :
    let body := seq (call .clear) (call .getOrCreate)
    let p := seq (call (.create none)) (seq (call (.set ⟨some (.issued 4)⟩)) (within none body))
    ∃ t, Acquires p (start 4) ∧ Reaches p (start 4) (call .getOrCreate) t ∧
      let returned := (Context.getOrCreate : StateM ContextSession Context).run t
      t.context.current = none ∧ returned.1 = ⟨some (.issued 6)⟩ ∧
        returned.2.context.current = some returned.1 ∧
        (returned.1.correlationId.isSome = true ∨
          t.context.current = some {} ∧ ComesByEmpty p (start 4)) := by
  intro body p
  have acquires : Acquires p (start 4) := by
    refine acquires_seq (acquires_call nofun) fun u created => ?_
    cases created
    refine acquires_seq (acquires_call ?_) fun u set => ?_
    · rintro _ ⟨⟩
      decide
    · cases set
      exact acquires_within
        (acquires_seq (acquires_call nofun) fun _ _ => acquires_call nofun)
  have reached : Reaches p (start 4) (call .getOrCreate) _ :=
    .second rfl (.second rfl (.inside (.second rfl .here)))
  obtain ⟨inForce, _, identified⟩ := getOrCreate_in_force 4 acquires reached
  exact ⟨_, acquires, reached, rfl, rfl, inForce, identified⟩

/-- A program that asks for the context in force while there is none, and sets what it is given, is
given a context without an identifier by `getOrCreate`. -/
theorem not_getOrCreate_identified :
    let p := seq (call .get) (seq (call (.set {})) (call .getOrCreate))
    ∃ t, Acquires p (start 0) ∧ Reaches p (start 0) (call .getOrCreate) t ∧
      ((Context.getOrCreate : StateM ContextSession Context).run t).1.correlationId = none := by
  intro p
  have acquires : Acquires p (start 0) := by
    refine acquires_seq (acquires_call nofun) fun u asked => ?_
    cases asked
    refine acquires_seq (acquires_call ?_) fun u set => acquires_call nofun
    rintro _ ⟨⟩
    decide
  exact ⟨_, acquires, .second rfl (.second rfl .here), rfl⟩

end QueryBinding.ContextProgram
