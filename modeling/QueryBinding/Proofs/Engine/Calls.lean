import QueryBinding.Engine.Member
import QueryBinding.Proofs.Run
/-!
What calls do to an engine. A call by a name that a handle takes is added to its log and changes
nothing else, unless the engine rejects it; so a run of such calls adds them all, in order. A
terminal call is added too, whatever it gives. How the members of a handle answer is said once, by
name, for all that is proved about them.
-/
namespace QueryBinding

/-! ### Members -/

namespace Handle

/-- How members answer, by their names and arguments. -/
inductive Answers : String → List Datum → HandleM Reply → Prop
  | list : Answers "list" args list
  | listPage {first max : Datum} : Answers "list_page" [first, max] (listPage first max)
  | count : Answers "count" args count
  | names : Answers "names" args names
  | filterCalls : Answers "filter_calls" args (callsThat (·.isFilter))
  | orderingCalls : Answers "ordering_calls" args (callsThat (·.isOrdering))
  | terminalCalls : Answers "terminal_calls" args terminalCalls
  | terminal : Answers "_terminal" (name :: args) do
      terminal name args
      return .value .null
  | renewal : Answers "__init__" args do
      renew args
      return .value .null
  | another : Answers "__class__" args do
      discard (givenResults args)
      return .other
  | madeOfNothing : Answers "__new__" [] (throw (.misuse (.member (.madeOfNothing "object"))))
  | made : Answers "__new__" (d :: args) (throw (.misuse (.member (.made d.typeName))))
  | replacement : Answers "__setattr__" [name, d] do
      replace (← attributeName name) d
      return .value .null
  | removal : Answers "__delattr__" [name] do
      remove (← attributeName name)
      return .value .null
  | lookUp : Answers "__getattribute__" [name] do
      lookUp (← attributeName name)
  | fallBack : Answers "__getattr__" [name] (liftM (fallBack name))
  | layout : Answers "__format__" [layout] (liftM (layOut layout))
  | version : Answers "__reduce_ex__" [version] do
      if version.index?.isSome then return .other
      else throw (.misuse (.member (.version version.typeName)))
  | state : Answers "__getstate__" args do
      let attributes := (← get).attributes
      return if attributes.isEmpty then .value .null else .attributes attributes
  | directory : Answers "__dir__" args do
      let names := Entries.keys (← get).attributes ++ directory
      return .value (.list (names.eraseDups.map .text))
  | size : Answers "__sizeof__" args (return .value (.number bareSize))
  | subtype : Answers "__init_subclass__" args (return .value .null)
  | other : Answers member args (return .other)

theorem answers (member : String) (args : List Datum) :
    Answers member args (answer member args) := by
  unfold answer
  split
  · exact .list
  · exact .listPage
  · exact .count
  · exact .names
  · exact .filterCalls
  · exact .orderingCalls
  · exact .terminalCalls
  · exact .terminal
  · exact .renewal
  · exact .another
  · exact .madeOfNothing
  · exact .made
  · exact .replacement
  · exact .removal
  · exact .lookUp
  · exact .fallBack
  · exact .layout
  · exact .version
  · exact .state
  · exact .directory
  · exact .size
  · exact .subtype
  · exact .other

end Handle

namespace Engine

/-- Whether a handle takes a name as a call: it has no member of that name. -/
def takes (name : String) : Bool := !isMember name && !"_".toList.isPrefixOf name.toList

theorem isMember_eq_false {name : String} (taken : takes name = true) : isMember name = false := by
  simp only [takes, Bool.and_eq_true, Bool.not_eq_true'] at taken
  exact taken.1

/-- The engine after further calls on its handle. -/
def recordAll (calls : List Call) (e : Engine) : Engine := { e with calls := e.calls ++ calls }

/-- The engine after a further factory call. -/
def recordFactory (factory : String) (e : Engine) : Engine :=
  { e with created := e.created ++ [factory] }

/-- Makes calls one after the other. -/
def callAll (calls : List Call) : EngineM Unit := calls.forM fun c => discard (call c.name c.args)

variable {e : Engine}

@[simp] theorem recordAll_nil : e.recordAll [] = e := by simp [recordAll]

@[simp] theorem recordAll_recordAll (calls more : List Call) :
    (e.recordAll calls).recordAll more = e.recordAll (calls ++ more) := by simp [recordAll]

@[simp] theorem recordAll_calls (calls : List Call) :
    (e.recordAll calls).calls = e.calls ++ calls := rfl

@[simp] theorem recordAll_created (calls : List Call) :
    (e.recordAll calls).created = e.created := rfl

@[simp] theorem recordFactory_calls (factory : String) :
    (e.recordFactory factory).calls = e.calls := rfl

@[simp] theorem recordFactory_created (factory : String) :
    (e.recordFactory factory).created = e.created ++ [factory] := rfl

/-! ### Calls on the handle -/

theorem callAll_cons (c : Call) (calls : List Call) :
    callAll (c :: calls) = (discard (call c.name c.args) >>= fun _ => callAll calls) := rfl

theorem callAll_append (calls more : List Call) :
    callAll (calls ++ more) = (callAll calls >>= fun _ => callAll more) := by
  unfold callAll
  simp only [List.forM_eq_forM, List.forM_append]

theorem callAll_flatMap (f : α → List Call) (as : List α) :
    callAll (as.flatMap f) = as.forM fun a => callAll (f a) := by
  induction as with
  | nil => rfl
  | cons a as ih =>
    rw [List.flatMap_cons, callAll_append, ih]
    rfl

theorem runFrom_take {name : String} (visible : "_".toList.isPrefixOf name.toList = false)
    (quiet : e.rejects = []) (args : List Datum) :
    runFrom (take name args) e = (.ok (), e.recordAll [⟨name, args⟩]) := by
  have silent : (record ⟨name, args⟩ e).rejects = [] := quiet
  unfold take
  simp only [visible, Bool.false_eq_true, if_false, runFrom_bind, runFrom_modify, runFrom_get,
    silent, List.lookup_nil]
  rfl

theorem runFrom_call {name : String} (taken : takes name = true) (quiet : e.rejects = [])
    (args : List Datum) :
    runFrom (call name args) e = (.ok .handle, e.recordAll [⟨name, args⟩]) := by
  simp only [takes, Bool.and_eq_true, Bool.not_eq_true'] at taken
  simp only [call, taken.1, Bool.false_eq_true, if_false]
  rw [runFrom_bind_ok (runFrom_take taken.2 quiet args)]
  rfl

theorem runFrom_callAll {calls : List Call} (taken : ∀ c ∈ calls, takes c.name = true)
    (quiet : e.rejects = []) : runFrom (callAll calls) e = (.ok (), e.recordAll calls) := by
  induction calls generalizing e with
  | nil => simp [callAll]
  | cons c calls ih =>
    have first : runFrom (discard (call c.name c.args)) e = (.ok (), e.recordAll [c]) := by
      rw [runFrom_discard, runFrom_call (taken c List.mem_cons_self) quiet]
      rfl
    have rest := ih (e := e.recordAll [c]) (fun d mem => taken d (List.mem_cons_of_mem _ mem)) quiet
    rw [callAll_cons, runFrom_bind_ok first, rest, recordAll_recordAll]
    rfl

theorem runFrom_create {service factory : String}
    (named : "_service".toList.isSuffixOf service.toList = true)
    (makes : "create_".toList.isPrefixOf factory.toList = true) :
    runFrom (create service factory) e = (.ok (), e.recordFactory factory) := by
  simp only [create, named, makes, Bool.not_true, Bool.false_eq_true, if_false, runFrom_modify,
    recordFactory]

theorem runFrom_create_cases (service factory : String) (e : Engine) :
    (∃ name, runFrom (create service factory) e = (.error (.unknownMember name), e)) ∨
      runFrom (create service factory) e = (.ok (), e.recordFactory factory) := by
  unfold create
  cases "_service".toList.isSuffixOf service.toList with
  | false => exact .inl ⟨service, rfl⟩
  | true =>
    cases "create_".toList.isPrefixOf factory.toList with
    | false => exact .inl ⟨factory, rfl⟩
    | true => exact .inr rfl

/-! ### Terminal calls -/

/-- A terminal call is recorded before it fails, if the engine was set up with a failure. -/
theorem runFrom_terminal (name : String) (args : List Datum) :
    runFrom (terminal name args) e =
      (e.failure.elim (.ok ()) .error, e.recordAll [⟨name, args⟩]) := by
  have same : (record ⟨name, args⟩ e).failure = e.failure := rfl
  unfold terminal
  simp only [runFrom_bind, runFrom_modify, runFrom_get, same]
  cases e.failure <;> rfl

/-- A terminal call gives what it reads off the engine. -/
theorem runFrom_terminal_bind (name : String) (args : List Datum) (f : Engine → α) :
    runFrom (terminal name args >>= fun _ => do return f (← get)) e =
      (e.failure.elim (.ok (f (e.recordAll [⟨name, args⟩]))) .error,
        e.recordAll [⟨name, args⟩]) := by
  rw [runFrom_bind, runFrom_terminal]
  cases e.failure <;> rfl

theorem runFrom_list :
    runFrom list e = (e.failure.elim (.ok e.results) .error, e.recordAll [⟨"list", []⟩]) :=
  runFrom_terminal_bind "list" [] (·.results)

theorem runFrom_listPage (first max : Int) :
    runFrom (listPage first max) e =
      (e.failure.elim (.ok (Portion.between e.results first (first + max))) .error,
        e.recordAll [⟨"list_page", [.number first, .number max]⟩]) :=
  runFrom_terminal_bind "list_page" [.number first, .number max]
    fun e => Portion.between e.results first (first + max)

theorem runFrom_count :
    runFrom count e =
      (e.failure.elim (.ok (e.total.getD (.number e.results.length))) .error,
        e.recordAll [⟨"count", []⟩]) :=
  runFrom_terminal_bind "count" [] fun e => e.total.getD (.number e.results.length)

/-! ### What calls keep -/

/-- Factory calls are made by `create` only. -/
theorem confined_call_created (created : List String) (name : String) (args : List Datum) :
    Confined (·.created = created) (fun _ => True) (call name args) := by
  unfold call
  split
  · exact fun e same => ⟨same, fun _ _ => trivial⟩
  · refine .bind ?_ fun _ => .pure _
    refine .refuse trivial ?_
    refine .bind (.modify fun e same => same) fun _ => .get_bind fun e same => ?_
    split <;> exact ⟨same, fun _ _ => trivial⟩

/-- The log has got further calls, each of which passes a test. -/
def Adds (test : Call → Prop) (base : List Call) (e : Engine) : Prop :=
  ∃ more, e.calls = base ++ more ∧ ∀ c ∈ more, test c

theorem Adds.refl (test : Call → Prop) (e : Engine) : Adds test e.calls e :=
  ⟨[], (List.append_nil _).symm, by simp⟩

theorem Adds.recordAll {test : Call → Prop} {base calls : List Call} (h : Adds test base e)
    (passes : ∀ c ∈ calls, test c) : Adds test base (e.recordAll calls) := by
  obtain ⟨more, same, own⟩ := h
  refine ⟨more ++ calls, ?_, ?_⟩
  · rw [recordAll_calls, same, List.append_assoc]
  · intro c mem
    rcases List.mem_append.1 mem with mem | mem
    · exact own c mem
    · exact passes c mem

theorem confined_call_adds {test : Call → Prop} (base : List Call) {name : String}
    (apart : isMember name = false) {args : List Datum} (passes : test ⟨name, args⟩) :
    Confined (Adds test base) (fun _ => True) (call name args) := by
  have records : Confined (Adds test base) (fun _ => True)
      (modify (record ⟨name, args⟩) : EngineM Unit) := by
    refine .modify fun e added => ?_
    have grown : Adds test base (e.recordAll [⟨name, args⟩]) :=
      added.recordAll (by simpa using passes)
    exact grown
  simp only [call, apart, Bool.false_eq_true, if_false]
  refine .bind ?_ fun _ => .pure _
  refine .refuse trivial (records.bind fun _ => .get_bind fun e added => ?_)
  split <;> exact ⟨added, fun _ _ => trivial⟩

theorem confined_create_adds (test : Call → Prop) (base : List Call) (service factory : String) :
    Confined (Adds test base) (fun _ => True) (create service factory) :=
  .refuse trivial (.refuse trivial (.modify fun _ added => added))

/-- What executes a query is a member of the handle. -/
theorem isMember_of_isTerminal {c : Call} (terminal : c.isTerminal = true) :
    isMember c.name = true := by
  have all : ∀ name ∈ Call.terminals, isMember name = true := by
    decide +kernel
  exact all c.name (List.contains_iff_mem.1 terminal)

end Engine
end QueryBinding
