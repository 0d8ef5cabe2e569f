import QueryBinding.Proofs.Engine.Calls
import QueryBinding.Proofs.Entries
/-!
What a call on a handle that succeeds can have done. An engine that was set up to fail raises its
failure in every terminal call; so as long as calls succeed and the failure is there, the log has got
no terminal call, whichever members of the handle were called. A member may well clear the failure,
or put any value into its place, but then the engine does not fail any more.
-/
namespace QueryBinding

open Engine

namespace Handle

def terminalsIn (items : List LogItem) : List Call :=
  (items.filterMap fun item => item.toCall.toOption).filter (·.isTerminal)

/-- The later handle raises nothing, or it has no more terminal calls in its log, and what it raises
is still there from before. -/
def Succeeds (h later : Handle) : Prop :=
  (∃ d, later.attributes.lookup failureName = some (.value d)) ∨
    (∀ items after, h.attributes.lookup logName = some (.log items) →
        later.attributes.lookup logName = some (.log after) →
        terminalsIn after = terminalsIn items) ∧
      ∀ failure, later.attributes.lookup failureName = some (.failure failure) →
        h.attributes.lookup failureName = some (.failure failure)

theorem Succeeds.refl (h : Handle) : Succeeds h h := by
  refine .inr ⟨fun items after before same => ?_, fun _ held => held⟩
  rw [before] at same
  cases same
  rfl

variable {α : Type}

theorem leads_of_silent {m : HandleM α} (h : Silent m) : Leads Succeeds m :=
  .of_silent h .refl

/-! ### Reading -/

theorem silent_read_bind {name : String} {f : Option Attribute → HandleM α}
    (rest : ∀ found, Silent (f found)) : Silent (read name >>= f) := fun h => rest _ h

theorem leads_read_bind {name : String} {f : Option Attribute → HandleM α}
    (rest : ∀ found, Leads Succeeds (f found)) : Leads Succeeds (read name >>= f) :=
  fun h => rest _ h

theorem silent_names : Silent names :=
  silent_read_bind fun _ => (Silent.lift _).bind fun _ => (Silent.lift _).bind fun _ => .pure _

theorem silent_callsThat (test : Call → Bool) : Silent (callsThat test) :=
  silent_read_bind fun _ => (Silent.lift _).bind fun _ => (Silent.lift _).bind fun _ => .pure _

theorem silent_terminalCalls : Silent terminalCalls :=
  silent_read_bind fun _ => (Silent.lift _).bind fun _ => (Silent.lift _).bind fun _ => .pure _

theorem silent_lookUp (name : String) : Silent (lookUp name) := by
  unfold lookUp
  split
  · exact Silent.get.bind fun _ => .pure _
  · exact .pure _
  · exact .pure _
  · refine silent_read_bind fun found => ?_
    split
    · exact .pure _
    · split
      · exact .pure _
      · split
        · exact .pure _
        · exact .throw _

/-! ### Writing -/

theorem leads_write_failure (d : Datum) : Leads Succeeds (write failureName (.value d)) :=
  .modify fun _ => .inl ⟨d, Entries.lookup_put_self _ _ _⟩

theorem leads_write_value (name : String) (d : Datum) : Leads Succeeds (write name (.value d)) := by
  by_cases isFailure : name = failureName
  · subst isFailure
    exact leads_write_failure d
  · refine .modify fun h => .inr ⟨fun items after before there => ?_, fun raised held => ?_⟩
    · by_cases isLog : name = logName
      · subst isLog
        rw [Entries.lookup_put_self] at there
        cases there
      · rw [Entries.lookup_put_of_ne (Ne.symm isLog), before] at there
        cases there
        rfl
    · rwa [Entries.lookup_put_of_ne (Ne.symm isFailure)] at held

/-- What is kept is added to a log, or to a list that stands in its place. -/
theorem keep_eq_ok {name : Datum} {args : List Datum} {h later : Handle}
    (runs : runFrom (keep name args) h = (.ok (), later)) :
    ∃ items, later.attributes =
        Entries.put logName (.log (items ++ [.call name args])) h.attributes ∧
      ∀ before, h.attributes.lookup logName = some (.log before) → before = items := by
  have read : runFrom (Handle.read logName) h = (.ok (h.attributes.lookup logName), h) := rfl
  unfold keep at runs
  rw [runFrom_bind_ok read] at runs
  split at runs
  · rename_i items found
    cases runs
    refine ⟨items, rfl, fun before same => ?_⟩
    rw [found] at same
    cases same
    rfl
  · rename_i items found
    cases runs
    refine ⟨items.map .value, rfl, fun before same => ?_⟩
    rw [found] at same
    cases same
  · cases runs

/-- A terminal call succeeds only on a handle that raises nothing. -/
theorem leads_terminal (name : Datum) (args : List Datum) : Leads Succeeds (terminal name args) := by
  intro h a later runs
  unfold terminal at runs
  obtain ⟨_, t, kept, rest⟩ := Leads.of_bind runs
  have read : runFrom (Handle.read failureName) t = (.ok (t.attributes.lookup failureName), t) := rfl
  rw [runFrom_bind_ok read] at rest
  split at rest
  · rename_i found
    cases rest
    exact .inl ⟨_, found⟩
  · cases rest
  · cases rest

theorem leads_viaTerminal (name : String) (args : List Datum) :
    Leads Succeeds (viaTerminal name args) := by
  refine leads_read_bind fun found => ?_
  split
  · exact .throw _
  · exact leads_terminal _ _

theorem leads_list : Leads Succeeds list :=
  (leads_viaTerminal _ _).bind_silent fun _ =>
    silent_read_bind fun _ => (Silent.lift _).bind fun _ => .pure _

theorem leads_listPage (first max : Datum) : Leads Succeeds (listPage first max) := by
  refine (leads_viaTerminal _ _).bind_silent fun _ => silent_read_bind fun found => ?_
  refine (Silent.lift _).bind fun stop => ?_
  split
  · exact (Silent.lift _).bind fun _ => .pure _
  · exact .throw _

theorem leads_count : Leads Succeeds count := by
  refine (leads_viaTerminal _ _).bind_silent fun _ => silent_read_bind fun total => ?_
  split
  · exact silent_read_bind fun results => (Silent.lift _).bind fun _ => .pure _
  · exact .pure _
  · exact .pure _

theorem leads_renew (args : List Datum) : Leads Succeeds (renew args) := by
  intro h a later runs
  -- Whatever the other attributes become, the failure is written last.
  unfold renew at runs
  obtain ⟨_, h₁, _, runs⟩ := Leads.of_bind runs
  obtain ⟨_, h₂, _, runs⟩ := Leads.of_bind runs
  obtain ⟨_, h₃, _, runs⟩ := Leads.of_bind runs
  obtain ⟨_, h₄, _, runs⟩ := Leads.of_bind runs
  cases runs
  exact .inl ⟨_, Entries.lookup_put_self _ _ _⟩

theorem lookup_values (entries : List (String × Datum)) (name : String) :
    (entries.map fun (name, d) => (name, Attribute.value d)).lookup name =
      (entries.lookup name).map .value := Entries.lookup_map_snd _ _ _

theorem leads_replace (name : String) (d : Datum) : Leads Succeeds (replace name d) := by
  unfold replace
  split
  · exact .throw _
  · exact .throw _
  · rename_i entries
    refine .modify fun h => .inr ⟨fun items after _ there => ?_, fun raised held => ?_⟩
    · rw [lookup_values] at there
      cases found : entries.lookup logName <;> simp [found] at there
    · rw [lookup_values] at held
      cases found : entries.lookup failureName <;> simp [found] at held
  · exact .throw _
  · exact leads_write_value _ _

theorem lookup_of_lookup_filter {attributes : List (String × Attribute)} {name key : String}
    {held : Attribute} (found : (attributes.filter (·.1 != name)).lookup key = some held) :
    attributes.lookup key = some held := by
  induction attributes with
  | nil => cases found
  | cons entry attributes ih =>
    obtain ⟨first, other⟩ := entry
    by_cases dropped : first = name
    · subst dropped
      rw [List.filter_cons_of_neg (by simp)] at found
      have differs : key ≠ first := by
        rintro rfl
        have mem := (List.mem_filter.1 (Entries.mem_of_lookup found)).2
        simp at mem
      rw [List.lookup_cons, beq_eq_false_iff_ne.2 differs]
      exact ih found
    · rw [List.filter_cons_of_pos (by simpa using dropped), List.lookup_cons] at found
      rw [List.lookup_cons]
      cases same : key == first with
      | true => simpa [same] using found
      | false =>
        simp only [same] at found
        exact ih found

theorem leads_remove (name : String) : Leads Succeeds (remove name) := by
  unfold remove
  split
  · exact .throw _
  · exact .throw _
  · exact .modify fun h => .inr ⟨fun _ _ _ there => (nomatch there), fun _ held => (nomatch held)⟩
  · refine leads_read_bind fun found => ?_
    have drops : Leads Succeeds
        (modify fun h : Handle => { h with attributes := h.attributes.filter (·.1 != name) } :
          HandleM Unit) := by
      refine .modify fun h => .inr ⟨fun items after before there => ?_, fun raised held => ?_⟩
      · rw [lookup_of_lookup_filter there] at before
        cases before
        rfl
      · exact lookup_of_lookup_filter held
    exact .refuse drops

/-! ### Calls -/

theorem leads_answer (member : String) (args : List Datum) :
    Leads Succeeds (answer member args) := by
  have silent {m : HandleM Reply} (h : Silent m) : Leads Succeeds m := leads_of_silent h
  have answered := answers member args
  generalize answer member args = m at answered ⊢
  cases answered with
  | list => exact leads_list
  | listPage => exact leads_listPage _ _
  | count => exact leads_count
  | names => exact silent silent_names
  | filterCalls | orderingCalls => exact silent (silent_callsThat _)
  | terminalCalls => exact silent silent_terminalCalls
  | terminal => exact (leads_terminal _ _).bind_silent fun _ => .pure _
  | renewal => exact (leads_renew _).bind_silent fun _ => .pure _
  | another => exact silent ((Silent.map _ (.lift _)).bind fun _ => .pure _)
  | madeOfNothing | made => exact .throw _
  | replacement =>
    exact .silent_bind (.lift _) fun name => (leads_replace name _).bind_silent fun _ => .pure _
  | removal =>
    exact .silent_bind (.lift _) fun name => (leads_remove name).bind_silent fun _ => .pure _
  | lookUp => exact .silent_bind (.lift _) fun name => silent (silent_lookUp name)
  | fallBack | layout => exact silent (.lift _)
  | version =>
    split
    · exact silent (.pure _)
    · exact .throw _
  | state | directory => exact silent (Silent.get.bind fun _ => .pure _)
  | size | subtype | other => exact silent (.pure _)

theorem leads_callMember (name : String) (member : Member) (args : List Datum) :
    Leads Succeeds (callMember name member args) := by
  unfold callMember
  split
  · exact .throw _
  · exact leads_answer _ _

theorem terminalsIn_append_call (items : List LogItem) {c : Call} (own : c.isTerminal = false) :
    terminalsIn (items ++ [.ofCall c]) = terminalsIn items := by
  have none : terminalsIn [.ofCall c] = [] := by
    simp [terminalsIn, LogItem.ofCall, LogItem.toCall, Except.toOption, own]
  unfold terminalsIn at none ⊢
  rw [List.filterMap_append, List.filter_append, none, List.append_nil]

theorem leads_keep {name : String} {args : List Datum}
    (own : (⟨name, args⟩ : Call).isTerminal = false) :
    Leads Succeeds (keep (.text name) args) := by
  intro h _ later runs
  obtain ⟨items, attributes, same⟩ := keep_eq_ok runs
  refine .inr ⟨fun before after there now => ?_, fun raised held => ?_⟩
  · rw [attributes, Entries.lookup_put_self] at now
    cases now
    rw [same before there]
    exact terminalsIn_append_call items own
  · rwa [attributes, Entries.lookup_put_of_ne (by decide)] at held

theorem leads_take {name : String} {args : List Datum}
    (own : (⟨name, args⟩ : Call).isTerminal = false) : Leads Succeeds (take name args) := by
  refine .refuse ((leads_keep own).bind_silent fun _ => Silent.get.bind fun h => ?_)
  split
  · exact .throw _
  · exact .pure _

/-- Whatever a handle is asked for, it raises nothing afterwards, or it has made no terminal call. -/
theorem leads_call (name : String) (args : List Datum) : Leads Succeeds (call name args) := by
  refine leads_read_bind fun found => ?_
  split
  · split
    · exact leads_callMember _ _ _
    · exact .throw _
  · exact leads_callMember _ _ _
  · rename_i unknown
    have own : (⟨name, args⟩ : Call).isTerminal = false := by
      have members : ∀ name ∈ Call.terminals, (type.member? name).isSome = true := by
        decide +kernel
      refine Bool.eq_false_iff.2 fun isTerminal => ?_
      have known := members name (List.contains_iff_mem.1 isTerminal)
      rw [unknown] at known
      cases known
    exact leads_take own

end Handle

/-! ### Engines -/

namespace Engine

/-- The later engine does not fail, or it fails as before and has executed no query meanwhile. -/
def Succeeds (e later : Engine) : Prop :=
  ∀ raised, later.failure = some raised →
    e.failure = some raised ∧ later.terminalCalls = e.terminalCalls

theorem Succeeds.refl (e : Engine) : Succeeds e e := fun _ fails => ⟨fails, rfl⟩

theorem Succeeds.trans {e f g : Engine} (first : Succeeds e f) (rest : Succeeds f g) :
    Succeeds e g := by
  intro raised fails
  obtain ⟨between, same⟩ := rest raised fails
  obtain ⟨before, same'⟩ := first raised between
  exact ⟨before, same.trans same'⟩

theorem terminalsIn_ofEngine (e : Engine) :
    Handle.terminalsIn (e.calls.map .ofCall) = e.terminalCalls := by
  have calls : (e.calls.map LogItem.ofCall).filterMap (fun item => item.toCall.toOption) =
      e.calls := by
    rw [List.filterMap_map]
    exact List.filterMap_some
  rw [Handle.terminalsIn, calls, Engine.terminalCalls]

theorem succeeds_withHandle {e : Engine} {later : Handle}
    (h : Handle.Succeeds (Handle.ofEngine e) later) : Succeeds e (e.withHandle later) := by
  intro raised fails
  have setUp : (Handle.ofEngine e).attributes.lookup Handle.failureName =
      some (e.failure.elim (.value .null) .failure) := rfl
  have logged : (Handle.ofEngine e).attributes.lookup Handle.logName =
      some (.log (e.calls.map .ofCall)) := rfl
  simp only [withHandle] at fails
  rcases h with ⟨d, settled⟩ | ⟨sameLog, sameFailure⟩
  · rw [settled] at fails
    cases fails
  · constructor
    · split at fails
      · cases fails
      · rename_i failure held
        cases fails
        have before := sameFailure raised held
        rw [setUp] at before
        cases kept : e.failure with
        | none =>
          rw [kept] at before
          cases before
        | some other =>
          rw [kept] at before
          cases before
          rfl
      · exact fails
    · unfold Engine.terminalCalls
      simp only [withHandle]
      split
      · rename_i items found
        have same := sameLog _ items logged found
        rw [terminalsIn_ofEngine] at same
        exact same
      · rfl

theorem leads_onHandle {α : Type} {action : HandleM α} (h : Leads Handle.Succeeds action) :
    Leads Succeeds (onHandle action) := by
  intro e a later runs
  have acts : runFrom (onHandle action) e =
      ((runFrom action (Handle.ofEngine e)).1,
        e.withHandle (runFrom action (Handle.ofEngine e)).2) := rfl
  rw [acts] at runs
  rcases result : runFrom action (Handle.ofEngine e) with ⟨failure | b, handle⟩
  · rw [result] at runs
    cases runs
  · rw [result] at runs
    cases runs
    exact succeeds_withHandle (h _ _ _ result)

theorem leads_take {name : String} {args : List Datum}
    (own : (⟨name, args⟩ : Call).isTerminal = false) : Leads Succeeds (take name args) := by
  have records : Leads Succeeds (modify (record ⟨name, args⟩) : EngineM Unit) := by
    refine .modify fun e raised fails => ⟨fails, ?_⟩
    simp [Engine.terminalCalls, record, own]
  refine .refuse (records.bind_silent fun _ => Silent.get.bind fun e => ?_)
  split
  · exact .throw _
  · exact .pure _

/-- A call that succeeds on an engine that fails has not executed a query. -/
theorem leads_call (name : String) (args : List Datum) : Leads Succeeds (call name args) := by
  unfold call
  split
  · exact leads_onHandle (Handle.leads_call name args)
  · rename_i other
    have own : (⟨name, args⟩ : Call).isTerminal = false :=
      Bool.eq_false_iff.2 fun terminal => other (isMember_of_isTerminal terminal)
    exact (leads_take own).bind_silent fun _ => .pure _

theorem leads_discard_call (name : String) (args : List Datum) :
    Leads Succeeds (discard (call name args)) := by
  have called := (leads_call name args).bind_silent fun _ => Silent.pure ()
  rwa [← map_eq_pure_bind] at called

theorem leads_callAll (calls : List Call) : Leads Succeeds (callAll calls) :=
  .forM .refl .trans fun c _ => leads_discard_call c.name c.args

theorem leads_create (service factory : String) : Leads Succeeds (create service factory) := by
  intro e _ later runs
  rcases runFrom_create_cases service factory e with ⟨_, fails⟩ | creates
  · rw [fails] at runs
    cases runs
  · rw [creates] at runs
    cases runs
    exact fun raised fails => ⟨fails, rfl⟩

end Engine
end QueryBinding
