import QueryBinding.Proofs.Engine.Calls
import QueryBinding.Proofs.Entries
/-!
Which failures an engine can raise while a query is built: those that it was set up with, and those
of things that are used in ways they do not admit. A handle may be asked for any member, also for
ones that change it; what carries the proof is that no member puts a new failure into the handle
(`Handle.RaisesOnly`), so that every step is `Confined`.
-/
namespace QueryBinding

/-- The failures of things that are used in ways they do not admit. -/
def Failure.IsUsage (failure : Failure) : Prop :=
  failure.kind = .type ∨ failure.kind = .member ∨ failure.kind = .overflow

namespace Failure.IsUsage

theorem misuse (fault : TypeFault) : (Failure.misuse fault).IsUsage := .inl rfl

theorem unknownMember (name : String) : (Failure.unknownMember name).IsUsage := .inr (.inl rfl)

theorem noAttribute (type name : String) : (Failure.noAttribute type name).IsUsage :=
  .inr (.inl rfl)

theorem fixedAttribute (type name : String) : (Failure.fixedAttribute type name).IsUsage :=
  .inr (.inl rfl)

theorem isA_eq_false {failure : Failure} (h : failure.IsUsage) {kind : FailureKind}
    (apart : ∀ k ∈ [FailureKind.type, .member, .overflow], k.isA kind = false) :
    failure.isA kind = false := by
  unfold Failure.isA
  rcases h with same | same | same
  · exact same ▸ apart .type (by simp)
  · exact same ▸ apart .member (by simp)
  · exact same ▸ apart .overflow (by simp)

end Failure.IsUsage

open Failure.IsUsage

/-! ### Results -/

/-- Fails only by its use. -/
def FailsByUse (x : Except Failure α) : Prop := ∀ failure, x = .error failure → failure.IsUsage

namespace FailsByUse

theorem ok (a : α) : FailsByUse (.ok a) := FailsOnly.ok a

theorem error {failure : Failure} (h : failure.IsUsage) :
    FailsByUse (.error failure : Except Failure α) := FailsOnly.error h

theorem bind {x : Except Failure α} {f : α → Except Failure β} (first : FailsByUse x)
    (rest : ∀ a, FailsByUse (f a)) : FailsByUse (x >>= f) := FailsOnly.bind first rest

theorem mapM {f : α → Except Failure β} (each : ∀ a, FailsByUse (f a)) (as : List α) :
    FailsByUse (as.mapM f) := FailsOnly.mapM fun a _ => each a

end FailsByUse

theorem Datum.slice_failsByUse (d : Datum) (start stop : Option Int) :
    FailsByUse (d.slice start stop) := by
  unfold Datum.slice
  split
  · exact .error (misuse _)
  · split
    · exact .ok _
    · exact .error (misuse _)
  · split
    · exact .ok _
    · exact .error (misuse _)
  · exact .error (misuse _)

theorem Datum.sumIndex?_failsByUse (a b : Datum) : FailsByUse (a.sumIndex? b) := by
  unfold Datum.sumIndex?
  split
  · exact .ok _
  · exact .ok _
  · exact .error (misuse _)
  · exact .error (misuse _)
  · split
    · exact .ok _
    · split
      · exact .error (misuse _)
      · split
        · exact .error (.inr (.inr rfl))
        · exact .ok _

/-! ### Members -/

/-- A member that cannot be called at all is used wrongly when it is called. -/
def Member.failsByUse : Member → Bool
  | .failing failure => failure.kind == .type
  | _ => true

theorem Member.refusal?_isUsage {m : Member} {type name : String} {given : Nat} {failure : Failure}
    (h : m.failsByUse = true) (refused : m.refusal? type name given = some failure) :
    failure.IsUsage := by
  cases m with
  | value held =>
    cases refused
    exact misuse _
  | method name needed optional =>
    simp only [refusal?] at refused
    split at refused
    · cases refused
    · split at refused <;> cases refused <;> exact misuse _
  | collector name needed =>
    simp only [refusal?] at refused
    split at refused
    · cases refused
    · cases refused
      exact misuse _
  | builtIn rule =>
    obtain ⟨fault, _, rfl⟩ := Option.map_eq_some_iff.1 refused
    exact misuse _
  | failing raised =>
    cases refused
    exact .inl (beq_iff_eq.1 h)

namespace Handle

theorem fails_of_member? {name : String} {member : Member}
    (known : type.member? name = some member) : member.failsByUse = true := by
  have all : ∀ entry ∈ type.members ++ ObjectType.shared, entry.2.failsByUse = true := by
    decide +kernel
  rw [ObjectType.member?, ← List.lookup_append] at known
  exact all _ (Entries.mem_of_lookup known)

theorem items_failsByUse (found : Option Attribute) : FailsByUse (items found) := by
  unfold items
  split
  · exact .ok _
  · split
    · exact .ok _
    · exact .error (misuse _)
  · exact .error (misuse _)

theorem size_failsByUse (found : Option Attribute) : FailsByUse (size found) := by
  unfold size
  split
  · exact .ok _
  · exact .error (misuse _)

theorem namesOf_failsByUse (items : List LogItem) : FailsByUse (namesOf items) := by
  refine .mapM (fun item => ?_) items
  cases item with
  | call name args => exact .ok name
  | value d => exact .error (noAttribute _ _)

theorem callsOf_failsByUse (items : List LogItem) : FailsByUse (callsOf items) := by
  refine .mapM (fun item => ?_) items
  unfold LogItem.toCall
  split
  · exact .ok _
  · exact .error (noAttribute _ _)
  · exact .error (noAttribute _ _)

theorem terminalsOf_failsByUse (items : List LogItem) : FailsByUse (terminalsOf items) := by
  refine (FailsByUse.mapM (fun item => ?_) items).bind fun _ => .ok _
  unfold LogItem.isTerminal
  split
  · exact .ok _
  · exact .error (misuse _)
  · exact .error (misuse _)
  · exact .ok _
  · exact .error (noAttribute _ _)

theorem givenResults_failsByUse (args : List Datum) : FailsByUse (givenResults args) := by
  unfold givenResults
  split
  · exact .ok _
  · split
    · exact .ok _
    · exact .error (misuse _)

theorem attributeName_failsByUse (d : Datum) : FailsByUse (attributeName d) := by
  unfold attributeName
  split
  · exact .ok _
  · exact .error (misuse _)

theorem fallBack_failsByUse (name : Datum) : FailsByUse (fallBack name) := by
  unfold fallBack
  split
  · split
    · exact .error (unknownMember _)
    · exact .ok _
  · exact .error (noAttribute _ _)

theorem layOut_failsByUse (layout : Datum) : FailsByUse (layOut layout) := by
  unfold layOut
  split
  · split
    · exact .ok _
    · exact .error (misuse _)
  · exact .error (misuse _)
  · exact .error (misuse _)

/-- Raises only allowed failures: it holds no others, and rejects calls with no others. -/
structure RaisesOnly (allowed : Failure → Prop) (h : Handle) : Prop where
  attributes : ∀ entry ∈ h.attributes, ∀ failure, entry.2 = .failure failure → allowed failure
  rejects : ∀ entry ∈ h.rejects, allowed entry.2

section Members

variable {allowed : Failure → Prop} {α : Type}

/-- What is read is known to hold no other failure. -/
theorem confined_read {name : String} {f : Option Attribute → HandleM α}
    (rest : ∀ found, (∀ failure, found = some (.failure failure) → allowed failure) →
      Confined (RaisesOnly allowed) allowed (f found)) :
    Confined (RaisesOnly allowed) allowed (read name >>= f) := by
  intro h safe
  have found : ∀ failure, h.attributes.lookup name = some (.failure failure) → allowed failure := by
    intro failure held
    exact safe.attributes _ (Entries.mem_of_lookup held) failure rfl
  exact rest _ found h safe

theorem confined_write {name : String} {held : Attribute}
    (h : ∀ failure, held = .failure failure → allowed failure) :
    Confined (RaisesOnly allowed) allowed (write name held) := by
  refine .modify fun handle safe => ⟨fun entry mem => ?_, safe.rejects⟩
  rcases Entries.mem_put mem with rfl | mem
  · exact h
  · exact safe.attributes entry mem

theorem confined_write_value (name : String) (d : Datum) :
    Confined (RaisesOnly allowed) allowed (write name (.value d)) :=
  confined_write fun _ held => nomatch held

theorem confined_write_log (name : String) (items : List LogItem) :
    Confined (RaisesOnly allowed) allowed (write name (.log items)) :=
  confined_write fun _ held => nomatch held

variable (usage : ∀ failure : Failure, failure.IsUsage → allowed failure)

include usage

theorem confined_lift {x : Except Failure α} (h : FailsByUse x) :
    Confined (RaisesOnly allowed) allowed (liftM x : HandleM α) :=
  .lift fun failure fails => usage failure (h failure fails)

theorem confined_keep (name : Datum) (args : List Datum) :
    Confined (RaisesOnly allowed) allowed (keep name args) := by
  refine confined_read fun found _ => ?_
  split
  · exact confined_write_log _ _
  · exact confined_write_log _ _
  · exact .throw (usage _ (noAttribute _ _))

theorem confined_terminal (name : Datum) (args : List Datum) :
    Confined (RaisesOnly allowed) allowed (terminal name args) := by
  refine (confined_keep usage name args).bind fun _ => confined_read fun found held => ?_
  split
  · exact .pure ()
  · exact .throw (held _ rfl)
  · exact .throw (usage _ (misuse _))

theorem confined_viaTerminal (name : String) (args : List Datum) :
    Confined (RaisesOnly allowed) allowed (viaTerminal name args) := by
  refine confined_read fun found _ => ?_
  split
  · exact .throw (usage _ (misuse _))
  · exact confined_terminal usage _ _

theorem confined_list : Confined (RaisesOnly allowed) allowed list := by
  refine (confined_viaTerminal usage _ _).bind fun _ => confined_read fun found _ => ?_
  exact (confined_lift usage (items_failsByUse found)).bind fun _ => .pure _

theorem confined_listPage (first max : Datum) :
    Confined (RaisesOnly allowed) allowed (listPage first max) := by
  refine (confined_viaTerminal usage _ _).bind fun _ => confined_read fun found _ => ?_
  refine (confined_lift usage (Datum.sumIndex?_failsByUse first max)).bind fun stop => ?_
  split
  · exact (confined_lift usage (Datum.slice_failsByUse _ _ _)).bind fun _ => .pure _
  · exact .throw (usage _ (misuse _))

theorem confined_count : Confined (RaisesOnly allowed) allowed count := by
  refine (confined_viaTerminal usage _ _).bind fun _ => confined_read fun total _ => ?_
  split
  · refine confined_read fun results _ => ?_
    exact (confined_lift usage (size_failsByUse results)).bind fun _ => .pure _
  · exact .pure _
  · exact .pure _

theorem confined_names : Confined (RaisesOnly allowed) allowed names := by
  refine confined_read fun found _ => ?_
  refine (confined_lift usage (items_failsByUse found)).bind fun items => ?_
  exact (confined_lift usage (namesOf_failsByUse items)).bind fun _ => .pure _

theorem confined_callsThat (test : Call → Bool) :
    Confined (RaisesOnly allowed) allowed (callsThat test) := by
  refine confined_read fun found _ => ?_
  refine (confined_lift usage (items_failsByUse found)).bind fun items => ?_
  exact (confined_lift usage (callsOf_failsByUse items)).bind fun _ => .pure _

theorem confined_terminalCalls : Confined (RaisesOnly allowed) allowed terminalCalls := by
  refine confined_read fun found _ => ?_
  refine (confined_lift usage (items_failsByUse found)).bind fun items => ?_
  exact (confined_lift usage (terminalsOf_failsByUse items)).bind fun _ => .pure _

theorem confined_renew (args : List Datum) :
    Confined (RaisesOnly allowed) allowed (renew args) := by
  refine (confined_write_log _ _).bind fun _ => ?_
  refine (confined_lift usage (givenResults_failsByUse args)).bind fun results => ?_
  refine (confined_write_value _ _).bind fun _ => ?_
  exact (confined_write_value _ _).bind fun _ => confined_write_value _ _

theorem confined_replace (name : String) (d : Datum) :
    Confined (RaisesOnly allowed) allowed (replace name d) := by
  unfold replace
  split
  · exact .throw (usage _ (misuse _))
  · exact .throw (usage _ (fixedAttribute _ _))
  · refine .modify fun h safe => ⟨fun entry mem failure held => ?_, safe.rejects⟩
    obtain ⟨_, _, rfl⟩ := List.mem_map.1 mem
    cases held
  · exact .throw (usage _ (misuse _))
  · exact confined_write_value _ _

theorem confined_remove (name : String) : Confined (RaisesOnly allowed) allowed (remove name) := by
  unfold remove
  split
  · exact .throw (usage _ (misuse _))
  · exact .throw (usage _ (fixedAttribute _ _))
  · exact .modify fun h safe => ⟨fun entry mem => absurd mem List.not_mem_nil, safe.rejects⟩
  · refine confined_read fun found _ => ?_
    have drops : Confined (RaisesOnly allowed) allowed
        (modify fun h : Handle => { h with attributes := h.attributes.filter (·.1 != name) } :
          HandleM Unit) := by
      refine .modify fun h safe => ⟨fun entry mem => ?_, safe.rejects⟩
      exact safe.attributes entry (List.mem_filter.1 mem).1
    exact .refuse (usage _ (noAttribute _ _)) drops

theorem confined_lookUp (name : String) : Confined (RaisesOnly allowed) allowed (lookUp name) := by
  unfold lookUp
  split
  · exact .get_bind fun h safe => ⟨safe, fun _ fails => nomatch fails⟩
  · exact .pure _
  · exact .pure _
  · refine confined_read fun found _ => ?_
    split
    · exact .pure _
    · split
      · exact .pure _
      · split
        · exact .pure _
        · exact .throw (usage _ (noAttribute _ _))

theorem confined_answer (member : String) (args : List Datum) :
    Confined (RaisesOnly allowed) allowed (answer member args) := by
  have value : Confined (RaisesOnly allowed) allowed (pure (.value .null) : HandleM Reply) :=
    .pure _
  have answered := answers member args
  generalize answer member args = m at answered ⊢
  cases answered with
  | list => exact confined_list usage
  | listPage => exact confined_listPage usage _ _
  | count => exact confined_count usage
  | names => exact confined_names usage
  | filterCalls | orderingCalls => exact confined_callsThat usage _
  | terminalCalls => exact confined_terminalCalls usage
  | terminal => exact (confined_terminal usage _ _).bind fun _ => value
  | renewal => exact (confined_renew usage _).bind fun _ => value
  | another => exact ((confined_lift usage (givenResults_failsByUse _)).map _).bind fun _ => .pure _
  | madeOfNothing | made => exact .throw (usage _ (misuse _))
  | replacement =>
    refine (confined_lift usage (attributeName_failsByUse _)).bind fun name => ?_
    exact (confined_replace usage name _).bind fun _ => value
  | removal =>
    refine (confined_lift usage (attributeName_failsByUse _)).bind fun name => ?_
    exact (confined_remove usage name).bind fun _ => value
  | lookUp =>
    refine (confined_lift usage (attributeName_failsByUse _)).bind fun name => ?_
    exact confined_lookUp usage name
  | fallBack => exact confined_lift usage (fallBack_failsByUse _)
  | layout => exact confined_lift usage (layOut_failsByUse _)
  | version =>
    split
    · exact .pure _
    · exact .throw (usage _ (misuse _))
  | state | directory => exact .get_bind fun h safe => ⟨safe, fun _ fails => nomatch fails⟩
  | size | subtype | other => exact .pure _

theorem confined_callMember {name : String} {member : Member}
    (known : type.member? name = some member) (args : List Datum) :
    Confined (RaisesOnly allowed) allowed (callMember name member args) := by
  unfold callMember
  split
  · rename_i failure refused
    exact .throw (usage _ (Member.refusal?_isUsage (fails_of_member? known) refused))
  · exact confined_answer usage _ _

theorem confined_take (name : String) (args : List Datum) :
    Confined (RaisesOnly allowed) allowed (take name args) := by
  refine .refuse (usage _ (unknownMember _)) ?_
  refine (confined_keep usage _ _).bind fun _ => .get_bind fun h safe => ?_
  split
  · rename_i failure rejected
    exact ⟨safe, fun _ fails => by
      cases fails
      exact safe.rejects _ (Entries.mem_of_lookup rejected)⟩
  · exact ⟨safe, fun _ fails => nomatch fails⟩

/-- Whatever a handle is asked for, it raises what it was set up with, or it is used wrongly. -/
theorem confined_call (name : String) (args : List Datum) :
    Confined (RaisesOnly allowed) allowed (call name args) := by
  refine confined_read fun found _ => ?_
  split
  · split
    · rename_i member foremost
      exact confined_callMember usage (Option.filter_eq_some_iff.1 foremost).1 _
    · exact .throw (usage _ (misuse _))
  · exact confined_callMember usage ‹_› _
  · exact confined_take usage _ _

end Members

end Handle

/-! ### Engines -/

namespace Engine

/-- Raises a failure that it was set up with. -/
def Raises (e : Engine) (failure : Failure) : Prop :=
  e.failure = some failure ∨ ∃ name, (name, failure) ∈ e.rejects

/-- Was set up with allowed failures only. -/
def RaisesOnly (allowed : Failure → Prop) (e : Engine) : Prop :=
  ∀ failure, e.Raises failure → allowed failure

theorem raisesOnly_ofEngine {allowed : Failure → Prop} {e : Engine} (h : e.RaisesOnly allowed) :
    (Handle.ofEngine e).RaisesOnly allowed := by
  refine ⟨fun entry mem failure held => ?_, fun entry mem => h _ (.inr ⟨_, mem⟩)⟩
  simp only [Handle.ofEngine, List.mem_cons, List.not_mem_nil, or_false] at mem
  rcases mem with rfl | rfl | rfl | rfl
  case inr.inr.inr =>
    cases setUp : e.failure with
    | none =>
      rw [setUp] at held
      cases held
    | some raised =>
      rw [setUp] at held
      cases held
      exact h _ (.inl setUp)
  all_goals cases held

theorem raisesOnly_withHandle {allowed : Failure → Prop} {e : Engine} {handle : Handle}
    (h : e.RaisesOnly allowed) (safe : handle.RaisesOnly allowed) :
    (e.withHandle handle).RaisesOnly allowed := by
  rintro failure (setUp | rejected)
  · simp only [withHandle] at setUp
    split at setUp
    · cases setUp
    · rename_i raised found
      cases setUp
      exact safe.attributes _ (Entries.mem_of_lookup found) _ rfl
    · exact h _ (.inl setUp)
  · exact h _ (.inr rejected)

section Calls

variable {allowed : Failure → Prop} {α : Type}

theorem confined_onHandle {action : HandleM α}
    (h : Confined (Handle.RaisesOnly allowed) allowed action) :
    Confined (RaisesOnly allowed) allowed (onHandle action) := by
  intro e safe
  obtain ⟨keeps, fails⟩ := h (Handle.ofEngine e) (raisesOnly_ofEngine safe)
  exact ⟨raisesOnly_withHandle safe keeps, fails⟩

variable (usage : ∀ failure : Failure, failure.IsUsage → allowed failure)

include usage

theorem confined_take (name : String) (args : List Datum) :
    Confined (RaisesOnly allowed) allowed (take name args) := by
  have records : Confined (RaisesOnly allowed) allowed
      (modify (record ⟨name, args⟩) : EngineM Unit) := .modify fun e safe => safe
  refine .refuse (usage _ (unknownMember _)) (records.bind fun _ => .get_bind fun e safe => ?_)
  split
  · rename_i failure rejected
    exact ⟨safe, fun _ fails => by
      cases fails
      exact safe _ (.inr ⟨_, Entries.mem_of_lookup rejected⟩)⟩
  · exact ⟨safe, fun _ fails => nomatch fails⟩

theorem confined_call (name : String) (args : List Datum) :
    Confined (RaisesOnly allowed) allowed (call name args) := by
  unfold call
  split
  · exact confined_onHandle (Handle.confined_call usage _ _)
  · exact (confined_take usage _ _).bind fun _ => .pure _

theorem confined_create (service factory : String) :
    Confined (RaisesOnly allowed) allowed (create service factory) := by
  refine .refuse (usage _ (unknownMember _)) (.refuse (usage _ (unknownMember _)) ?_)
  exact .modify fun e safe => safe

end Calls

end Engine
end QueryBinding
