import Mathlib.Logic.Relation
import QueryBinding.Correlation.Context
import QueryBinding.Proofs.Correlation.UlidText
import QueryBinding.Proofs.Text.Trimmed
/-!
Headers that carry identifiers from one service to the next. A header begins a new operation if it
is absent or blank, continues the one whose identifier it spells between blanks, and is rejected
otherwise; so what is sent on in a header is the identifier that is received, over any number of
services.
-/
namespace QueryBinding

open HasContext Text

/-! ### Texts that carry identifiers -/

namespace Ulid

/-- A text that spells an identifier between blanks. -/
inductive Carries : String → Ulid → Prop
  | between (frontBlank : Blank front) (spells : Spells spelled u) (backBlank : Blank back) :
    Carries (String.ofList (front ++ (spelled ++ back))) u

variable {cs : List Char} {text : String} {header : Option String} {u : Ulid} {failure : Failure}

theorem Spells.isBlank_eq_false (spells : Spells cs u) {c : Char} (mem : c ∈ cs) :
    isBlank c = false := by
  have upper : ∀ d, isBlank (writeDigit d) = false := by decide +kernel
  have lower : ∀ d, isBlank (writeDigit d).toLower = false := by decide +kernel
  obtain ⟨d, rfl | rfl⟩ := exists_forall₂_iff.1 ⟨u.digits, spells_iff.1 spells⟩ c mem
  · exact upper d
  · exact lower d

theorem Spells.trimmed (spells : Spells cs u) : Trimmed cs where
  front := fun _ begins => spells.isBlank_eq_false (List.mem_of_mem_head? begins)
  back := fun _ ends => spells.isBlank_eq_false (List.mem_of_getLast? ends)

theorem carries_iff : Carries text u ↔ Spells (trim text.toList) u := by
  constructor
  · rintro ⟨frontBlank, spells, backBlank⟩
    rw [String.toList_ofList, trim_between frontBlank backBlank, trim_of_trimmed spells.trimmed]
    exact spells
  · intro spells
    obtain ⟨front, back, whole, frontBlank, backBlank⟩ := exists_trim text.toList
    have carries := Carries.between frontBlank spells backBlank
    rwa [← whole, String.ofList_toList] at carries

theorem carries_write (u : Ulid) : Carries (String.ofList u.write) u := by
  rw [carries_iff, String.toList_ofList, trim_of_trimmed (spells_write u).trimmed]
  exact spells_write u

theorem exists_carries_iff : (∃ u, Carries text u) ↔ IsText (trim text.toList) := by
  simp only [carries_iff, exists_spells_iff]

/-! ### Reading a header -/

theorem ofHeader_of_blank (blank : Blank text.toList) : ofHeader (some text) = .ok none := by
  unfold ofHeader
  dsimp only
  rw [trim_eq_nil_iff.2 blank]
  rfl

theorem ofHeader_of_not_blank (filled : ¬Blank text.toList) :
    ofHeader (some text) =
      (read? (trim text.toList)).elim (.error (.invalidRequest (.correlationId text)))
        fun u => .ok (some u) := by
  have nonempty : (trim text.toList).isEmpty = false :=
    List.isEmpty_eq_false_iff.2 fun empty => filled (trim_eq_nil_iff.1 empty)
  unfold ofHeader
  dsimp only
  rw [nonempty]
  cases read? (trim text.toList) <;> rfl

theorem ofHeader_eq_none :
    ofHeader header = .ok none ↔ ∀ text, header = some text → Blank text.toList := by
  cases header with
  | none => simp [ofHeader]
  | some text =>
    by_cases blank : Blank text.toList
    · simp [ofHeader_of_blank blank, blank]
    · rw [ofHeader_of_not_blank blank]
      cases read? (trim text.toList) <;> simp [blank]

theorem ofHeader_eq_some :
    ofHeader header = .ok (some u) ↔ ∃ text, header = some text ∧ Carries text u := by
  cases header with
  | none => simp [ofHeader]
  | some text =>
    simp only [Option.some.injEq, exists_eq_left', carries_iff, ← read?_eq_some]
    by_cases blank : Blank text.toList
    · have empty : ¬Spells [] u := fun spells => spells.ne_nil rfl
      rw [ofHeader_of_blank blank, trim_eq_nil_iff.2 blank, read?_eq_some]
      simp [empty]
    · rw [ofHeader_of_not_blank blank]
      cases read? (trim text.toList) <;> simp

theorem ofHeader_eq_error :
    ofHeader header = .error failure ↔
      ∃ text, header = some text ∧ ¬Blank text.toList ∧ ¬IsText (trim text.toList) ∧
        failure = .invalidRequest (.correlationId text) := by
  cases header with
  | none => simp [ofHeader]
  | some text =>
    simp only [Option.some.injEq, exists_eq_left', ← exists_spells_iff, ← read?_eq_some]
    by_cases blank : Blank text.toList
    · simp [ofHeader_of_blank blank, blank]
    · rw [ofHeader_of_not_blank blank]
      cases read? (trim text.toList) <;> simp [blank, eq_comm]

end Ulid

/-- The identifier itself, if `generated` are those that were issued. -/
def CorrelationId.ulid (generated : Nat → Ulid) : CorrelationId → Ulid
  | given u => u
  | issued serial => generated serial

namespace Context

open Ulid

/-- A context is continued by a service that receives its identifier in a header. -/
inductive Hop (generated : Nat → Ulid) (context next : Context) : Prop
  | sent {id : CorrelationId} {text : String} {s : ContextState}
    (known : context.correlationId = some id) (carries : Carries text (id.ulid generated))
    (continues : (runFrom (ofHeader (some text)) s).1 = .ok next) : Hop generated context next

variable {σ : Type} [HasContext σ] {context next : Context} {generated : Nat → Ulid}

/-! ### Contexts from headers -/

theorem runFrom_ofHeader (header : Option String) (s : σ) :
    runFrom (ofHeader header) s =
      match Ulid.ofHeader header with
      | .ok id => (.ok ((create id : StateM σ Context).run s).1, ((create id).run s).2)
      | .error failure => (.error failure, s) := by
  unfold ofHeader
  cases Ulid.ofHeader header <;> rfl

theorem runFrom_ofHeader_of_carries {text : String} {u : Ulid} (carries : Carries text u) (s : σ) :
    runFrom (ofHeader (some text)) s = (.ok ⟨some (.given u)⟩, s) := by
  rw [runFrom_ofHeader, ofHeader_eq_some.2 ⟨text, rfl, carries⟩]
  rfl

theorem Hop.exists_eq (hop : Hop generated context next) :
    ∃ id, context.correlationId = some id ∧ next = ⟨some (.given (id.ulid generated))⟩ := by
  obtain ⟨known, carries, continues⟩ := hop
  rw [runFrom_ofHeader_of_carries carries] at continues
  exact ⟨_, known, (Except.ok.inj continues).symm⟩

/-- Over any number of services an identifier stays the same. -/
theorem ulid_of_hops (hops : Relation.ReflTransGen (Hop generated) context next) :
    next.correlationId.map (·.ulid generated) = context.correlationId.map (·.ulid generated) := by
  induction hops with
  | refl => rfl
  | tail _ hop ih =>
    obtain ⟨id, known, rfl⟩ := hop.exists_eq
    rw [← ih, known]
    rfl

theorem begins_iff (header : Option String) (s : σ) :
    (∃ t, runFrom (ofHeader header) s = (.ok ⟨some (.issued (contextState s).issued)⟩, t) ∧
        (contextState t).issued = (contextState s).issued + 1) ↔
      ∀ text, header = some text → Blank text.toList := by
  rw [← ofHeader_eq_none, runFrom_ofHeader]
  constructor
  · rintro ⟨t, runs, _⟩
    rcases read : Ulid.ofHeader header with failure | _ | u
    · rw [read] at runs
      cases runs
    · rfl
    · rw [read] at runs
      cases runs
  · intro reads
    rw [reads]
    refine ⟨_, rfl, ?_⟩
    exact congrArg ContextState.issued (contextState_with _ s)

theorem continues_iff (header : Option String) (s : σ) (u : Ulid) :
    runFrom (ofHeader header) s = (.ok ⟨some (.given u)⟩, s) ↔
      ∃ text, header = some text ∧ Carries text u := by
  constructor
  · intro runs
    rw [runFrom_ofHeader] at runs
    rcases read : Ulid.ofHeader header with failure | _ | v
    · rw [read] at runs
      cases runs
    · rw [read] at runs
      cases runs
    · rw [read] at runs
      cases (Prod.mk.inj runs).1
      exact ofHeader_eq_some.1 read
  · rintro ⟨text, rfl, carries⟩
    exact runFrom_ofHeader_of_carries carries s

theorem rejects_iff (header : Option String) (s : σ) (failure : Failure) :
    (runFrom (ofHeader header) s).1 = .error failure ↔
      ∃ text, header = some text ∧ ¬Blank text.toList ∧ ¬IsText (trim text.toList) ∧
        failure = .invalidRequest (.correlationId text) := by
  rw [← ofHeader_eq_error, runFrom_ofHeader]
  cases Ulid.ofHeader header <;> simp

/-- Headers, and what becomes of identifiers in them. A header begins a new operation exactly if it
is absent or blank, continues one exactly if it is trimmed to the text of an identifier, and is
rejected exactly if neither holds. An identifier is found again between blanks and in either case;
what a header continues is continued from its own text as well, and over any number of services the
identifier stays the same. -/
theorem ofHeader_continues (generated : Nat → Ulid) :
    (∀ (header : Option String) (s : σ),
      ((∃ t, runFrom (ofHeader header) s = (.ok ⟨some (.issued (contextState s).issued)⟩, t) ∧
          (contextState t).issued = (contextState s).issued + 1) ↔
        ∀ text, header = some text → Blank text.toList) ∧
      ((∃ u, runFrom (ofHeader header) s = (.ok ⟨some (.given u)⟩, s)) ↔
        ∃ text, header = some text ∧ IsText (trim text.toList)) ∧
      ∀ failure, (runFrom (ofHeader header) s).1 = .error failure ↔
        ∃ text, header = some text ∧ ¬Blank text.toList ∧ ¬IsText (trim text.toList) ∧
          failure = .invalidRequest (.correlationId text)) ∧
    (∀ (id : CorrelationId) (front spelled back : List Char) (s : σ),
      Blank front → Spells spelled (id.ulid generated) → Blank back →
      runFrom (ofHeader (some (String.ofList (front ++ (spelled ++ back))))) s =
        (.ok ⟨some (.given (id.ulid generated))⟩, s)) ∧
    (∀ (text : String) (s t u : σ) (context : Context), ¬Blank text.toList →
      runFrom (ofHeader (some text)) s = (.ok context, t) →
      ∃ id, context.correlationId = some id ∧
        runFrom (ofHeader (some (String.ofList (id.ulid generated).write))) u = (.ok context, u)) ∧
    ∀ context next, Relation.ReflTransGen (Hop generated) context next →
      next.correlationId.map (·.ulid generated) = context.correlationId.map (·.ulid generated) := by
  refine ⟨fun header s => ⟨begins_iff header s, ?_, rejects_iff header s⟩, ?_, ?_,
    fun context next => ulid_of_hops⟩
  · simp only [continues_iff, ← exists_carries_iff]
    constructor
    · rintro ⟨u, text, given, carries⟩
      exact ⟨text, given, u, carries⟩
    · rintro ⟨text, given, u, carries⟩
      exact ⟨u, text, given, carries⟩
  · intro id front spelled back s frontBlank spells backBlank
    exact runFrom_ofHeader_of_carries (.between frontBlank spells backBlank) s
  · intro text s t u context filled runs
    rw [runFrom_ofHeader] at runs
    rcases read : Ulid.ofHeader (some text) with failure | _ | v
    · rw [read] at runs
      cases runs
    · exact absurd (ofHeader_eq_none.1 read text rfl) filled
    · rw [read] at runs
      cases runs
      exact ⟨.given v, rfl, runFrom_ofHeader_of_carries (carries_write v) u⟩

theorem ofHeader_continues_spaced :
    let spelled := "01arz3ndektsv4RRFFQ69G5FAV".toList
    let text := String.ofList (['\t'] ++ (spelled ++ [' ', '\u3000']))
    let s : ContextState := { issued := 2 }
    Blank ['\t'] ∧ Blank [' ', '\u3000'] ∧ ¬Blank text.toList ∧ ∃ u : Ulid, Spells spelled u ∧
      runFrom (ofHeader (some text)) s = (.ok ⟨some (.given u)⟩, s) ∧
      runFrom (ofHeader (some (String.ofList u.write))) s = (.ok ⟨some (.given u)⟩, s) ∧
      ∃ received, Relation.ReflTransGen (Hop fun _ => u) ⟨some (.issued 1)⟩ received ∧
        received.correlationId.map (·.ulid fun _ => u) = some u := by
  intro spelled text s
  have front : Blank ['\t'] := by decide +kernel
  have back : Blank [' ', '\u3000'] := by decide +kernel
  have filled : ¬Blank text.toList := by decide +kernel
  obtain ⟨u, spells⟩ := exists_spells_iff.2 (show IsText spelled by decide +kernel)
  obtain ⟨_, found, again, same⟩ := @ofHeader_continues ContextState _ fun _ => u
  have received := found (.given u) _ _ _ s front spells back
  obtain ⟨_, ⟨⟩, sent⟩ := again text s s s _ filled received
  have hop : Hop (fun _ => u) ⟨some (.issued 1)⟩ ⟨some (.given u)⟩ :=
    .sent rfl (.between front spells back) (congrArg Prod.fst received)
  have hops := Relation.ReflTransGen.single hop
  exact ⟨front, back, filled, u, spells, received, sent, _, hops, same _ _ hops⟩

end Context

end QueryBinding
