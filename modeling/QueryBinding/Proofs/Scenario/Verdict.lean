import QueryBinding.Proofs.Catalog.Calls
import QueryBinding.Proofs.Catalog.Rejection
import QueryBinding.Proofs.Entries
import QueryBinding.Scenario
/-!
Verdicts of scenarios. What binding an input and building its query leads to decides, together with
the expectations, how a scenario ends: a rejection that nothing was said about is told itself, and
otherwise the first expectation that is not met. For the types of the catalogue every rejection is
one by the service and leaves the engine alone, so that this is all that can happen.
-/
namespace QueryBinding

namespace Expectation

variable {result : ScenarioResult}

/-- What an expectation says about the calls and the rejection that a scenario led to. -/
def Met (result : ScenarioResult) : Expectation → Prop
  | calls call => ∃ c ∈ result.engine.calls, call.agrees c = true
  | omits name => ∀ c ∈ result.engine.calls, c.name ≠ name
  | filterCalls count => (Datum.number result.engine.filterCalls.length).agrees count = true
  | ordersBy orderings =>
    List.Forall₂ (fun made expected => made.agrees expected = true) result.engine.orderingCalls
      (orderingCalls orderings)
  | fails kind => ∃ failure, result.rejection = some failure ∧ failure.isA kind = true
  | callsNothing => result.engine.calls = []

theorem sameCalls_iff {cs ds : List Call} :
    sameCalls cs ds = true ↔ List.Forall₂ (fun c d => c.agrees d = true) cs ds := by
  induction cs generalizing ds with
  | nil => cases ds <;> simp [sameCalls]
  | cons c cs ih => cases ds <;> simp [sameCalls, ih]

theorem isMet_iff {e : Expectation} : e.isMet result = true ↔ e.Met result := by
  cases e with
  | calls call => simp only [isMet, Met, List.any_eq_true]
  | omits name => simp [isMet, Met]
  | filterCalls count => rfl
  | ordersBy orderings => exact sameCalls_iff
  | fails kind => cases rejects : result.rejection <;> simp [isMet, Met, rejects]
  | callsNothing => exact List.isEmpty_iff

theorem any_isAboutFailure {es : List Expectation} :
    es.any (·.isAboutFailure) = true ↔ ∃ kind, fails kind ∈ es := by
  rw [List.any_eq_true]
  constructor
  · rintro ⟨e, mem, about⟩
    cases e <;> first | exact ⟨_, mem⟩ | cases about
  · rintro ⟨kind, mem⟩
    exact ⟨_, mem, rfl⟩

end Expectation

/-- The value that gives a parameter in a scenario: a text or a list of texts. -/
def RawValue.toDatum : RawValue → Datum
  | one s => .text s
  | many texts => .list (texts.map .text)

theorem RawValue.ofDatum_toDatum (raw : RawValue) : ofDatum raw.toDatum = .ok raw := by
  cases raw with
  | one s => rfl
  | many texts =>
    have shown : (texts.map Datum.text).map Datum.display = texts := by
      rw [List.map_map]
      exact List.map_id _
    simp only [toDatum, ofDatum, Datum.elements?, shown]

theorem RawParameters.ofEntries_toDatum (pairs : List (String × RawValue)) :
    ofEntries (pairs.map (Prod.map id RawValue.toDatum)) = .ok (normalize pairs) := by
  refine bind_eq_ok.2 ⟨pairs, mapM_eq_ok.2 ?_, rfl⟩
  rw [List.map_map]
  refine List.map_congr_left fun entry _ => ?_
  change (RawValue.ofDatum entry.2.toDatum >>= fun raw => pure (entry.1, raw)) = .ok entry
  rw [RawValue.ofDatum_toDatum]
  rfl

/-- Parameters that were put together before they are normalized are the same parameters. -/
theorem RawParameters.normalize_putAll (pairs : List (String × RawValue)) :
    normalize (Entries.putAll [] pairs) = normalize pairs := by
  have collects (pairs : List (String × RawValue)) :
      normalize pairs = (Entries.putAll [] pairs).map (Prod.map id RawValue.texts) :=
    Entries.putAll_map RawValue.texts [] pairs
  rw [collects, collects, Entries.putAll_putAll_nil]

namespace Scenario

/-- The calls and the rejection that a scenario leads to. -/
def outcome (s : Scenario) : ScenarioResult where
  engine := (runFrom s.perform {}).2
  rejection :=
    match (runFrom s.perform {}).1 with
    | .ok _ => none
    | .error failure => some failure

variable {s : Scenario} {result : ScenarioResult} {es : List Expectation}

/-! ### Verdicts -/

/-- Some expectation is about a failure, if there was one. -/
def Declared (result : ScenarioResult) (es : List Expectation) : Prop :=
  result.rejection ≠ none → ∃ kind, .fails kind ∈ es

/-- How a scenario ends, by what it led to and what was expected of it. -/
inductive Verdict (result : ScenarioResult) (es : List Expectation) : Except Failure Unit → Prop
  | passed (met : ∀ e ∈ es, e.Met result) (declared : Declared result es) :
    Verdict result es (.ok ())
  | rejected {failure : Failure} (rejects : result.rejection = some failure)
      (undeclared : ∀ kind, .fails kind ∉ es) : Verdict result es (.error failure)
  | unmet {before after : List Expectation} {e : Expectation} (declared : Declared result es)
      (cut : es = before ++ e :: after) (met : ∀ b ∈ before, b.Met result) (fails : ¬e.Met result) :
    Verdict result es (.error (.unmetExpectation e.describe))

theorem check_of_met (met : ∀ e ∈ es, e.Met result) : check result es = .ok () := by
  induction es with
  | nil => rfl
  | cons e es ih =>
    obtain ⟨first, others⟩ := List.forall_mem_cons.1 met
    rw [check, if_pos (Expectation.isMet_iff.2 first), ih others]

theorem check_of_unmet {before after : List Expectation} {e : Expectation}
    (met : ∀ b ∈ before, b.Met result) (fails : ¬e.Met result) :
    check result (before ++ e :: after) = .error (.unmetExpectation e.describe) := by
  induction before with
  | nil => rw [List.nil_append, check, if_neg (mt Expectation.isMet_iff.1 fails)]
  | cons b before ih =>
    obtain ⟨first, others⟩ := List.forall_mem_cons.1 met
    rw [List.cons_append, check, if_pos (Expectation.isMet_iff.2 first), ih others]

theorem run_eq (s : Scenario) :
    s.run = s.outcome.rejection.elim (check s.outcome s.expectations) fun failure =>
      if failure.isA .service && s.expectations.any (·.isAboutFailure) then
        check s.outcome s.expectations
      else .error failure := by
  unfold outcome
  change (match runFrom s.perform {} with
    | (.ok (), engine) => check ⟨engine, none⟩ s.expectations
    | (.error failure, engine) =>
      if failure.isA .service && s.expectations.any (·.isAboutFailure) then
        check ⟨engine, some failure⟩ s.expectations
      else .error failure) = _
  rcases runFrom s.perform {} with ⟨failure | _, engine⟩ <;> rfl

/-- Every rejection is one by the service. -/
def RejectedByService (s : Scenario) : Prop :=
  ∀ failure, s.outcome.rejection = some failure → failure.isA .service = true

theorem run_eq_check (service : s.RejectedByService)
    (declared : Declared s.outcome s.expectations) :
    s.run = check s.outcome s.expectations := by
  rw [run_eq]
  cases rejects : s.outcome.rejection with
  | none => rfl
  | some failure =>
    have isDeclared := Expectation.any_isAboutFailure.2 (declared (by simp [rejects]))
    rw [Option.elim_some, service failure rejects, isDeclared]
    rfl

theorem run_eq_rejection {failure : Failure} (rejects : s.outcome.rejection = some failure)
    (undeclared : ∀ kind, .fails kind ∉ s.expectations) : s.run = .error failure := by
  have none : s.expectations.any (·.isAboutFailure) = false :=
    Bool.eq_false_iff.2 fun any => by
      obtain ⟨kind, mem⟩ := Expectation.any_isAboutFailure.1 any
      exact undeclared kind mem
  rw [run_eq, rejects, Option.elim_some, none, Bool.and_false]
  rfl

theorem Verdict.run_eq {verdict : Except Failure Unit} (service : s.RejectedByService)
    (h : Verdict s.outcome s.expectations verdict) : s.run = verdict := by
  cases h with
  | passed met declared => rw [run_eq_check service declared, check_of_met met]
  | rejected rejects undeclared => exact run_eq_rejection rejects undeclared
  | unmet declared cut met fails =>
    rw [run_eq_check service declared, cut, check_of_unmet met fails]

theorem exists_verdict (result : ScenarioResult) (es : List Expectation) :
    ∃ verdict, Verdict result es verdict := by
  by_cases declared : Declared result es
  · rcases forall_or_exists_first (·.Met result) es with met | ⟨before, e, after, cut, met, fails⟩
    · exact ⟨_, .passed met declared⟩
    · exact ⟨_, .unmet declared cut met fails⟩
  · obtain ⟨rejects, undeclared⟩ := Classical.not_imp.1 declared
    obtain ⟨failure, rejects⟩ := Option.ne_none_iff_exists'.1 rejects
    exact ⟨_, .rejected rejects fun kind mem => undeclared ⟨kind, mem⟩⟩

theorem run_eq_iff {verdict : Except Failure Unit} (service : s.RejectedByService) :
    s.run = verdict ↔ Verdict s.outcome s.expectations verdict := by
  constructor
  · rintro rfl
    obtain ⟨verdict, holds⟩ := exists_verdict s.outcome s.expectations
    exact holds.run_eq service ▸ holds
  · exact Verdict.run_eq service

theorem run_eq_ok (service : s.RejectedByService) :
    s.run = .ok () ↔
      (∀ e ∈ s.expectations, e.Met s.outcome) ∧ Declared s.outcome s.expectations := by
  rw [run_eq_iff service]
  constructor
  · rintro (⟨met, declared⟩ | _ | _)
    exact ⟨met, declared⟩
  · rintro ⟨met, declared⟩
    exact .passed met declared

theorem run_congr {other : Scenario} (outcome : other.outcome = s.outcome)
    (same : other.expectations = s.expectations) : other.run = s.run := by
  rw [run_eq, run_eq, outcome, same]

theorem passes_of_perm {other : Scenario} (service : s.RejectedByService)
    (outcome : other.outcome = s.outcome) (same : other.expectations.Perm s.expectations) :
    other.run = .ok () ↔ s.run = .ok () := by
  have service' : other.RejectedByService := by
    unfold RejectedByService
    rw [outcome]
    exact service
  rw [run_eq_ok service, run_eq_ok service', outcome]
  have met : (∀ e ∈ other.expectations, e.Met s.outcome) ↔
      ∀ e ∈ s.expectations, e.Met s.outcome := by
    simp only [same.mem_iff]
  have declared : Declared s.outcome other.expectations ↔ Declared s.outcome s.expectations := by
    simp only [Declared, same.mem_iff]
  exact and_congr met declared

/-! ### Scenarios of the catalogue -/

/-- What the steps in which a scenario is written say: all parameters that were given, in order, the
body that was given last, and the expectations in the order in which they were declared. -/
structure Told where
  parameters : List (String × RawValue) := []
  body : Option (List (String × Datum)) := none
  expectations : List Expectation := []

/-- A body counts before the parameters. -/
def Told.input (told : Told) : QueryInput :=
  match told.body with
  | some entries => .body (.object entries)
  | none => .parameters (.normalize told.parameters)

/-- The scenarios that can be written about a type of the catalogue, step by step, and what the steps
say. Parameters are texts or lists of texts, and a body is an object. -/
inductive Written (t : Catalog) : Told → Scenario → Prop
  | start : Written t {} { queryType := t.queryType }
  | parameters {told : Told} {s next : Scenario} {pairs : List (String × RawValue)}
      (written : Written t told s)
      (given : s.givenParameters (.object (pairs.map (Prod.map id RawValue.toDatum))) =
        .ok next) :
    Written t { told with parameters := told.parameters ++ pairs } next
  | body {told : Told} {s : Scenario} (entries : List (String × Datum))
      (written : Written t told s) :
    Written t { told with body := some entries } (s.givenBody (.object entries))
  | noBody {told : Told} {s : Scenario} (written : Written t told s) :
    Written t { told with body := none } (s.givenBody .null)
  | expect {told : Told} {s : Scenario} (e : Expectation) (written : Written t told s) :
    Written t { told with expectations := told.expectations ++ [e] } (s.expect e)
  | shouldFail {told : Told} {s : Scenario} (kind : FailureKind) (written : Written t told s) :
    Written t { told with expectations := told.expectations ++ [.fails kind, .callsNothing] }
      (s.shouldFail kind)

/-- A scenario holds what its steps say. -/
structure Holds (t : Catalog) (told : Told) (s : Scenario) : Prop where
  queryType : s.queryType = t.queryType
  parameters : s.parameters =
    (Entries.putAll [] told.parameters).map (Prod.map id RawValue.toDatum)
  body : s.body = told.body.map .object
  expectations : s.expectations = told.expectations

variable {t : Catalog} {told : Told}

/-- Parameters can be given unless one of them has the name of the scenario itself. -/
theorem exists_givenParameters {entries : List (String × Datum)}
    (named : ownName ∉ Entries.keys entries) :
    s.givenParameters (.object entries) =
      .ok { s with parameters := Entries.putAll s.parameters entries } := by
  rw [givenParameters, if_neg]
  simpa using named

theorem parameters_of_givenParameters {next : Scenario} {entries : List (String × Datum)}
    (given : s.givenParameters (.object entries) = .ok next) :
    next = { s with parameters := Entries.putAll s.parameters entries } := by
  rw [givenParameters] at given
  split at given
  · cases given
  · exact (Except.ok.inj given).symm

theorem Written.holds (written : Written t told s) : Holds t told s := by
  induction written with
  | start => exact ⟨rfl, rfl, rfl, rfl⟩
  | parameters _ given ih =>
    obtain rfl := parameters_of_givenParameters given
    refine ⟨ih.queryType, ?_, ih.body, ih.expectations⟩
    rw [Entries.putAll_append, ← Entries.putAll_map, ← ih.parameters]
  | body entries _ ih => exact ⟨ih.queryType, ih.parameters, rfl, ih.expectations⟩
  | noBody _ ih => exact ⟨ih.queryType, ih.parameters, rfl, ih.expectations⟩
  | expect e _ ih =>
    exact ⟨ih.queryType, ih.parameters, ih.body, congrArg (· ++ [e]) ih.expectations⟩
  | shouldFail kind _ ih =>
    refine ⟨ih.queryType, ih.parameters, ih.body, ?_⟩
    rw [← ih.expectations]
    exact List.append_assoc ..

theorem Holds.input_eq (holds : Holds t told s) : s.input = .ok told.input := by
  rw [input, holds.body, Told.input]
  cases told.body with
  | some entries => rfl
  | none =>
    dsimp only [Option.map_none]
    rw [holds.parameters, RawParameters.ofEntries_toDatum, RawParameters.normalize_putAll]
    rfl

/-- What the input of a scenario leads to: the calls of its query, or nothing but a rejection. -/
inductive LeadsTo (t : Catalog) (input : QueryInput) : ScenarioResult → Prop
  | built {q : Query} (made : t.queryType.ofInput input = .ok q) :
    LeadsTo t input ⟨(({} : Engine).recordFactory t.queryType.factory.method).recordAll
      (q.filterCalls ++ q.sortCalls), none⟩
  | rejected {failure : Failure} (rejects : t.queryType.ofInput input = .error failure)
      (service : failure.isA .service = true) : LeadsTo t input ⟨{}, some failure⟩

/-- Every failure to make a query of what was given is one by the service. -/
theorem ofInput_isA_service (t : Catalog) (told : Told) :
    FailsOnly (fun failure => failure.isA .service = true) (t.queryType.ofInput told.input) := by
  have rejections : FailsOnly t.queryType.Rejection (t.queryType.ofInput told.input) := by
    unfold Told.input
    cases told.body with
    | none => exact t.hasFacets.fromParameters_rejection t.sorting_visible _
    | some entries => exact t.hasFacets.fromBody_rejection t.sorting_visible entries
  exact rejections.mono fun failure rejected => by cases rejected <;> rfl

theorem Holds.perform_eq (holds : Holds t told s) :
    s.perform = (do (← (t.queryType.ofInput told.input : Except Failure Query)).build) := by
  rw [perform, holds.input_eq, holds.queryType, lift_ok_bind]

theorem Holds.outcome_congr (holds : Holds t told s) {others : Told} {other : Scenario}
    (holds' : Holds t others other) (same : others.input = told.input) :
    other.outcome = s.outcome := by
  unfold outcome
  rw [holds.perform_eq, holds'.perform_eq, same]

theorem Holds.leadsTo (holds : Holds t told s) : LeadsTo t told.input s.outcome := by
  rw [outcome, holds.perform_eq]
  cases made : t.queryType.ofInput told.input with
  | ok q =>
    have builds := Catalog.runFrom_build (e := {}) ⟨.request told.input, made⟩ rfl
    rw [lift_ok_bind, builds]
    exact .built made
  | error failure =>
    rw [lift_error_bind, runFrom_throw]
    exact .rejected made (ofInput_isA_service t told failure made)

theorem LeadsTo.service {input : QueryInput} {result : ScenarioResult}
    (leads : LeadsTo t input result) {failure : Failure}
    (rejects : result.rejection = some failure) :
    failure.isA .service = true ∧ result.engine = {} := by
  cases leads with
  | built => cases rejects
  | rejected _ service =>
    cases rejects
    exact ⟨service, rfl⟩

end Scenario
end QueryBinding
