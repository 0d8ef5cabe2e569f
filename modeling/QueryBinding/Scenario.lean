import QueryBinding.Query
/-!
Scenarios: a query type, an input for it, and expectations about the engine calls and the failure
that binding the input and building its query lead to. A scenario passes if every expectation is
met; a rejection of the input passes only if some expectation is about a failure.
-/
namespace QueryBinding

inductive Expectation where
  | calls (call : Call)
  | omits (name : String)
  | filterCalls (count : Datum)
  | ordersBy (orderings : List (String × SortOrder))
  | fails (kind : FailureKind)
  | callsNothing
deriving Repr

/-- What a scenario led to: the engine after it, and the rejection of its input, if any. -/
structure ScenarioResult where
  engine : Engine
  rejection : Option Failure

namespace Expectation

/-- Calls that agree one by one. -/
def sameCalls : List Call → List Call → Bool
  | [], [] => true
  | c :: cs, d :: ds => c.agrees d && sameCalls cs ds
  | _, _ => false

/-- An ordering call and a direction call for each criterion. -/
def orderingCalls (orderings : List (String × SortOrder)) : List Call :=
  orderings.flatMap fun (name, order) => [⟨name, []⟩, ⟨order.symbol, []⟩]

def isMet (result : ScenarioResult) : Expectation → Bool
  | calls call => result.engine.calls.any call.agrees
  | omits name => !result.engine.calls.any (·.name == name)
  | filterCalls count => (Datum.number result.engine.filterCalls.length).agrees count
  | ordersBy orderings => sameCalls result.engine.orderingCalls (orderingCalls orderings)
  | fails kind => result.rejection.any (·.isA kind)
  | callsNothing => result.engine.calls.isEmpty

def describe : Expectation → String
  | calls call => "should call " ++ call.name ++ Datum.tupleText call.args
  | omits name => "should not call " ++ name
  | filterCalls count => "should make exactly " ++ count.display ++ " filter calls"
  | ordersBy orderings =>
    "should order by " ++
      (Datum.list ((orderingCalls orderings).map fun call => .text call.name)).display
  | fails kind => "should contain error of type " ++ kind.name
  | callsNothing => "should not make any engine calls"

def isAboutFailure : Expectation → Bool
  | fails _ => true
  | _ => false

end Expectation

structure Scenario where
  queryType : QueryType
  parameters : List (String × Datum) := []
  /-- A body, which counts before the parameters. -/
  body : Option Datum := none
  expectations : List Expectation := []

namespace Scenario

/-- The step that gives parameters, as messages name it. -/
def givenParametersName : String := "QueryScenario.given_parameters()"

/-- The name under which a step knows the scenario itself. -/
def ownName : String := "self"

/-- Gives further parameters by name. No parameter can have the name of the scenario itself. -/
def givenParameters (s : Scenario) (parameters : Datum) : Except Failure Scenario :=
  match parameters with
  | .object entries =>
    if (Entries.keys entries).contains ownName then
      .error (.misuse (.repeatedArgument givenParametersName ownName))
    else .ok { s with parameters := Entries.putAll s.parameters entries }
  | d => .error (.misuse (.notEntries ("sieve.testing.scenario." ++ givenParametersName)
      d.typeName))

/-- Gives a body, or takes it back if it is null. -/
def givenBody (s : Scenario) (body : Datum) : Scenario :=
  { s with body := if body.isNull then none else some body }

def expect (s : Scenario) (expectation : Expectation) : Scenario :=
  { s with expectations := s.expectations ++ [expectation] }

/-- A failure is expected, and no call on the engine's handle before it. -/
def shouldFail (s : Scenario) (kind : FailureKind) : Scenario :=
  (s.expect (.fails kind)).expect .callsNothing

def input (s : Scenario) : Except Failure QueryInput :=
  match s.body with
  | some body => .ok (.body body)
  | none => (RawParameters.ofEntries s.parameters).map .parameters

/-- Binds the input and builds its query on an engine. -/
def perform (s : Scenario) : EngineM Unit := do
  let input ← (s.input : Except Failure QueryInput)
  (← (s.queryType.ofInput input : Except Failure Query)).build

/-- The first expectation that is not met is a failure. -/
def check (result : ScenarioResult) : List Expectation → Except Failure Unit
  | [] => .ok ()
  | e :: es => if e.isMet result then check result es else .error (.unmetExpectation e.describe)

/-- Runs the scenario on a fresh engine. -/
def run (s : Scenario) : Except Failure Unit :=
  match s.perform.run.run {} with
  | (.ok (), engine) => check ⟨engine, none⟩ s.expectations
  | (.error failure, engine) =>
    if failure.isA .service && s.expectations.any (·.isAboutFailure) then
      check ⟨engine, some failure⟩ s.expectations
    else .error failure

end Scenario
end QueryBinding
