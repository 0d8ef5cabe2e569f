import QueryBinding.Correlation.Context
/-!
Programs that set, clear and nest contexts. Running one reports after every step what the step gave
and which identifier was then in force.
-/
namespace QueryBinding

inductive ContextStep where
  /-- Puts a context in force that has the given identifier, or none. -/
  | set (id : Option Ulid)
  | create (id : Option Ulid)
  | header (text : Option String)
  | clear
  | getOrCreate
  | get
  /-- Steps in a scope with the given identifier or a new one; then a failure, if there is one. -/
  | within (id : Option Ulid) (steps : List ContextStep) (failure : Option Failure)

inductive ContextReport where
  | step (outcome : Except Failure (Option CorrelationId)) (current : Option CorrelationId)
  | scope (entered : Option CorrelationId) (steps : List ContextReport) (failure : Option Failure)
      (current : Option CorrelationId)

namespace ContextStep

/-- The identifier in force. -/
def currentId : StateM ContextState (Option CorrelationId) := do
  return (← Context.get).correlationId

/-- Puts a context in force and reports its identifier. -/
def enter (context : Context) : StateM ContextState (Except Failure (Option CorrelationId)) := do
  Context.set context
  return .ok context.correlationId

def report (action : StateM ContextState (Except Failure (Option CorrelationId))) :
    StateM ContextState ContextReport := do
  let outcome ← action
  return .step outcome (← currentId)

mutual

def run : ContextStep → StateM ContextState ContextReport
  | set id => report do
    Context.set ⟨id.map .given⟩
    return .ok none
  | create id => report do
    enter (← Context.create id)
  | header text => report do
    match ← (Context.ofHeader text).run with
    | .ok context => enter context
    | .error failure => return .error failure
  | clear => report do
    Context.clear
    return .ok none
  | getOrCreate => report do
    return .ok (← Context.getOrCreate).correlationId
  | get => report do
    return .ok none
  | within id steps failure => do
    let context := id.map fun ulid => Context.mk (some (.given ulid))
    let body (entered : Context) : ExceptT (Context × List ContextReport × Failure)
        (StateM ContextState) (Context × List ContextReport) := do
      let reports ← runAll steps
      match failure with
      | some failure => throw (entered, reports, failure)
      | none => return (entered, reports)
    match ← (Context.within context body).run with
    | .ok (entered, reports) =>
      return .scope entered.correlationId reports none (← currentId)
    | .error (entered, reports, failure) =>
      return .scope entered.correlationId reports (some failure) (← currentId)

def runAll : List ContextStep → StateM ContextState (List ContextReport)
  | [] => return []
  | step :: steps => do
    let report ← run step
    return report :: (← runAll steps)

end

end ContextStep
end QueryBinding
