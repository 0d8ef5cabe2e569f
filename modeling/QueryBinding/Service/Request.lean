import QueryBinding.Correlation.Context
import QueryBinding.Page
import QueryBinding.Query
/-!
Requests on their way to the engine, and the world in which they are handled: the engine, the
context in force, the log and a trace of what happened on the way.
-/
namespace QueryBinding

inductive Operation where
  | list
  | count
deriving DecidableEq, Repr

def Operation.name : Operation → String
  | list => "list"
  | count => "count"

/-- A query to be executed. The page of a count has no meaning. -/
structure Request where
  query : Query
  operation : Operation
  page : Page := .unbounded

/-- What a request gives: results, or their number. -/
inductive Outcome (ρ : Type) where
  | results (results : List ρ)
  | count (count : Int)
deriving Repr

inductive LogEvent where
  | executing
  | failed (kind : FailureKind)
deriving DecidableEq, Repr

def LogEvent.message : LogEvent → String
  | executing => "Executing Query"
  | failed _ => "Query Failed"

/-- A log record tells which query was executed how, but none of its values. -/
structure LogRecord where
  level : Nat
  event : LogEvent
  queryType : String
  operation : Operation
  correlationId : Option CorrelationId
deriving DecidableEq, Repr

/-- An entry of the trace. -/
inductive TraceNote where
  | before (name : String)
  | after (name : String)
  | captured (queryType : String) (operation : Operation) (page : Page)
  | recovered (kind : FailureKind)
deriving DecidableEq, Repr

structure World where
  engine : Engine := {}
  context : ContextState := {}
  log : List LogRecord := []
  trace : List TraceNote := []
  /-- The least level of records that are kept. -/
  logThreshold : Nat := 1

instance : HasContext World where
  contextState := World.context
  withContextState c w := { w with context := c }
  contextState_with _ _ := rfl

/-- A computation in the world, which may fail; a failure does not undo what happened before. -/
abbrev ServiceM := ExceptT Failure (StateM World)

namespace ServiceM

/-- Lets the engine act. -/
def onEngine (action : EngineM α) : ServiceM α := ExceptT.mk do
  let w ← get
  let (result, engine) := action.run.run w.engine
  set { w with engine := engine }
  return result

/-- Keeps a record if its level is high enough; the level zero never is. -/
def log (record : LogRecord) : ServiceM Unit :=
  modify fun w =>
    if record.level = 0 ∨ record.level < w.logThreshold then w
    else { w with log := w.log ++ [record] }

def note (entry : TraceNote) : ServiceM Unit :=
  modify fun w => { w with trace := w.trace ++ [entry] }

end ServiceM

abbrev Handler (ρ : Type) := Request → ServiceM (Outcome ρ)

/-- A middleware turns the handler behind it into another one. -/
abbrev Middleware (ρ : Type) := Handler ρ → Handler ρ

namespace Middleware

/-- The handler that passes a request through the middlewares in order. -/
def chain (middlewares : List (Middleware ρ)) (innermost : Handler ρ) : Handler ρ :=
  middlewares.foldr (fun middleware next => middleware next) innermost

end Middleware
end QueryBinding
