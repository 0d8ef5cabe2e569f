import QueryBinding.Service.Request
/-!
Services: they make queries of one type from requests, pass them through their middlewares, execute
them on the engine and map its results. Failures of the engine that denote a rejected query are
reported as such; nothing is tried twice.
-/
namespace QueryBinding

/-- What a client can ask a service for: results, or their number. -/
inductive Inquiry where
  | list (input : QueryInput) (first max : Datum)
  | count (input : QueryInput)

structure Service (ρ : Type) where
  queryType : QueryType
  toResult : Datum → Except Failure ρ
  settings : Settings := {}
  /-- The middlewares, outermost first. -/
  middleware : List (Middleware ρ) := []
  /-- The kinds of failure by which the engine rejects a query. -/
  engineErrors : List FailureKind := [.engine]

namespace Service

/-- The count that the engine gives. -/
def readCount (d : Datum) : Except Failure Int :=
  Failure.ofReading "CountResultDto" ((readInteger d).inside (.name "count"))

/-- Builds the query of a request and lists or counts its results. -/
def perform (settings : Settings) (request : Request) : EngineM (Outcome Datum) := do
  request.query.build
  match request.operation with
  | .count => return .count (← readCount (← Engine.count))
  | .list => return .results (← request.page.listResults settings)

/-- A rejection by the engine becomes a failure of the request. -/
def reported (engineErrors : List FailureKind) (failure : Failure) : Failure :=
  if engineErrors.any failure.isA then .engineExecution failure.text else failure

variable {ρ : Type} (service : Service ρ)

/-- The results in the form that the service gives them. -/
def mapOutcome : Outcome Datum → Except Failure (Outcome ρ)
  | .count n => .ok (.count n)
  | .results results => (results.mapM service.toResult).map .results

/-- The innermost handler. The result limit is checked before the engine is touched. -/
def handle : Handler ρ := fun request => do
  if request.operation = .list then request.page.checkLimit service.settings
  let outcome ← tryCatch (ServiceM.onEngine (perform service.settings request)) fun failure =>
    throw (reported service.engineErrors failure)
  service.mapOutcome outcome

/-- Handles a request. -/
def execute : Handler ρ := Middleware.chain service.middleware service.handle

def executeList (query : Query) (page : Page := .unbounded) : ServiceM (Outcome ρ) :=
  service.execute ⟨query, .list, page⟩

def executeCount (query : Query) : ServiceM (Outcome ρ) :=
  service.execute { query, operation := .count }

/-- Lists the results that an input asks for. -/
def list (input : QueryInput) (first max : Datum) : ServiceM (Outcome ρ) := do
  let query ← service.queryType.ofInput input
  service.executeList query (← (Page.of first max : Except Failure Page))

/-- Counts the results that an input asks for. -/
def count (input : QueryInput) : ServiceM (Outcome ρ) := do
  service.executeCount (← service.queryType.ofInput input)

def answer : Inquiry → ServiceM (Outcome ρ)
  | .list input first max => service.list input first max
  | .count input => service.count input

end Service
end QueryBinding
