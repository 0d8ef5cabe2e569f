import QueryBinding.LogLevel
import QueryBinding.Service.Request
/-!
Middlewares. `propagation` sees to it that a request is handled in a context with an identifier,
and `logging` writes a record before a request is handled and another one if it is rejected.
The others reject, change or observe requests.
-/
namespace QueryBinding.Middleware

/-- A context with an identifier is kept; otherwise a new one is in force for the request. -/
def propagation : Middleware ρ := fun next request => do
  if (← (Context.get : StateM World Context)).correlationId.isSome then next request
  else Context.within none fun _ => next request

/-- Writes records at the given level. -/
def logging (level : Nat) : Middleware ρ := fun next request => do
  let context ← (Context.get : StateM World Context)
  let record (event : LogEvent) : LogRecord :=
    ⟨level, event, request.query.type.name, request.operation, context.correlationId⟩
  ServiceM.log (record .executing)
  tryCatch (next request) fun failure => do
    if failure.isA .service then ServiceM.log (record (.failed failure.kind))
    throw failure

/-- Writes records at what the name of a level stands for, which must be a level: else every request
fails before it is handled. -/
def loggingAt : LogLevel → Middleware ρ
  | .number level => logging level
  | .layout _ | .styles => fun _ _ => throw (.misuse .notLevel)

/-- Rejects every request. -/
def deny (message : String) : Middleware ρ := fun _ _ =>
  throw (.invalidRequest (.other message))

/-- Rejects counts. -/
def denyCounts : Middleware ρ := fun next request =>
  match request.operation with
  | .count => throw (.invalidRequest (.other "Counting is disabled"))
  | .list => next request

/-- Replaces the page of every request. -/
def substitutePage (first max : Datum) : Middleware ρ := fun next request => do
  let page ← (Page.of first max : Except Failure Page)
  next { request with page }

/-- Notes what is asked for. -/
def capture : Middleware ρ := fun next request => do
  ServiceM.note (.captured request.query.type.name request.operation request.page)
  next request

/-- Notes the way in, and the way out after a success. -/
def track (name : String) : Middleware ρ := fun next request => do
  ServiceM.note (.before name)
  let outcome ← next request
  ServiceM.note (.after name)
  return outcome

/-- Gives no results in place of a rejection. -/
def recover : Middleware ρ := fun next request =>
  tryCatch (next request) fun failure =>
    if failure.isA .service then do
      ServiceM.note (.recovered failure.kind)
      return .results []
    else throw failure

end QueryBinding.Middleware
