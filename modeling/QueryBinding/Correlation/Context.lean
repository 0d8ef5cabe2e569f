import QueryBinding.Correlation.Ulid
/-!
Execution contexts: which operation the work at hand belongs to. A place holds the context in
force, if there is one; a scope puts another context there and, however it ends, puts the former
one back. Identifiers that are made here are told apart by the order in which they were issued.
-/
namespace QueryBinding

inductive CorrelationId where
  /-- An identifier that came from outside. -/
  | given (ulid : Ulid)
  /-- The identifier that was issued after `serial` others. -/
  | issued (serial : Nat)
deriving DecidableEq, Repr

/-- A context without an identifier belongs to no operation. -/
structure Context where
  correlationId : Option CorrelationId := none
deriving DecidableEq, Repr

/-- The context in force, and the number of identifiers that were issued. -/
structure ContextState where
  current : Option Context := none
  issued : Nat := 0
deriving DecidableEq, Repr

/-- States that hold a context. -/
class HasContext (σ : Type) where
  contextState : σ → ContextState
  withContextState : ContextState → σ → σ
  contextState_with : ∀ c s, contextState (withContextState c s) = c

instance : HasContext ContextState where
  contextState c := c
  withContextState c _ := c
  contextState_with _ _ := rfl

namespace Context

variable {σ : Type} [HasContext σ]

open HasContext

/-- The context in force, or an empty one. -/
def inForce (c : ContextState) : Context := c.current.getD {}

def get : StateM σ Context := do
  return inForce (contextState (← MonadState.get))

/-- Puts a context in force, or none. -/
def replace (context : Option Context) : StateM σ Unit :=
  modify fun s => withContextState { contextState s with current := context } s

def set (context : Context) : StateM σ Unit := replace (some context)

def clear : StateM σ Unit := replace none

/-- A new identifier. -/
def issue : StateM σ CorrelationId := do
  let c := contextState (← MonadState.get)
  modify (withContextState { c with issued := c.issued + 1 })
  return .issued c.issued

/-- A context with the given identifier, or with a new one. -/
def create : Option Ulid → StateM σ Context
  | some ulid => return ⟨some (.given ulid)⟩
  | none => return ⟨some (← issue)⟩

/-- The context that a request header continues, or a new one if the header is absent or blank. -/
def ofHeader (header : Option String) : ExceptT Failure (StateM σ) Context := do
  let id ← Ulid.ofHeader header
  (create id : StateM σ Context)

/-- The context in force; if there is none, a new one is put in force. -/
def getOrCreate : StateM σ Context := do
  match (contextState (← MonadState.get)).current with
  | some context => return context
  | none =>
    let context ← create none
    set context
    return context

/-- Runs `body` with the given context in force, or with a new one, and then puts back what was in
force before, whether `body` succeeds or fails. -/
def within (context : Option Context) (body : Context → ExceptT ε (StateM σ) α) :
    ExceptT ε (StateM σ) α := ExceptT.mk do
  let before := (contextState (← MonadState.get)).current
  let entered ← match context with
    | some context => pure context
    | none => create none
  set entered
  let result ← (body entered).run
  replace before
  return result

end Context
end QueryBinding
