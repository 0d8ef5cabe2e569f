import QueryBinding.Engine
import QueryBinding.Parameter.Binding
import QueryBinding.Settings
/-!
Pages: the window of results that a listing asks for. A bound that is absent leaves its side open.
Whether a listing is paged depends on which bounds are there, never on their values.
-/
namespace QueryBinding

open Reading

structure Page where
  /-- The number of results to leave out. -/
  first : Option Int := none
  /-- The number of results to give at most. -/
  max : Option Int := none
  first_nonneg : ∀ n ∈ first, 0 ≤ n := by decide
  max_pos : ∀ n ∈ max, 0 < n := by decide
deriving DecidableEq, Repr

namespace Page

def unbounded : Page := {}

def isPaginated (page : Page) : Bool := page.first.isSome || page.max.isSome

/-! ### Reading pages -/

def firstName : String := "firstResult"

def maxName : String := "maxResults"

/-- The parameters of a page. -/
def parameters : ParameterTable where
  toList :=
    [{ name := firstName, field := "first_result", converter := .integer },
      { name := maxName, field := "max_results", converter := .integer }]
  nodup_names := by decide
  nodup_fields := by decide

/-- A bound under its parameter name; what is wrong with it is a failure to bind that parameter. -/
def bindBound (name : String) (bound : IntBound) (d : Datum) :
    Except Failure (Option { n : Int // bound.Admits n }) :=
  match readOptional bound d with
  | .ok value => .ok value
  | .error issues => .error (.binding name issues.first.input (.fault issues.first.fault))

/-- The page with the given bounds: the first result counts from zero, and at least one result is
asked for. If both bounds are wrong the first one is reported. -/
def of (first max : Datum) : Except Failure Page := do
  let first ← bindBound firstName (.atLeast 0) first
  let max ← bindBound maxName (.above 0) max
  return ⟨first.map (·.val), max.map (·.val), forall_mem_val first, forall_mem_val max⟩

/-- The page that request parameters ask for. -/
def fromParameters (raw : RawParameters) : Except Failure Page := do
  let values ← parameters.bind raw
  let bound (field : String) := (values.lookup field).getD .null
  of (bound "first_result") (bound "max_results")

/-! ### Executing listings -/

/-- Fails if there is a limit and the page asks for more results, or for no certain number. -/
def checkLimit (page : Page) (settings : Settings) : Except Failure Unit :=
  match settings.maxResultsLimit with
  | none => .ok ()
  | some limit =>
    match page.max with
    | none => .error (.invalidRequest (.limitExceeded limit))
    | some max =>
      if limit < max then .error (.invalidRequest (.limitExceeded limit)) else .ok ()

/-- The results of a page; a missing first result is zero, and a missing number of results is the
one that the settings give. -/
def listPage (page : Page) (settings : Settings) : EngineM (List Datum) :=
  Engine.listPage (page.first.getD 0) (page.max.getD settings.unboundedMaxResults)

/-- A page where one cannot be missing. -/
def required : Option Page → Except Failure Page
  | some page => .ok page
  | none => .error (.noAttribute Datum.null.typeName "first_result")

/-- The results of a page, or all of them if the page has no bound. -/
def listResults (page : Page) (settings : Settings) : EngineM (List Datum) :=
  if page.isPaginated then page.listPage settings else Engine.list

end Page
end QueryBinding
