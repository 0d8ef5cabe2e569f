import QueryBinding.Settings.Source
import QueryBinding.Validation.Record
/-!
Settings of query execution. Those of a command line count before values that are given, these
before the values of the environment, and these before the defaults. A source tells where they are
looked for.
-/
namespace QueryBinding

open Reading

structure Settings where
  /-- The number of results to ask for when a page has no such bound. -/
  unboundedMaxResults : Int := 2147483647
  /-- The most results that a listing may ask for, if there is a limit. -/
  maxResultsLimit : Option Int := none
  logLevel : String := "INFO"
  one_le_unbounded : 1 ≤ unboundedMaxResults := by decide
  one_le_limit : ∀ n ∈ maxResultsLimit, 1 ≤ n := by decide
deriving DecidableEq, Repr

namespace Settings

def subject : String := "SieveSettings"

def unboundedKey : String := "unbounded_max_results"

def limitKey : String := "max_results_limit"

def levelKey : String := "log_level"

def keys : List String := [unboundedKey, limitKey, levelKey]

/-- A setting: the value that the source has for it, or the default. -/
def setting (source : SettingsSource) (key : String) (read : Datum → Reading α) (default : α) :
    Reading α :=
  inside (.name key) <|
    match source.value? key with
    | some d => read d
    | none => .ok default

def read (source : SettingsSource) : Reading Settings :=
  let defaults : Settings := {}
  (both (setting source unboundedKey (readBounded (.atLeast 1))
      ⟨defaults.unboundedMaxResults, defaults.one_le_unbounded⟩)
    (both (setting source limitKey (readOptional (.atLeast 1)) none)
      (both (setting source levelKey readText defaults.logLevel)
        (ofIssues (Field.unexpected [] (source.others keys)))))).map
          fun (unbounded, limit, level, _) =>
            { unboundedMaxResults := unbounded
              maxResultsLimit := limit.map (·.val)
              logLevel := level
              one_le_unbounded := unbounded.property
              one_le_limit := forall_mem_val limit }

/-- The settings that the given values and the environment describe. -/
def of (values : List (String × Datum)) (environment : List (String × String)) :
    Except Failure Settings := do
  Failure.ofReading subject (read (← SettingsSource.of keys values environment))

end Settings
end QueryBinding
