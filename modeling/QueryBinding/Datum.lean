import QueryBinding.Calendar.Moment
import QueryBinding.Number.Binary64
import QueryBinding.Sort.Criterion
import QueryBinding.Variable
/-!
The values that requests, queries and engine calls are made of: structured data as a request body
holds it, together with the typed values that converters and field types produce.
-/
namespace QueryBinding

inductive Datum where
  | null
  | flag (value : Bool)
  | number (value : Int)
  | real (value : Binary64)
  | text (value : String)
  | moment (value : Moment)
  | filter (value : VariableFilter)
  | criterion (value : SortCriterion)
  | list (items : List Datum)
  | object (entries : List (String × Datum))
deriving Repr, Inhabited

namespace Datum

def isNull : Datum → Bool
  | null => true
  | _ => false

/-- The entry of an object under a key. -/
def get? (key : String) : Datum → Option Datum
  | object entries => entries.lookup key
  | _ => none

/-- What going through a value gives: the items of a list, the characters of a text, the keys of an
object. -/
def elements? : Datum → Option (List Datum)
  | list items => some items
  | text s => some (s.toList.map fun c => text (String.singleton c))
  | object entries => some (entries.map fun (key, _) => text key)
  | _ => none

/-- Whether a value counts as a yes: null, `false`, zero and whatever is empty do not. -/
def isTruthy : Datum → Bool
  | null => false
  | flag b => b
  | number n => n != 0
  | real x => x.integer? != some 0
  | text s => s != ""
  | list items => !items.isEmpty
  | object entries => !entries.isEmpty
  | moment _ | filter _ | criterion _ => true

/-- A flag counts as the number one or zero, and a floating-point number as the integer that it
equals; every other value stays as it is. -/
def unified : Datum → Datum
  | flag b => number (if b then 1 else 0)
  | real x =>
    match x.integer? with
    | some n => number n
    | none => real x
  | d => d

mutual

/-- Equality that does not tell a flag, an integer and a floating-point number of one value
apart, at any depth. -/
def agrees (a b : Datum) : Bool :=
  match a, b with
  | list as, list bs => listAgrees as bs
  | object as, object bs => entriesAgree as bs
  | null, null => true
  | text s, text t => s == t
  | moment s, moment t => s == t
  | filter s, filter t => s == t
  | criterion s, criterion t => s == t
  | a, b =>
    match a.unified, b.unified with
    | number m, number n => m == n
    | real x, real y => x.agrees y
    | _, _ => false

def listAgrees : List Datum → List Datum → Bool
  | [], [] => true
  | a :: as, b :: bs => agrees a b && listAgrees as bs
  | _, _ => false

def entriesAgree : List (String × Datum) → List (String × Datum) → Bool
  | [], [] => true
  | (k, a) :: as, (l, b) :: bs => k == l && agrees a b && entriesAgree as bs
  | _, _ => false

end

example : agrees (list [flag true, real (.ofInt 2)]) (list [number 1, number 2]) := by
  decide +kernel

end Datum
end QueryBinding
