import QueryBinding.Failure
/-!
Places in lists and texts, and the portions between two places. A negative place counts from the
end, and a portion never leaves the list. Where places are given by values, these must be integers;
two values add up to a place if both are. Texts and lists have sums of their own kinds, and other
values cannot be added.
-/
namespace QueryBinding

namespace Portion

/-- The place of a bound in a list of `length` elements; a negative one counts from the end. -/
def bound (length : Nat) (i : Int) : Nat :=
  if i < 0 then (i + length).toNat else min i.toNat length

/-- The elements from `start` up to `stop`, both as `bound` places them. -/
def between (xs : List α) (start stop : Int) : List α :=
  let first := bound xs.length start
  (xs.take (bound xs.length stop)).drop first

end Portion

namespace Datum

/-! ### Places -/

/-- The place in a list that a value counts as. -/
def index? : Datum → Option Int
  | number n => some n
  | flag b => some (if b then 1 else 0)
  | _ => none

/-- Whether a value can be added to a number. -/
def isNumeric : Datum → Bool
  | number _ | flag _ | real _ => true
  | _ => false

/-- Whether a value is an integer that no floating-point number is near. -/
def isBeyondReals : Datum → Bool
  | number n => !(Binary64.ofInt n).isFinite
  | _ => false

/-- The place in a list that two values add up to; nothing if their sum is no place. -/
def sumIndex? (a b : Datum) : Except Failure (Option Int) :=
  match a, b with
  | text _, text _ | list _, list _ => .ok none
  | text _, _ | list _, _ => .error (.misuse (.notJoinable a.typeName b.typeName))
  | _, _ =>
    match a.index?, b.index? with
    | some m, some n => .ok (some (m + n))
    | _, _ =>
      if !(a.isNumeric && b.isNumeric) then
        .error (.misuse (.notAddable a.typeName b.typeName))
      else if a.isBeyondReals || b.isBeyondReals then .error .overflow
      else .ok none

/-! ### Portions -/

/-- The portion of a value from one place up to another, if both are places. -/
def slice (d : Datum) (start stop : Option Int) : Except Failure Datum :=
  match d with
  | object _ => .error (.misuse (.notKey "slice"))
  | list items =>
    match start, stop with
    | some start, some stop => .ok (.list (Portion.between items start stop))
    | _, _ => .error (.misuse .notIndex)
  | text s =>
    match start, stop with
    | some start, some stop => .ok (.text (String.ofList (Portion.between s.toList start stop)))
    | _, _ => .error (.misuse .notIndex)
  | d => .error (.misuse (.notSubscriptable d.typeName))

end Datum
end QueryBinding
