import QueryBinding.Number.LenientNumeral
import QueryBinding.Validation.Issue
/-!
The types that fields can have, and how a value is read as one of them. Reading is lenient where
it is safe: a numeral is an integer, one and zero are flags, a number is a moment in unix time.
-/
namespace QueryBinding

open Reading

/-! ### Scalars -/

def readText : Datum → Reading String
  | .text s => .ok s
  | d => refuse .notText d

/-- The magnitude from which on a floating-point number is no integer of 64 bits. -/
def integerLimit : Nat := 9223372036854775808

/-- The integer that a floating-point number equals, if 64 bits hold it and its negation. -/
def smallInteger? (x : Binary64) : Option Int := x.integer?.filter (·.natAbs < integerLimit)

/-- What is wrong with a floating-point number that should be an integer. -/
def integerFault (x : Binary64) : Fault :=
  if !x.isFinite then .notFinite
  else if x.integer?.isNone then .integerFraction
  else .integerSize

def readInteger : Datum → Reading Int
  | .number n => .ok n
  | .flag b => .ok (if b then 1 else 0)
  | .real x =>
    match smallInteger? x with
    | some n => .ok n
    | none => refuse (integerFault x) (.real x)
  | .text s =>
    match LenientNumeral.read s.toList with
    | .ok n => .ok n
    | .error .malformed => refuse .integerText (.text s)
    | .error .tooLong => refuse .integerSize (.text s)
  | d => refuse .notInteger d

/-- An integer within a bound. -/
def readBounded (bound : IntBound) (d : Datum) : Reading { n : Int // bound.Admits n } := do
  let n ← readInteger d
  if h : bound.Admits n then .ok ⟨n, h⟩ else refuse (.outOfBounds bound) d

/-- An integer within a bound, or none for null. -/
def readOptional (bound : IntBound) (d : Datum) : Reading (Option { n : Int // bound.Admits n }) :=
  if d.isNull then .ok none else (readBounded bound d).map some

theorem forall_mem_val {p : α → Prop} (bounded : Option (Subtype p)) :
    ∀ a ∈ bounded.map (·.val), p a := by
  intro a mem
  obtain ⟨b, _, rfl⟩ := Option.map_eq_some_iff.1 mem
  exact b.property

def readStrictFlag : Datum → Reading Bool
  | .flag b => .ok b
  | d => refuse .notFlag d

/-- The words that stand for a flag, in lower case. -/
def flagWords : List (String × Bool) :=
  [("0", false), ("f", false), ("false", false), ("n", false), ("no", false), ("off", false),
    ("1", true), ("t", true), ("true", true), ("y", true), ("yes", true), ("on", true)]

/-- One and zero are flags. -/
def flagOfInt? (n : Int) : Option Bool :=
  if n = 0 then some false else if n = 1 then some true else none

/-- Whether 64 bits hold an integer. -/
def isSmall (n : Int) : Bool := -(integerLimit : Int) ≤ n && n < integerLimit

def readFlag : Datum → Reading Bool
  | .flag b => .ok b
  | .number n =>
    match flagOfInt? n with
    | some b => .ok b
    | none => refuse (if isSmall n then .flagText else .notFlag) (.number n)
  | .real x =>
    match smallInteger? x with
    | some n =>
      match flagOfInt? n with
      | some b => .ok b
      | none => refuse .flagText (.real x)
    | none => refuse .notFlag (.real x)
  | .text s =>
    match flagWords.lookup (String.ofList (s.toList.map Char.toLower)) with
    | some b => .ok b
    | none => refuse .flagText (.text s)
  | d => refuse .notFlag d

/-- What is wrong with a number in a text that counts to no moment: an integer of 64 bits is out of
range, and any other text is not even a day. -/
def timestampFault (s : String) (text : DecimalText) (fault : MomentFault) : Fault :=
  .momentText (if text.isInteger && isSmall text.wholeValue then .unixTime fault
    else DateFault.of s.toList)

/-- The moment that a text denotes, as a date or in unix time. -/
def readMomentText (s : String) : Reading Moment :=
  match IsoText.parts? s.toList with
  | some (date, time, offset) =>
    match Moment.of? date time offset with
    | some moment => .ok moment
    | none => refuse (.momentFault .yearZero) (.text s)
  | none =>
    match UnixTime.number? s.toList with
    | none => refuse (.momentText (DateFault.of s.toList)) (.text s)
    | some text =>
      match UnixTime.ofText text with
      | .ok moment => .ok moment
      | .error .yearZero => refuse (.momentFault .yearZero) (.text s)
      | .error fault => refuse (timestampFault s text fault) (.text s)

/-- The moment that was found for a value, if one was. -/
def ofMoment (d : Datum) : Except MomentFault Moment → Reading Moment
  | .ok moment => .ok moment
  | .error fault => refuse (.momentFault fault) d

/-- A moment. An integer beyond all floating-point numbers is none. -/
def readMoment : Datum → Reading Moment
  | .moment m => .ok m
  | .text s => readMomentText s
  | .number n =>
    if (Binary64.ofInt n).isFinite then ofMoment (.number n) (UnixTime.ofInt n)
    else refuse .notMoment (.number n)
  | .real x => ofMoment (.real x) (UnixTime.ofReal x)
  | d => refuse .notMoment d

/-- One of a few words. -/
def readChoice (options : List String) (ofWord? : String → Option α) (d : Datum) : Reading α :=
  match d with
  | .text s =>
    match ofWord? s with
    | some a => .ok a
    | none => refuse (.notChoice options) d
  | _ => refuse (.notChoice options) d

/-! ### Lists and objects -/

/-- Every item read in its place. -/
def readItems (read : Datum → Reading α) (items : List Datum) : Reading (List α) :=
  gather (fun (d, i) => inside (.index i) (read d)) items.zipIdx

def readList (read : Datum → Reading α) : Datum → Reading (List α)
  | .list items => readItems read items
  | d => refuse .notList d

/-- The entry of `whole` under `key`, or else under `other`, and the key that it has. -/
def entryUnder? (whole : Datum) (key other : String) : Option (String × Datum) :=
  ((whole.get? key).map (key, ·)).or ((whole.get? other).map (other, ·))

/-- The entry of `whole` under `key`, or else under `other`. -/
def readEntry (key other : String) (read : Datum → Reading α) (whole : Datum) : Reading α :=
  match entryUnder? whole key other with
  | some (used, d) => inside (.name used) (read d)
  | none => inside (.name key) (refuse .missing whole)

def readFilter : Datum → Reading VariableFilter
  | .filter v => .ok v
  | .object entries =>
    let whole := Datum.object entries
    let operator := readChoice (VariableOperator.all.map (·.symbol)) VariableOperator.ofSymbol?
    (both (readEntry "name" "name" readText whole)
      (both (readEntry "operator" "operator" operator whole)
        (readEntry "value" "value" readText whole))).map
      fun (name, operator, value) => ⟨name, operator, value⟩
  | d => refuse (.notRecord "VariableQueryParameter") d

def readOrder : Datum → Reading SortOrder :=
  readChoice (SortOrder.all.map (·.symbol)) SortOrder.ofSymbol?

/-- A criterion given as an object; the direction may be left out and is then ascending. -/
def readCriterion : Datum → Reading SortCriterion
  | .criterion c => .ok c
  | .object entries =>
    let whole := Datum.object entries
    let order :=
      match entryUnder? whole SortCriterion.orderKey "order" with
      | some (used, d) => inside (.name used) (readOrder d)
      | none => .ok .asc
    (both (readEntry SortCriterion.byKey "field" readText whole) order).map
      fun (field, order) => ⟨field, order⟩
  | d => refuse (.notRecord "SortCriterion") d

/-! ### Field types -/

inductive FieldType where
  | text
  | strictFlag
  | flag
  | integer
  | moment
  | texts
  | filters
deriving DecidableEq, Repr

/-- The value of a field of this type that `d` gives. -/
def FieldType.read : FieldType → Datum → Reading Datum
  | text, d => (readText d).map .text
  | strictFlag, d => (readStrictFlag d).map .flag
  | flag, d => (readFlag d).map .flag
  | integer, d => (readInteger d).map .number
  | moment, d => (readMoment d).map .moment
  | texts, d => (readList readText d).map fun items => .list (items.map .text)
  | filters, d => (readList readFilter d).map fun items => .list (items.map .filter)

end QueryBinding
