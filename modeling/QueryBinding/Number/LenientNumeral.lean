import QueryBinding.Number.Numeral
import QueryBinding.Text.Pieces
/-!
Lenient numerals: integers that are not written plainly. White space may stand around them, a plus
sign and zeros in front of them, underscores among their digits, and a point with zeros behind
them. `unadorned?` takes all of that away, and a plain numeral must remain: digits without leading
zeros, after an optional minus sign.
-/
namespace QueryBinding.LenientNumeral

/-- Why a text is no lenient numeral. -/
inductive Fault where
  | malformed
  | tooLong
deriving DecidableEq, Repr

/-- The most digits that a numeral may have. -/
def largestCount : Nat := 4300

/-- Whether there is a minus sign, and what follows it. -/
def splitMinus : List Char → Bool × List Char
  | '-' :: cs => (true, cs)
  | cs => (false, cs)

/-- Whether digits have a zero in front of others. -/
def hasLeadingZero : List Char → Bool
  | '0' :: _ :: _ => true
  | _ => false

/-- Whether a text begins with too long a numeral. One with leading zeros does not count. -/
def isOversized (cs : List Char) : Bool :=
  let digits := (splitMinus cs).2.takeWhile Char.isDigit
  !hasLeadingZero digits && largestCount < digits.length

/-- The integer that digits after an optional minus sign denote, without leading zeros. -/
def plain? (cs : List Char) : Option Int :=
  let (negative, digits) := splitMinus cs
  if Numeral.isDigits digits && !hasLeadingZero digits then
    some (Numeral.signed negative (Numeral.value digits))
  else none

/-- A text without its plus sign, which no minus sign may follow. -/
def withoutPlus? : List Char → Option (List Char)
  | '+' :: '-' :: _ => none
  | '+' :: cs => some cs
  | cs => some cs

/-- What is left of a text after a zero: further zeros, and underscores, are passed over up to
another digit or a minus sign. `last` is the character passed over last, which stays if nothing
follows, or a point. -/
def afterZero? (last : Char) : List Char → Option (List Char)
  | [] => some [last]
  | c :: cs =>
    if c = '0' ∨ c = '_' then afterZero? c cs
    else if c.isDigit ∨ c = '-' then some (c :: cs)
    else if c = '.' then some (last :: c :: cs)
    else none

/-- A text without leading zeros. It must begin with a digit or a minus sign. -/
def withoutLeadingZeros? : List Char → Option (List Char)
  | [] => none
  | c :: cs =>
    if c = '0' then afterZero? c cs
    else if c.isDigit ∨ c = '-' then some (c :: cs)
    else none

/-- A text without the zeros at its front or behind the minus sign at its front. -/
def withoutZeros? : List Char → Option (List Char)
  | '-' :: cs => (withoutLeadingZeros? cs).map ('-' :: ·)
  | cs => withoutLeadingZeros? cs

/-- A point and zeros, or nothing. -/
def isZeroFraction : List Char → Bool
  | [] => true
  | c :: zeros => c == '.' && !zeros.isEmpty && zeros.all (· == '0')

/-- A text without a fraction of zeros. -/
def withoutFraction? (cs : List Char) : Option (List Char) :=
  if isZeroFraction (cs.dropWhile (· != '.')) then some (cs.takeWhile (· != '.')) else none

/-- Whether no two underscores stand together. -/
def underscoresApart : List Char → Bool
  | '_' :: '_' :: _ => false
  | _ :: cs => underscoresApart cs
  | [] => true

/-- A text without underscores, which must stand one by one and neither first nor last. -/
def withoutUnderscores? (cs : List Char) : Option (List Char) :=
  if cs.head? = some '_' ∨ cs.getLast? = some '_' ∨ !underscoresApart cs then none
  else some (cs.filter (· != '_'))

/-- A text without everything that a plain numeral does not have. -/
def unadorned? (cs : List Char) : Option (List Char) := do
  let cs ← withoutPlus? (Text.trimWhere Text.isSpace cs)
  let cs ← withoutZeros? cs
  let cs ← withoutFraction? cs
  withoutUnderscores? cs

/-- The integer that a text denotes. A text that begins with too long a numeral is refused for its
length; what is too long only after its adornments are taken away counts as malformed. -/
def read (cs : List Char) : Except Fault Int :=
  if isOversized cs then .error .tooLong
  else
    match (unadorned? cs).filter (!isOversized ·) >>= plain? with
    | some n => .ok n
    | none => .error .malformed

example : [" +1_000.0", "007", "0-5", "-05", "0__1", "-0_0"].map (read ·.toList |>.toOption) =
    [some 1000, some 7, some (-5), some (-5), some 1, some 0] := by decide +kernel
example : ["1__5", "_1", "1_", "5.", "+-5", "0-", "0-05", "-_5", "--5", ""].all
    (read ·.toList |>.toOption.isNone) := by decide +kernel

end QueryBinding.LenientNumeral
