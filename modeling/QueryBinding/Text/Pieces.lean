/-!
Pieces of texts: what is left without the blanks at the ends, what stands between separators, and
the items of a list that is written as one text. `isSpace` is the white space of Unicode; `isBlank`
adds the four information separators, which are cut from the ends of list items and header values as
well. `split` cuts at every occurrence of a separator, from the left and without overlap; `join`
writes the separator between pieces.
-/
namespace QueryBinding.Text

/-! ### Blanks -/

/-- White space as Unicode defines it. -/
def isSpace (c : Char) : Bool :=
  let n := c.toNat
  (0x09 ≤ n && n ≤ 0x0d) || n == 0x20 || n == 0x85 || n == 0xa0 || n == 0x1680 ||
    (0x2000 ≤ n && n ≤ 0x200a) || n == 0x2028 || n == 0x2029 || n == 0x202f || n == 0x205f ||
    n == 0x3000

/-- White space, or one of the information separators U+001C to U+001F. -/
def isBlank (c : Char) : Bool :=
  isSpace c || (0x1c ≤ c.toNat && c.toNat ≤ 0x1f)

/-- `cs` without the characters of `p` at either end. -/
def trimWhere (p : Char → Bool) (cs : List Char) : List Char :=
  ((cs.dropWhile p).reverse.dropWhile p).reverse

/-- `cs` without blanks at either end. -/
def trim (cs : List Char) : List Char := trimWhere isBlank cs

example : String.ofList (trim "\t a b\u3000\x1f".toList) = "a b" := by decide +kernel

/-! ### Separators -/

/-- A separator: at least one character. -/
structure Separator where
  head : Char
  tail : List Char := []
deriving DecidableEq, Repr

namespace Separator

def chars (sep : Separator) : List Char := sep.head :: sep.tail

/-- The text after `sep`, if `cs` begins with `sep`. -/
def strip? (sep : Separator) : List Char → Option (List Char)
  | [] => none
  | c :: cs =>
    if c = sep.head ∧ sep.tail.isPrefixOf cs then some (cs.drop sep.tail.length) else none

theorem length_of_strip? {sep : Separator} {cs rest : List Char} (h : sep.strip? cs = some rest) :
    rest.length < cs.length := by
  cases cs with
  | nil => simp [strip?] at h
  | cons c cs =>
    simp only [strip?] at h
    split at h
    · cases h
      simp only [List.length_drop, List.length_cons]
      omega
    · simp at h

end Separator

/-- Puts `c` in front of the first piece. -/
def consFirst (c : Char) : List (List Char) → List (List Char)
  | [] => [[c]]
  | piece :: pieces => (c :: piece) :: pieces

/-- The pieces of `cs` between the occurrences of `sep`; a text without one is a single piece. -/
def split (sep : Separator) (cs : List Char) : List (List Char) :=
  match _h : sep.strip? cs with
  | some rest => [] :: split sep rest
  | none =>
    match cs with
    | [] => [[]]
    | c :: cs => consFirst c (split sep cs)
termination_by cs.length
decreasing_by
  · exact Separator.length_of_strip? _h
  · simp

/-- The pieces with `sep` between them. -/
def join (sep : Separator) (pieces : List (List Char)) : List Char :=
  sep.chars.intercalate pieces

example : split ⟨'-', ['>']⟩ "a->b->->-".toList = ["a".toList, "b".toList, [], ['-']] := by
  decide +kernel

/-! ### Items -/

/-- The items of a text: its pieces without surrounding blanks, the empty ones left out. -/
def items (sep : Separator) (s : String) : List String :=
  (((split sep s.toList).map trim).filter (!·.isEmpty)).map String.ofList

/-- The items of several texts, in order. -/
def itemsOfAll (sep : Separator) (texts : List String) : List String :=
  texts.flatMap (items sep)

example : items ⟨',', []⟩ "a, b,,c ," = ["a", "b", "c"] := by decide +kernel

end QueryBinding.Text
