import MarkupGate.Text.Blank
import MarkupGate.Text.CaseFold
import MarkupGate.Text.Word

/-!
# Sets of characters

The sets that stand for one character of a search pattern, as ascending ranges of code points with
gaps between them. The code points of surrogates are no characters, so U+D7FF and U+E000 follow each
other when a set is turned into the set of all other characters.

* Adding a range to a set joins it with the ranges that it overlaps or touches.
* The intersection and the difference are what the union and the complement make of them.
* `foldCase` adds all case variants of the members, so a negated set that ignores case is folded
  first and negated then.
-/

namespace MarkupGate

/-- A set of characters. -/
structure CharSet where
  /-- the code points of the members, in ascending ranges that do not touch -/
  ranges : List (Nat × Nat)
  deriving DecidableEq, Repr

namespace CharSet

/-- Whether a character is a member. -/
def contains (s : CharSet) (c : Char) : Bool := inRanges c.toNat s.ranges

/-- The set without members. -/
def empty : CharSet := ⟨[]⟩

/-! ## Building sets -/

/-- Adds a range to ascending ranges. -/
def insertRange (r : Nat × Nat) : List (Nat × Nat) → List (Nat × Nat)
  | [] => [r]
  | q :: qs =>
    if r.2 + 1 < q.1 then r :: q :: qs
    else if q.2 + 1 < r.1 then q :: insertRange r qs
    else insertRange (min r.1 q.1, max r.2 q.2) qs

/-- The set of the code points in some ranges, in any order. -/
def ofRanges (rs : List (Nat × Nat)) : CharSet := ⟨rs.foldr insertRange []⟩

/-- The set of one character. -/
def single (c : Char) : CharSet := ⟨[(c.toNat, c.toNat)]⟩

/-- The characters between two, both included. -/
def range (first last : Char) : CharSet :=
  if first ≤ last then ⟨[(first.toNat, last.toNat)]⟩ else empty

/-- The set of several characters. -/
def ofList (cs : List Char) : CharSet := ofRanges (cs.map fun c => (c.toNat, c.toNat))

/-- The set of the characters of a string. -/
def ofChars (s : String) : CharSet := ofList s.toList

/-- The members of either of two sets. -/
def union (a b : CharSet) : CharSet := ⟨a.ranges.foldr insertRange b.ranges⟩

/-- The union of several sets. -/
def unions (sets : List CharSet) : CharSet := sets.foldr union empty

/-! ## Other characters -/

/-- The greatest code point. -/
def lastCode : Nat := 0x10ffff

/-- The code point of the character before one. -/
def codeBefore (n : Nat) : Nat := if n = 0xe000 then 0xd7ff else n - 1

/-- The code point of the character behind one. -/
def codeBehind (n : Nat) : Nat := if n = 0xd7ff then 0xe000 else n + 1

/-- The ranges between ascending ranges, from a code point on. -/
def gapsFrom (low : Nat) : List (Nat × Nat) → List (Nat × Nat)
  | [] => if low ≤ lastCode then [(low, lastCode)] else []
  | (first, last) :: rs =>
    if low < first then (low, codeBefore first) :: gapsFrom (codeBehind last) rs
    else gapsFrom (codeBehind last) rs

/-- All characters that are no members. -/
def compl (s : CharSet) : CharSet := ⟨gapsFrom 0 s.ranges⟩

/-- The members of both sets. -/
def inter (a b : CharSet) : CharSet := compl (union (compl a) (compl b))

/-- The members of the first set that are not in the second. -/
def diff (a b : CharSet) : CharSet := inter a (compl b)

/-- The members of exactly one of two sets. -/
def symmDiff (a b : CharSet) : CharSet := diff (union a b) (inter a b)

/-- The set of all characters. -/
def all : CharSet := compl empty

/-- All characters but those of a string. -/
def exceptChars (s : String) : CharSet := compl (ofChars s)

/-- Whether all members are ASCII characters. -/
def isAscii (s : CharSet) : Bool := s.ranges.all fun r => r.2 < 0x80

/-- The only member of a set, if it has just one. -/
def single? (s : CharSet) : Option Char :=
  match s.ranges with
  | [(first, last)] => if first = last then some (Char.ofNat first) else none
  | _ => none

/-! ## Cases -/

/-- Adds those of some classes that have a member in the set. -/
def close (classes : List (List Nat)) (s : CharSet) : CharSet :=
  union (ofRanges ((classes.filter fun k => k.any (inRanges · s.ranges)).flatten.map
    fun n => (n, n))) s

/-- The members and all their case variants. -/
def foldCase (s : CharSet) : CharSet := s.close caseClasses

/-- The members and the other cases of the ASCII letters among them. -/
def foldAsciiCase (s : CharSet) : CharSet :=
  s.close ((List.range 26).map fun i => ['A'.toNat + i, 'a'.toNat + i])

/-! ## Named sets -/

/-- The ASCII capitals. -/
def capital : CharSet := .range 'A' 'Z'

/-- The ASCII digits. -/
def asciiDigit : CharSet := .range '0' '9'

/-- The ASCII letters and digits. -/
def asciiAlphanumeric : CharSet := unions [asciiDigit, capital, .range 'a' 'z']

/-- The ASCII letters, digits and the underscore. -/
def asciiWord : CharSet := union asciiAlphanumeric (.single '_')

/-- The ASCII blanks. -/
def asciiBlank : CharSet := ofChars "\t\n\x0b\x0c\r "

/-- Blanks, as `isBlankChar` tells them. -/
def blank : CharSet :=
  ⟨[(0x9, 0xd), (0x20, 0x20), (0x85, 0x85), (0xa0, 0xa0), (0x1680, 0x1680), (0x2000, 0x200a),
    (0x2028, 0x2029), (0x202f, 0x202f), (0x205f, 0x205f), (0x3000, 0x3000)]⟩

/-- The characters of several tables that patterns know. -/
def ofTables (tables : List (List (Nat × Nat))) : CharSet :=
  diff (unions (tables.map ofRanges)) (ofRanges addedRanges)

/-- The decimal digits of all scripts. -/
def digit : CharSet := ofTables [decimalDigitRanges]

/-- Word characters, as `isWordChar` tells them. -/
def word : CharSet := ofTables (alphabeticRanges :: wordTables)

end CharSet

end MarkupGate
