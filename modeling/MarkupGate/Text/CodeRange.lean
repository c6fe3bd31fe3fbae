/-!
# Ranges of code points

Character properties beyond ASCII are given as ascending lists of ranges of code points, both ends
included. Looking a character up stops at the first range that begins behind it.
-/

namespace MarkupGate

/-- Whether a code point lies in one of several ascending ranges. -/
def inRanges (n : Nat) : List (Nat × Nat) → Bool
  | [] => false
  | (first, last) :: ranges => if n < first then false else n ≤ last || inRanges n ranges

/-- A property of characters: its names, written in small letters without blanks, dashes and
underscores, and the code points that have it. -/
structure CharProperty where
  names : List String
  ranges : List (Nat × Nat)

end MarkupGate
