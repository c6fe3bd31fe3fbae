import MarkupGate.Text.Bisect
import MarkupGate.Text.Offset

/-!
# Line numbers

Lines are numbered from 1 and end at line feeds; the line feed itself belongs to the line it ends. A
text has an index of its lines, in which the line of a place is looked up by bisection.
-/

namespace MarkupGate

/-- The offsets of the line feeds of a text that begins at an offset. -/
def lineFeeds (offset : Nat) : List Char → List Nat
  | [] => []
  | c :: cs =>
    let rest := lineFeeds (offset + c.utf8Size) cs
    if c = '\n' then offset :: rest else rest

/-- Where the lines of a text begin. -/
structure LineIndex where
  /-- the offsets of their first bytes, in order -/
  starts : Array Nat

namespace LineIndex

/-- The lines of a text. The first one begins with the text, each further one behind a line feed. -/
def ofText (source : List Char) : LineIndex :=
  ⟨(0 :: (lineFeeds 0 source).map (· + 1)).toArray⟩

/-- The line of a byte offset; offsets past the end lie in the last line. -/
def lineAt (index : LineIndex) (offset : Nat) : Nat := partitionPoint (· ≤ offset) index.starts

/-- The line of a byte offset as a number of 32 bits. -/
def lineOf (index : LineIndex) (offset : Nat) : UInt32 := (index.lineAt offset).toUInt32

/-- How many lines there are. -/
def lineCount (index : LineIndex) : Nat := index.starts.size

end LineIndex

/-- The number of lines of a text; the empty text has one. -/
def lineCount (source : List Char) : Nat := 1 + source.count '\n'

/-- There is one line more than there are line feeds. -/
theorem lineCount_eq (offset : Nat) (source : List Char) :
    lineCount source = 1 + (lineFeeds offset source).length := by
  have h : source.count '\n' = (lineFeeds offset source).length := by
    induction source generalizing offset with
    | nil => rfl
    | cons c cs ih => by_cases hc : c = '\n' <;> simp [lineFeeds, hc, ← ih]
  simp [lineCount, h]

end MarkupGate
