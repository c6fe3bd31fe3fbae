import MarkupGate.Error
import MarkupGate.Rule.Info
import MarkupGate.Text.Offset

/-!
# Edits

Replacing ranges of a text by other texts, several at a time. All ranges refer to the text before
any of them is replaced, so the edits must not overlap; they may touch, and an edit of an empty
range is an insertion. Of several insertions at one offset the last one given comes first in the
text. An edit that cannot be carried out fails them all; of several such edits the last one in the
text is named.
-/

namespace MarkupGate

/-- The replacement of a range by a text. -/
structure Edit where
  /-- what is replaced -/
  span : Span
  /-- what is put there -/
  text : List Char
  deriving DecidableEq, Repr

namespace Edit

/-- The insertion of a text at an offset. -/
def insertion (offset : Nat) (text : List Char) : Edit := ⟨⟨offset, offset⟩, text⟩

/-- Whether an edit comes before another when they are listed from the last one: it starts later, or
it ends no earlier from the same start. -/
def precedes (a b : Edit) : Bool :=
  b.span.start < a.span.start || (a.span.start = b.span.start && b.span.stop ≤ a.span.stop)

/-- The range of an edit, for messages. -/
def range (e : Edit) : String := toString e.span.start ++ ".." ++ toString e.span.stop

/-- What keeps an edit from being carried out on a text of `size` bytes of which those from `floor`
on are already taken. -/
def fault? (source : List Char) (size floor : Nat) (e : Edit) : Option String :=
  if e.span.stop < e.span.start || size < e.span.stop then
    some ("edit " ++ e.range ++ " is out of bounds")
  else if !isBoundary source e.span.start || !isBoundary source e.span.stop then
    some ("edit " ++ e.range ++ " splits a character")
  else if floor < e.span.stop then some ("edit " ++ e.range ++ " overlaps another edit")
  else none

/-- The fault of the first edit that cannot be carried out, of edits listed from the last one. -/
def firstFault? (source : List Char) (size floor : Nat) : List Edit → Option String
  | [] => none
  | e :: es => (e.fault? source size floor).or (firstFault? source size e.span.start es)

/-- Carries out edits, listed from the first one, on the part of a text that begins at an offset.
Fails where an edit begins before that part or ends before it begins, and where it does not begin
and end between two characters. -/
def splice? (offset : Nat) : List Edit → List Char → Option (List Char)
  | [], s => some s
  | e :: es, s =>
    if e.span.start < offset || e.span.stop < e.span.start then none
    else do
      let (kept, rest) ← splitAtOffset? (e.span.start - offset) s
      let (_, behind) ← splitAtOffset? (e.span.stop - e.span.start) rest
      return kept ++ e.text ++ (← splice? e.span.stop es behind)

end Edit

/-- The text with all edits carried out. -/
def applyEdits (fix : FixKind) (source : List Char) (edits : List Edit) :
    Except FixError (List Char) :=
  let ordered := edits.mergeSort Edit.precedes
  match Edit.splice? 0 ordered.reverse source with
  | some edited => .ok edited
  | none =>
    let size := byteLength source
    let fault? := Edit.firstFault? source size size ordered
    .error (.transformFailed fix.name (fault?.getD "edits do not fit"))

end MarkupGate
