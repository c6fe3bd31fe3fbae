import MarkupGate.Markup.Token
import MarkupGate.Text.NameTable

/-!
# Elements

Which tags belong together. An open tag is paired with the close tag that balances it among the tags
of its name; tags of other names never matter, and stray close tags close nothing.

* `closerTable` finds the close tags of all elements in one pass, on which it keeps a stack of the open
  elements of each name; `closerAmong?` looks for the close tag of one element.
* `nextOpenTable` finds for each open tag the next one of its name, in one pass from the end.
* `markInside` goes through tags once and says which lie inside an element of a name.
-/

namespace MarkupGate

/-! ## Elements without close tags -/

/-- The elements that have no close tag. -/
def voidNames : List (List Char) :=
  ["area", "base", "br", "col", "embed", "hr", "img", "input", "link", "meta", "source", "track",
    "wbr"].map String.toList

/-- Whether elements of a name have no close tag. -/
def isVoidName (name : List Char) : Bool := voidNames.contains name

namespace Tag

/-- Whether the tag stands for its whole element. -/
def isChildless (t : Tag) : Bool := t.selfClosing || isVoidName t.name

/-- Whether the tag begins an element that a later close tag can end. -/
def awaitsCloser (t : Tag) : Bool := t.isOpen && !t.isChildless

theorem isClose_eq_not_isOpen (t : Tag) : t.isClose = !t.isOpen := by
  cases h : t.kind <;> simp [isClose, isOpen, h]

/-- How many elements of a name are open behind a tag, of `depth` that are open before it. -/
def depthBehind (t : Tag) (name : List Char) (depth : Nat) : Nat :=
  if t.name ≠ name then depth
  else if t.isClose then depth - 1
  else if t.isChildless then depth
  else depth + 1

end Tag

/-! ## Pairing tags -/

/-- The first close tag of a name that is not spent on one of the `pending` elements already open,
or on one that opens on the way. -/
def findCloser (name : List Char) (pending : Nat) : List Tag → Option Tag
  | [] => none
  | t :: ts =>
    if t.name ≠ name then findCloser name pending ts
    else if t.isClose then
      match pending with
      | 0 => some t
      | n + 1 => findCloser name n ts
    else if t.isChildless then findCloser name pending ts
    else findCloser name (pending + 1) ts

/-- The close tag of the element that a tag opens, among the tags behind it. -/
def closerAmong? (t : Tag) (behind : List Tag) : Option Tag :=
  if t.awaitsCloser then findCloser t.name 0 behind else none

/-- What one pass over tags has found out. Tags are meant by their indices. -/
structure PairingState where
  /-- the elements of each name that have no close tag yet, the innermost one first -/
  unclosed : NameTable (List Nat)
  /-- the close tag of each element that has one already -/
  closers : Array (Option Nat)

namespace PairingState

/-- The open elements of a name, the innermost one first. -/
def stack (st : PairingState) (name : List Char) : List Nat := (st.unclosed.lookup name).getD []

/-- Passes the tag of an index. A close tag closes the innermost open element of its name; where none
is open, it closes nothing. -/
def pass (st : PairingState) (t : Tag) (index : Nat) : PairingState :=
  if t.isOpen then
    if t.isChildless then st
    else { st with unclosed := st.unclosed.set t.name (index :: st.stack t.name) }
  else
    match st.stack t.name with
    | [] => st
    | innermost :: outer => {
        unclosed := st.unclosed.set t.name outer
        closers := st.closers.setIfInBounds innermost (some index) }

end PairingState

/-- The index of the close tag of each element, found in one pass over all tags. -/
def closerTable (tags : List Tag) : Array (Option Nat) :=
  let start : PairingState := ⟨[], Array.replicate tags.length none⟩
  (tags.zipIdx.foldl (fun st (t, i) => st.pass t i) start).closers

/-- For tags whose first one has an index, the first open tag of each name, and for each open tag the
next one of its name. -/
def nextOpens (index : Nat) : List Tag → NameTable Nat × List (Option Nat)
  | [] => ([], [])
  | t :: ts =>
    let (seen, next) := nextOpens (index + 1) ts
    if t.isOpen then (seen.set t.name index, seen.lookup t.name :: next) else (seen, none :: next)

/-- The index of the next open tag of its name for each open tag, found in one pass from the end. -/
def nextOpenTable (tags : List Tag) : Array (Option Nat) := (nextOpens 0 tags).2.toArray

/-! ## Inside an element -/

/-- Each of some tags with whether it lies inside an element of a name, of which `depth` are open
before them: one that begins before the tag is still open where the tag begins. -/
def markInside (name : List Char) (depth : Nat) : List Tag → List (Tag × Bool)
  | [] => []
  | t :: ts => (t, 0 < depth) :: markInside name (t.depthBehind name depth) ts

end MarkupGate
