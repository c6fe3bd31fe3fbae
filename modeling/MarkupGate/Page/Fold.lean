import MarkupGate.Rule.Basic

/-!
# The fold

Images that a visitor sees before scrolling should load at once, all others lazily. Where the fold
lies is estimated: from keywords in the attributes of an image, from the header around it, from the
number of images before it, and from its position in the content of the body.

Content is counted so that attributes and the tags of the head count for nothing. Edits of
attributes and insertions into the head therefore never move an image across the fold.
-/

namespace MarkupGate

/-- What decides whether an image lies above the fold. -/
structure FoldPolicy where
  /-- words that mark an image in its attributes, in any case -/
  keywords : List (List Char)
  /-- how many images at the top of the body are above the fold -/
  leadingImages : Nat
  /-- the part of the content that lies above the fold -/
  ratio : Float

/-- The attributes in which keywords are looked for. -/
def keywordAttributes : List String := ["class", "classname", "id", "alt"]

/-- Whether a text holds a keyword, in any case. -/
def holdsKeyword (keywords : List (List Char)) (value : List Char) : Bool :=
  keywords.any fun k => hasInfix (asciiLower k) (asciiLower value)

/-! ## Content -/

/-- The content of a run of text in a range: its bytes that are not whitespace. -/
def textUnits (scope : Span) (r : TextRun) : Nat :=
  if scope.contains r.start then byteLength (r.text.filter fun c => !isMarkupSpace c) else 0

/-- The names of tags that repairs insert. -/
def insertedNames : List (List Char) := ["html", "head", "meta"].map String.toList

/-- The content of a tag in a range: its name and brackets. The tags that repairs insert do not
count. -/
def tagUnits (scope : Span) (t : Tag) : Nat :=
  if scope.contains t.start && !insertedNames.contains t.name then
    byteLength t.name + if t.isOpen then 2 else 3
  else 0

/-- What a visitor who reads a document from the top has come past. -/
structure ReadingState where
  /-- the content so far -/
  units : Nat
  /-- the images of the range so far -/
  images : Nat
  /-- the headers that are open -/
  headers : Nat

namespace ReadingState

/-- At the top of a document. -/
def top : ReadingState := ⟨0, 0, 0⟩

/-- Goes past a tag. -/
def passTag (st : ReadingState) (scope : Span) (t : Tag) : ReadingState where
  units := st.units + tagUnits scope t
  images :=
    if t.isOpen && t.name = "img".toList && scope.contains t.start then st.images + 1
    else st.images
  headers := t.depthBehind "header".toList st.headers

/-- Goes past a run of text. -/
def passText (st : ReadingState) (scope : Span) (r : TextRun) : ReadingState :=
  { st with units := st.units + textUnits scope r }

/-- Goes past a piece of a document: its tag, then its text. -/
def pass (st : ReadingState) (scope : Span) (p : Located Piece) : ReadingState :=
  let st := (Piece.tag? p).elim st (st.passTag scope)
  (Piece.text? p).elim st (st.passText scope)

end ReadingState

/-- The tags of some pieces, each with what lies before it. -/
def readTags (scope : Span) (st : ReadingState) : List (Located Piece) → List (Tag × ReadingState)
  | [] => []
  | p :: ps =>
    let rest := readTags scope (st.pass scope p) ps
    match Piece.tag? p with
    | some t => (t, st) :: rest
    | none => rest

namespace Document

/-- The range that is looked at for the fold: the body, or everything. -/
def foldScope (d : Document) : Span := d.bodyRange?.getD ⟨0, d.size⟩

/-- The tags of a document, each with what lies before it. -/
def tagsRead (d : Document) : List (Tag × ReadingState) := readTags d.foldScope .top d.pieces

/-- The content of the whole fold scope. -/
def contentTotal (d : Document) : Nat :=
  let scope := d.foldScope
  (d.pieces.foldl (fun st p => st.pass scope p) ReadingState.top).units

end Document

/-! ## The fold -/

namespace FoldPolicy

/-- Whether a position lies in the part of the content above the fold. -/
def isEarly (f : FoldPolicy) (position total : Nat) : Bool :=
  Float.ofNat position < Float.ofNat total * f.ratio

/-- Whether an image with this before it is above the fold. -/
def protects (f : FoldPolicy) (scope : Span) (total : Nat) (t : Tag) (before : ReadingState) :
    Bool :=
  ((keywordAttributes.filterMap t.value?).any (holdsKeyword f.keywords))
    || 0 < before.headers
    || (scope.contains t.start
      && (before.images < f.leadingImages || f.isEarly before.units total))

/-- The images that should load lazily and do not say how they load. -/
def deferrable (f : FoldPolicy) (d : Document) : List Tag :=
  let scope := d.foldScope
  let total := d.contentTotal
  d.tagsRead.filterMap fun (t, before) =>
    if t.isOpen && t.name = "img".toList && !t.hasAttr "loading"
        && !f.protects scope total t before then some t
    else none

end FoldPolicy

end MarkupGate
