import MarkupGate.Markup.Element
import MarkupGate.Markup.Line
import MarkupGate.Text.Blank
import MarkupGate.Text.Replace

/-!
# Documents

A document is a markup text together with what one reading of it shows: its pieces, its tags, text
and code, which of its tags belong together, and its lines. Questions about its structure are answered
from these alone:

* `elementRange` is the range of an element. Void and self-closing elements are their tag; an
  element that is never closed runs to the end of the document.
* `innerText` reads the text of an element up to the next element of the same name, so that nested
  links and buttons, which are no valid markup, do not read the same text twice.
-/

namespace MarkupGate

/-- A markup text and what one reading shows of it. -/
structure Document where
  /-- the text -/
  source : List Char
  /-- its length in bytes -/
  size : Nat
  /-- where its lines begin -/
  lines : LineIndex
  /-- its pieces and where they begin -/
  pieces : List (Located Piece)
  /-- its tags, text and code -/
  tokens : Tokens
  /-- the index of the close tag of each element -/
  closers : Array (Option Nat)
  /-- the index of the next open tag of its name for each open tag -/
  nextOpens : Array (Option Nat)

namespace Document

/-- The document of a markup text; there is one for every text. -/
def parse (source : List Char) : Document :=
  let pieces := locate Piece.source 0 (lex source)
  let tokens := Tokens.ofLocated pieces
  { source := source
    size := byteLength source
    lines := .ofText source
    pieces := pieces
    tokens := tokens
    closers := closerTable tokens.tags
    nextOpens := nextOpenTable tokens.tags }

theorem tokens_parse (source : List Char) : (parse source).tokens = tokenize source := rfl

/-- All tags of the document in order. -/
def tags (d : Document) : List Tag := d.tokens.tags

/-- The open tags of the document in order. -/
def openTags (d : Document) : List Tag := d.tags.filter Tag.isOpen

/-- The open tags of one name, in order. -/
def openTagsNamed (d : Document) (name : String) : List Tag :=
  let letters := name.toList
  d.openTags.filter fun t => t.name = letters

/-- The first open tag of a name. -/
def firstOpen? (d : Document) (name : String) : Option Tag :=
  let letters := name.toList
  d.tags.find? fun t => t.isOpen && t.name = letters

/-! ## Pairing tags -/

/-- The position of a tag among all tags. -/
def indexOf? (d : Document) (t : Tag) : Option Nat :=
  d.tags.findIdx? fun u => u.start = t.start

/-- The index of the close tag of the element that the tag of an index opens. -/
def closingIndex? (d : Document) (index : Nat) : Option Nat := d.closers[index]?.join

/-- The close tag of the element that a tag opens. -/
def closer? (d : Document) (t : Tag) : Option Tag :=
  ((d.indexOf? t).bind d.closingIndex?).bind fun c => d.tags[c]?

/-- The next open tag with the name of an open tag. -/
def nextOpen? (d : Document) (t : Tag) : Option Tag :=
  ((d.indexOf? t).bind fun i => d.nextOpens[i]?.join).bind fun n => d.tags[n]?

/-! ## Ranges -/

/-- The range of the element of an open tag that has this close tag, or none. -/
def rangeTo (d : Document) (t : Tag) (closer? : Option Tag) : Span :=
  if t.isChildless then ⟨t.start, t.stop⟩ else ⟨t.start, (closer?.map Tag.stop).getD d.size⟩

/-- The range of the element that a tag opens. -/
def elementRange (d : Document) (t : Tag) : Span := d.rangeTo t (d.closer? t)

/-- The range between an open tag and its close tag or the next open tag of its name. -/
def contentRange (d : Document) (t : Tag) : Span :=
  if t.isChildless then ⟨t.stop, t.stop⟩
  else
    let close := ((d.closer? t).map Tag.start).getD d.size
    let next := ((d.nextOpen? t).map Tag.start).getD d.size
    ⟨t.stop, max (min close next) t.stop⟩

/-- Each tag with whether it lies inside an element of the given name. -/
def tagsInside (d : Document) (name : String) : List (Tag × Bool) :=
  markInside name.toList 0 d.tags

/-- Whether a tag lies inside an element of the given name. -/
def isInside (d : Document) (t : Tag) (name : String) : Bool :=
  (d.tagsInside name).any fun (u, inside) => u.start = t.start && inside

/-- The range of the head; a head that is not closed ends where the body begins. -/
def headRange? (d : Document) : Option Span :=
  (d.firstOpen? "head").map fun head =>
    match d.closer? head, d.firstOpen? "body" with
    | none, some body => ⟨head.start, max body.start head.start⟩
    | _, _ => d.elementRange head

/-- The range of the body. -/
def bodyRange? (d : Document) : Option Span := (d.firstOpen? "body").map d.elementRange

/-- Whether an offset lies in the head. -/
def inHead (d : Document) (offset : Nat) : Bool := d.headRange?.any (·.contains offset)

/-- The line of a byte offset. -/
def line (d : Document) (offset : Nat) : Nat := d.lines.lineAt offset

/-! ## Text -/

/-- A text as it is read: the entities of the no-break space and the ampersand decoded, blanks
collapsed. -/
def readable (s : List Char) : List Char :=
  let spaced := replaceAll "&#160;".toList [' '] (replaceAll "&nbsp;".toList [' '] s)
  collapse (replaceAll "&amp;".toList ['&'] spaced)

/-- The runs of text in a range: from the first one on that does not begin in front of it, those that
end in it. -/
def runsIn (d : Document) (range : Span) : List TextRun :=
  let first := partitionPoint (fun r => r.start < range.start) d.tokens.text.toArray
  (d.tokens.text.drop first).takeWhile fun r => r.span.stop ≤ range.stop

/-- The text in a range. -/
def textIn (d : Document) (range : Span) : List Char :=
  readable ([' '].intercalate ((d.runsIn range).map TextRun.text))

/-- The text inside an element. -/
def innerText (d : Document) (t : Tag) : List Char := d.textIn (d.contentRange t)

/-- The alternative texts of the images in a range, without the blank ones. -/
def imageTextsIn (d : Document) (range : Span) : List (List Char) :=
  let images := (d.tags.filter fun u => range.contains u.start).filter fun u =>
    u.isOpen && u.name = "img".toList
  images.filterMap fun u =>
    (u.value? "alt").bind fun alt => if isBlank alt then none else some (trim alt)

/-- What a screen reader announces for an element: its text, then the texts of its images. -/
def accessibleText (d : Document) (t : Tag) : List Char :=
  let range := d.contentRange t
  [' '].intercalate ([d.textIn range].filter (fun s => !s.isEmpty) ++ d.imageTextsIn range)

/-- The bodies of the scripts or styles of a document, each with its open tag. -/
def rawBlocksNamed (d : Document) (name : String) : List (RawBlock × Tag) :=
  d.tokens.raw.filterMap fun b =>
    d.tags[b.tag]?.bind fun t => if t.name = name.toList then some (b, t) else none

end Document

end MarkupGate
