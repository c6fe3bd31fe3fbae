import MarkupGate.Markup.Lexer

/-!
# Tokens: tags, text and code with their positions

The flat inventory of a markup text that everything else works from: its open and close tags, its
runs of text, the bodies of its scripts and styles, and where its document type is declared. All
of it is read off the pieces of the text; a position is the number of bytes written before.

Names of tags and attributes are lower-cased here, in ASCII; values stay as they were written.
-/

namespace MarkupGate

/-- The value of an attribute and where it stands. -/
structure AttrValue where
  /-- the value without quotes; a braced expression keeps its braces -/
  text : List Char
  /-- the offset of its first character -/
  start : Nat
  /-- how it was delimited -/
  form : ValueForm
  deriving DecidableEq, Repr

namespace AttrValue

/-- The range of the value, quotes excluded. -/
def span (v : AttrValue) : Span := .ofText v.start v.text

/-- Whether the value is a braced expression, whose meaning is unknown here. -/
def isExpression (v : AttrValue) : Bool := v.form = .expression

end AttrValue

/-- An attribute of an open tag. -/
structure Attr where
  /-- the lower-cased name -/
  name : List Char
  /-- the offset just past the name -/
  nameEnd : Nat
  /-- the value, if there is one -/
  value : Option AttrValue
  deriving DecidableEq, Repr

/-- Whether a tag opens or closes an element. -/
inductive TagKind where
  | opening
  | closing
  deriving DecidableEq, Repr

/-- An open or close tag. -/
structure Tag where
  /-- the lower-cased name -/
  name : List Char
  /-- whether it opens or closes -/
  kind : TagKind
  /-- the offset of its first character -/
  start : Nat
  /-- the offset just past its last character -/
  stop : Nat
  /-- the offset just past its name, where an attribute can be inserted -/
  nameEnd : Nat
  /-- whether it ends in a slash and a bracket -/
  selfClosing : Bool
  /-- its attributes, in the order they were written -/
  attrs : List Attr
  deriving DecidableEq, Repr

namespace Tag

/-- Whether the tag is an open tag. -/
def isOpen (t : Tag) : Bool := t.kind = .opening

/-- Whether the tag is a close tag. -/
def isClose (t : Tag) : Bool := t.kind = .closing

/-- The first attribute of a name; later ones of the same name have no effect. -/
def attr? (t : Tag) (name : String) : Option Attr :=
  t.attrs.find? fun a => a.name = name.toList

/-- The value of an attribute, quotes removed; nothing for a boolean attribute. -/
def value? (t : Tag) (name : String) : Option (List Char) :=
  (t.attr? name).bind fun a => a.value.map AttrValue.text

/-- Whether the tag has an attribute of this name. -/
def hasAttr (t : Tag) (name : String) : Bool := (t.attr? name).isSome

end Tag

/-- A run of text between tags, or the content of a text-only element. -/
structure TextRun where
  /-- the offset of its first character -/
  start : Nat
  /-- what it says -/
  text : List Char
  deriving DecidableEq, Repr

namespace TextRun

/-- The range of the run. -/
def span (r : TextRun) : Span := .ofText r.start r.text

end TextRun

/-- The body of a script or style. -/
structure RawBlock where
  /-- the index of its open tag among all tags -/
  tag : Nat
  /-- the offset just past the open tag -/
  start : Nat
  /-- the body, up to the close tag -/
  text : List Char
  deriving DecidableEq, Repr

namespace RawBlock

/-- The range of the body. -/
def span (b : RawBlock) : Span := .ofText b.start b.text

end RawBlock

/-! ## Placing pieces -/

/-- Something at an offset. -/
structure Located (α : Type) where
  /-- the offset of its first character -/
  start : Nat
  /-- what stands there -/
  item : α
  deriving Repr

/-- Places written items one after another from an offset on. -/
def locate {α : Type} (written : α → List Char) (start : Nat) : List α → List (Located α)
  | [] => []
  | x :: xs => ⟨start, x⟩ :: locate written (start + byteLength (written x)) xs

/-- The attribute written at an offset. -/
def WrittenAttr.place (a : WrittenAttr) (start : Nat) : Attr :=
  let nameEnd := start + byteLength a.name
  { name := asciiLower a.name
    nameEnd := nameEnd
    value := a.value.map fun v =>
      { text := v.text, start := nameEnd + byteLength v.lead, form := v.form } }

/-- The attribute of a part, if it is one. -/
def TagPart.attr? (p : Located TagPart) : Option Attr :=
  match p.item with
  | .filler _ => none
  | .attr a => some (a.place p.start)

/-- The open tag written at an offset. -/
def OpenTag.place (t : OpenTag) (start : Nat) : Tag :=
  let nameEnd := start + 1 + byteLength t.name
  { name := asciiLower t.name
    kind := .opening
    start := start
    stop := start + byteLength t.source
    nameEnd := nameEnd
    selfClosing := t.selfClosing
    attrs := (locate TagPart.source nameEnd t.parts).filterMap TagPart.attr? }

namespace Piece

/-- The tag of a piece, if it has one. -/
def tag? (p : Located Piece) : Option Tag :=
  match p.item with
  | .openTag t _ => some (t.place p.start)
  | .closeTag name _ =>
    some {
      name := asciiLower name
      kind := .closing
      start := p.start
      stop := p.start + byteLength p.item.source
      nameEnd := p.start + 2 + byteLength name
      selfClosing := false
      attrs := [] }
  | _ => none

/-- The text of a piece, if it has any. -/
def text? (p : Located Piece) : Option TextRun :=
  match p.item with
  | .text content => some ⟨p.start, content⟩
  | .openTag t content =>
    if t.opensTextOnly && !content.isEmpty then some ⟨p.start + byteLength t.source, content⟩
    else none
  | _ => none

/-- The code of a piece whose tag has this index, if it has any. -/
def raw? (p : Located Piece) (tag : Nat) : Option RawBlock :=
  match p.item with
  | .openTag t content =>
    if t.opensRaw then some ⟨tag, p.start + byteLength t.source, content⟩ else none
  | _ => none

/-- Whether a piece declares the document type. -/
def isDoctype : Piece → Bool
  | .declaration mark body => mark = '!' && beginsIgnoringCase "doctype".toList body
  | _ => false

end Piece

/-- The inventory of a markup text. -/
structure Tokens where
  /-- the range of the first document type declaration -/
  doctype : Option Span
  /-- open and close tags, in document order -/
  tags : List Tag
  /-- runs of text, in document order -/
  text : List TextRun
  /-- bodies of scripts and styles, in document order -/
  raw : List RawBlock
  deriving DecidableEq, Repr

namespace Tokens

/-- The inventory of placed pieces. -/
def ofLocated (pieces : List (Located Piece)) : Tokens where
  doctype := (pieces.find? fun p => p.item.isDoctype).map fun p => .ofText p.start p.item.source
  tags := pieces.filterMap Piece.tag?
  text := pieces.filterMap Piece.text?
  raw :=
    ((pieces.filter fun p => (Piece.tag? p).isSome).zipIdx).filterMap fun (p, i) => Piece.raw? p i

end Tokens

/-- The tags, text and code of a markup text. -/
def tokenize (source : List Char) : Tokens :=
  .ofLocated (locate Piece.source 0 (lex source))

end MarkupGate
