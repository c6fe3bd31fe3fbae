import MarkupGate.Text.Offset

/-!
# Pieces of markup

A markup text is a sequence of pieces, each of which knows exactly how it was written: runs of
text, comments, declarations, close tags, open tags together with the opaque content that follows
some of them, and, at the very end, a construct that never finishes. `source` writes a piece back;
offsets are the lengths of what was written before, so no piece carries a position of its own.
-/

namespace MarkupGate

/-- How an attribute value was written. -/
inductive ValueForm where
  /-- between two double quotes -/
  | doubleQuoted
  /-- between two single quotes -/
  | singleQuoted
  /-- as a braced expression, whose braces belong to the value -/
  | expression
  /-- bare -/
  | unquoted
  deriving DecidableEq, Repr

namespace ValueForm

/-- The delimiter on both sides of a value of this form. -/
def quote : ValueForm → List Char
  | doubleQuoted => ['"']
  | singleQuoted => ['\'']
  | expression | unquoted => []

end ValueForm

/-- A value with the space around the equals sign that introduces it. -/
structure WrittenValue where
  /-- the whitespace between the attribute name and the equals sign -/
  spaceBefore : List Char
  /-- the whitespace between the equals sign and the value -/
  spaceAfter : List Char
  /-- how the value is delimited -/
  form : ValueForm
  /-- the value without its quotes -/
  text : List Char
  deriving DecidableEq, Repr

namespace WrittenValue

/-- What stands between the attribute name and the first character of the value. -/
def lead (v : WrittenValue) : List Char :=
  v.spaceBefore ++ '=' :: v.spaceAfter ++ v.form.quote

/-- The value as it was written, equals sign and quotes included. -/
def source (v : WrittenValue) : List Char := v.lead ++ v.text ++ v.form.quote

end WrittenValue

/-- An attribute as it was written; without a value it is boolean. -/
structure WrittenAttr where
  /-- the name in its own case -/
  name : List Char
  /-- the value, if an equals sign follows the name -/
  value : Option WrittenValue
  deriving DecidableEq, Repr

namespace WrittenAttr

/-- The attribute as it was written. -/
def source (a : WrittenAttr) : List Char :=
  a.name ++ (a.value.map WrittenValue.source).getD []

end WrittenAttr

/-- One step inside an open tag: an attribute, or characters that mean nothing there (a space, a
stray slash or equals sign, a braced spread). -/
inductive TagPart where
  /-- characters without meaning -/
  | filler (text : List Char)
  /-- an attribute -/
  | attr (a : WrittenAttr)
  deriving DecidableEq, Repr

namespace TagPart

/-- The part as it was written. -/
def source : TagPart → List Char
  | filler text => text
  | attr a => a.source

end TagPart

/-- An open tag as it was written. -/
structure OpenTag where
  /-- the name in its own case -/
  name : List Char
  /-- what stands between the name and the end of the tag -/
  parts : List TagPart
  /-- whether the tag ends in a slash and a closing bracket -/
  selfClosing : Bool
  deriving DecidableEq, Repr

namespace OpenTag

/-- The characters that end the tag. -/
def ending (t : OpenTag) : List Char := if t.selfClosing then ['/', '>'] else ['>']

/-- The tag as it was written. -/
def source (t : OpenTag) : List Char :=
  '<' :: t.name ++ t.parts.flatMap TagPart.source ++ t.ending

end OpenTag

/-- One piece of a markup text. -/
inductive Piece where
  /-- a run of text, in which a bracket that opens nothing is text too -/
  | text (content : List Char)
  /-- a complete comment -/
  | comment (body : List Char)
  /-- a complete declaration, introduced by `mark` (`!` or `?`) -/
  | declaration (mark : Char) (body : List Char)
  /-- a close tag, with whatever stands between its name and its end -/
  | closeTag (name trailing : List Char)
  /-- an open tag with the content that belongs to it alone, empty for most elements -/
  | openTag (tag : OpenTag) (content : List Char)
  /-- a comment, declaration or tag that does not end -/
  | unterminated (rest : List Char)
  deriving DecidableEq, Repr

namespace Piece

/-- The piece as it was written. -/
def source : Piece → List Char
  | text content => content
  | comment body => '<' :: '!' :: '-' :: '-' :: body ++ ['-', '-', '>']
  | declaration mark body => '<' :: mark :: body ++ ['>']
  | closeTag name trailing => '<' :: '/' :: name ++ trailing ++ ['>']
  | openTag tag content => tag.source ++ content
  | unterminated rest => rest

end Piece

end MarkupGate
