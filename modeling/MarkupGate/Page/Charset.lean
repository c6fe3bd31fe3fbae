import MarkupGate.Rule.Basic

/-!
# Head metadata: charset and viewport

A page declares its charset in a `meta` element, either with a `charset` attribute or as the
`charset` parameter of a content type. Both forms are found here, with the place of the name of the
charset itself, so that it can be overwritten.
-/

namespace MarkupGate

/-- A declaration of the charset of a page. -/
structure CharsetDeclaration where
  /-- the `meta` tag that declares it -/
  tag : Tag
  /-- the name of the charset -/
  value : List Char
  /-- where the name stands, if it can be overwritten -/
  span : Option Span
  deriving DecidableEq, Repr

/-- Takes the characters of a class off both ends of a text. -/
def trimChars (drop : Char → Bool) (s : List Char) : List Char :=
  ((s.dropWhile drop).reverse.dropWhile drop).reverse

namespace CharsetDeclaration

/-- Whether the declared charset is UTF-8; quotes around its name do not matter. -/
def isUtf8 (d : CharsetDeclaration) : Bool :=
  let name := trimChars (fun c => c = '"' || c = '\'') (trim d.value)
  sameIgnoringCase name "utf-8".toList || sameIgnoringCase name "utf8".toList

/-- The charset parameter of a content type: the text before its value, and the value, which ends
at a semicolon or a blank. -/
def parameter? (content : List Char) : Option (List Char × List Char) :=
  let key := "charset=".toList
  (breakOn? key (asciiLower content)).map fun (before, _) =>
    let n := before.length + key.length
    (content.take n, (content.drop n).takeWhile fun c => c ≠ ';' && !isBlankChar c)

/-- The declaration of a `meta` tag, if it makes one. A `charset` attribute is looked at first;
where it is an expression, nothing is known about the tag. -/
def ofTag? (t : Tag) : Option CharsetDeclaration :=
  match t.attr? "charset" with
  | some a =>
    if a.value.any AttrValue.isExpression then none
    else some ⟨t, (a.value.map AttrValue.text).getD [], a.value.map AttrValue.span⟩
  | none =>
    if isWord (t.value? "http-equiv") "content-type" then do
      let content ← (← t.attr? "content").value
      let (before, value) ← parameter? content.text
      some ⟨t, value, some (.ofText (content.start + byteLength before) value)⟩
    else none

end CharsetDeclaration

namespace Document

/-- The charset declarations of a document, in order. -/
def charsetDeclarations (d : Document) : List CharsetDeclaration :=
  (d.openTagsNamed "meta").filterMap CharsetDeclaration.ofTag?

/-- Whether a document declares UTF-8 anywhere. -/
def declaresUtf8 (d : Document) : Bool := d.charsetDeclarations.any CharsetDeclaration.isUtf8

/-- The first `meta` tag that sets the viewport. -/
def viewportTag? (d : Document) : Option Tag :=
  (d.openTagsNamed "meta").find? fun t =>
    isWord (t.value? "name") "viewport" && !isMissing (t.value? "content")

end Document

end MarkupGate
