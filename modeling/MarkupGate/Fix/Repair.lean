import MarkupGate.Fix.Edit
import MarkupGate.Page.Charset
import MarkupGate.Page.Fold
import MarkupGate.Page.Link

/-!
# Repairs

Each repair goes from one markup text to the next: it parses the text afresh, decides on edits and
carries them out together. A repair that finds nothing to do is not applied.

New head elements go right behind the `head` tag, else into a new head behind the `html` tag, else
behind the document type, else to the very start.
-/

namespace MarkupGate

/-- What a repair leads to. -/
structure Repair where
  /-- the markup with the repair -/
  html : List Char
  /-- what was done -/
  description : String
  deriving DecidableEq, Repr

/-- What a repair does to a markup text; nothing if it is not applied. -/
abbrev RepairOutcome := Except FixError (Option Repair)

namespace Repair

/-- Carries out edits; the repair is not applied if there are none. -/
def ofEdits (fix : FixKind) (html : List Char) (edits : List Edit) (description : String) :
    RepairOutcome :=
  if edits.isEmpty then .ok none
  else (applyEdits fix html edits).map fun fixed => some ⟨fixed, description⟩

/-! ## The head -/

/-- The document type that is put in. -/
def doctypeDeclaration : List Char := "<!DOCTYPE html>\n".toList

/-- The charset element that is put in. -/
def charsetElement : List Char := "<meta charset=\"UTF-8\">".toList

/-- The viewport element that is put in. -/
def viewportElement : List Char :=
  "<meta name=\"viewport\" content=\"width=device-width, initial-scale=1.0\">".toList

/-- Puts a document type at the start of a text that has none. -/
def insertDoctype (html : List Char) : RepairOutcome :=
  ofEdits .insertDoctype html
    (if (Document.parse html).tokens.doctype.isSome then []
      else [.insertion 0 doctypeDeclaration])
    "Added <!DOCTYPE html> declaration"

/-- The insertion of an element into the head. -/
def headInsertion (d : Document) (element : List Char) : Edit :=
  match d.firstOpen? "head" with
  | some head => .insertion head.stop element
  | none =>
    match d.firstOpen? "html" with
    | some root => .insertion root.stop ("<head>".toList ++ element ++ "</head>".toList)
    | none => .insertion ((d.tokens.doctype.map Span.stop).getD 0) element

/-- Declares UTF-8: the first declaration that has a value in the text is changed, and if there is
none, an element is put in. -/
def insertCharset (html : List Char) : RepairOutcome :=
  let d := Document.parse html
  if d.declaresUtf8 then .ok none
  else
    let replaceable? := d.charsetDeclarations.findSome? fun c => c.span.map fun span => (c, span)
    match replaceable? with
    | some (c, span) =>
      ofEdits .insertCharset html [⟨span, "UTF-8".toList⟩]
        ("Changed declared charset from '" ++ String.ofList (trim c.value) ++ "' to UTF-8")
    | none =>
      ofEdits .insertCharset html [headInsertion d charsetElement]
        "Added <meta charset=\"UTF-8\">"

/-- The tag behind which the viewport element goes: the declaration of UTF-8, or else the first
declaration of a charset. -/
def charsetAnchor? (d : Document) : Option Tag :=
  let declarations := d.charsetDeclarations
  ((declarations.find? CharsetDeclaration.isUtf8).or declarations.head?).map (·.tag)

/-- Sets the viewport of a page that does not. -/
def insertViewport (html : List Char) : RepairOutcome :=
  let d := Document.parse html
  if d.viewportTag?.isSome then .ok none
  else
    let edit :=
      match charsetAnchor? d with
      | some t => .insertion t.stop viewportElement
      | none => headInsertion d viewportElement
    ofEdits .insertViewport html [edit] "Added responsive viewport meta tag"

/-! ## Attributes -/

/-- A value in double quotes. -/
def inQuotes (value : List Char) : List Char := '"' :: value ++ ['"']

/-- Whether a quote stands right before an offset. -/
def followsQuote (html : List Char) (offset : Nat) : Bool :=
  ((splitAtOffset? offset html).bind fun parts => parts.1.getLast?).any fun c =>
    c = '"' || c = '\''

/-- The edit that names the language in an `html` tag, if it has none and it can be told. -/
def langEdit? (lang : List Char) (t : Tag) : Option Edit :=
  match t.attr? "lang" with
  | none => some (.insertion t.nameEnd (" lang=".toList ++ inQuotes lang))
  | some a =>
    match a.value with
    | none => some (.insertion a.nameEnd ('=' :: inQuotes lang))
    | some v => if v.isExpression || !isBlank v.text then none else some ⟨v.span, lang⟩

/-- Names the language of a page. A fragment without an `html` element is left alone. -/
def insertLang (lang html : List Char) : RepairOutcome :=
  let edits := ((Document.parse html).firstOpen? "html").bind (langEdit? lang)
  ofEdits .insertLang html edits.toList
    ("Added lang=\"" ++ String.ofList lang ++ "\" to <html>")

/-- A number with a noun. -/
def counted (n : Nat) (noun : String) : String := if n = 1 then noun else noun ++ "s"

/-- Lets the images below the fold load lazily. -/
def lazyLoadImages (fold : FoldPolicy) (html : List Char) : RepairOutcome :=
  let images := fold.deferrable (Document.parse html)
  ofEdits .lazyLoadImages html
    (images.map fun t => .insertion t.nameEnd " loading=\"lazy\"".toList)
    ("Added loading=\"lazy\" to " ++ toString images.length ++ " below-the-fold "
      ++ counted images.length "image")

/-- The edit that adds the missing `rel` tokens to a link, if there are any. The tokens that are
there stay, in their order. -/
def relEdit? (html : List Char) (t : Tag) : Option Edit :=
  match t.missingRel with
  | [] => none
  | missing =>
    match t.attr? "rel" with
    | none =>
      let rel := " rel=".toList ++ inQuotes (" ".intercalate requiredRel).toList
      some (.insertion t.nameEnd rel)
    | some a =>
      let merged := [' '].intercalate (words a.text ++ missing.map String.toList)
      match a.value with
      | none => some (.insertion a.nameEnd ('=' :: inQuotes merged))
      | some v =>
        some ⟨v.span, if followsQuote html v.start then merged else inQuotes merged⟩

/-- Isolates the openers of links to other sites that open a tab. -/
def secureTargetBlank (html : List Char) : RepairOutcome :=
  let edits := ((Document.parse html).openTagsNamed "a").filterMap (relEdit? html)
  ofEdits .secureTargetBlank html edits
    ("Added rel=\"noopener noreferrer\" to " ++ toString edits.length ++ " external "
      ++ counted edits.length "link")

/-- The repair of a kind. -/
def run (kind : FixKind) (fold : FoldPolicy) (lang html : List Char) : RepairOutcome :=
  match kind with
  | .insertDoctype => insertDoctype html
  | .insertCharset => insertCharset html
  | .insertViewport => insertViewport html
  | .insertLang => insertLang lang html
  | .lazyLoadImages => lazyLoadImages fold html
  | .secureTargetBlank => secureTargetBlank html

end Repair

end MarkupGate
