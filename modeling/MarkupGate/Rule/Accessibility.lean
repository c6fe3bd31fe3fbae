import MarkupGate.Page.Charset
import MarkupGate.Page.Contrast
import MarkupGate.Page.Link
import MarkupGate.Regex.Match

/-!
# Accessibility rules

Defects that keep people out of a page: images, controls, links and buttons that say nothing, and
text that is hard to tell from its background. None of the rules proves a page accessible.
-/

namespace MarkupGate

namespace Rule

/-! ## Images -/

/-- Whether an image is declared to be decoration. -/
def isHiddenImage (t : Tag) : Bool :=
  isWord (t.value? "role") "presentation" || isWord (t.value? "role") "none"
    || isWord (t.value? "aria-hidden") "true"

/-- The address of an image, for messages. -/
def imageLabel (t : Tag) : String := ((t.value? "src").map String.ofList).getD "(no src)"

/-- Finds images without a text. -/
def imgAlt : Rule := .ofFindings .imgAlt fun p =>
  ((p.doc.openTagsNamed "img").filter fun t => !t.hasAttr "alt" && !isHiddenImage t).map fun t =>
    p.findingAt .imgAlt t.start ("Image " ++ imageLabel t ++ " is missing an alt attribute")

/-- Image texts that describe nothing. -/
def genericImageTexts : List String :=
  ["image", "photo", "picture", "img", "graphic", "placeholder"]

/-- A file name of an image. -/
def imageFileName : Regex :=
  .concat [
    .assert .textStart,
    .atLeast 1 (.union .word (.ofChars "-. ")),
    .text ".",
    .alternation [.textAnyCase "png",
      .concat [.textAnyCase "jp", .optional (.textAnyCase "e"), .textAnyCase "g"],
      .textAnyCase "gif", .textAnyCase "svg", .textAnyCase "webp",
      .textAnyCase "avif", .textAnyCase "bmp", .textAnyCase "ico"],
    .assert .textEnd]

/-- Whether a trimmed image text says nothing about the image. -/
def isPoorImageText (alt : List Char) : Bool :=
  (genericImageTexts.any fun word => asciiLower alt = word.toList) || imageFileName.occursIn alt

/-- Finds images whose text is a generic word or a file name. -/
def imgAltText : Rule := .ofFindings .imgAltText fun p =>
  (p.doc.openTagsNamed "img").filterMap fun t => do
    let a ← t.attr? "alt"
    let alt := trim a.text
    if a.isExpression || alt.isEmpty || !isPoorImageText alt then none
    else
      some (p.findingAt .imgAltText t.start
        ("Alt text '" ++ String.ofList alt ++ "' does not describe the image"))

/-! ## Form controls -/

/-- Inputs that need no label. -/
def unlabelledInputTypes : List String := ["hidden", "submit", "button", "reset", "image"]

/-- Whether a tag is a form control that needs a label. -/
def needsLabel (t : Tag) : Bool :=
  if t.name = "input".toList then
    let type := asciiLower (trim ((t.value? "type").getD "text".toList))
    !unlabelledInputTypes.any fun u => type = u.toList
  else t.name = "select".toList || t.name = "textarea".toList

/-- The identifiers that the labels of a document name. -/
def labelTargets (d : Document) : List (List Char) :=
  (d.openTagsNamed "label").filterMap fun t => ((t.value? "for").or (t.value? "htmlfor")).map trim

/-- Whether an element carries a name of its own. -/
def hasOwnName (t : Tag) : Bool :=
  !isMissing (t.value? "aria-label") || !isMissing (t.value? "aria-labelledby")
    || !isMissing (t.value? "title")

/-- Finds form controls that no label belongs to. -/
def formLabel : Rule := .ofFindings .formLabel fun p =>
  let targets := labelTargets p.doc
  (p.doc.tagsInside "label").filterMap fun (t, inLabel) =>
    let labelled := inLabel || hasOwnName t
      || (t.value? "id").any fun id => targets.contains (trim id)
    if !t.isOpen || !needsLabel t || labelled then none
    else
      let name := match (t.value? "name").or (t.value? "id") with
        | some name => ' ' :: trim name
        | none => []
      some (p.findingAt .formLabel t.start
        ("Form control <" ++ String.ofList (t.name ++ name) ++ "> has no associated label"))

/-! ## Links and buttons -/

/-- Link texts that say nothing about where a link leads. -/
def genericLinkTexts : List String :=
  ["click here", "here", "read more", "more", "learn more", "link", "this link"]

/-- The small letter from `a` to `z` that a character is the capital of; the Kelvin sign is one of
`k`. Other characters stay. -/
def smallLetter (c : Char) : Char := if c.toNat = 0x212a then 'k' else c.toLower

/-- What a link announces. -/
def linkLabel (d : Document) (t : Tag) : List Char :=
  let label := trim ((t.value? "aria-label").getD [])
  if label.isEmpty then d.accessibleText t else label

/-- Whether a link text, without what is neither letter nor number around it, is generic. -/
def isGenericLinkText (text : List Char) : Bool :=
  let core := (trimChars (fun c => !isLetterOrNumber c) text).map smallLetter
  genericLinkTexts.any fun generic => core = generic.toList

/-- Finds links with a generic text. -/
def linkText : Rule := .ofFindings .linkText fun p =>
  (p.doc.openTagsNamed "a").filterMap fun t =>
    let text := linkLabel p.doc t
    if isGenericLinkText text then
      some (p.findingAt .linkText t.start
        ("Link text '" ++ String.ofList text ++ "' does not describe its destination"))
    else none

/-- Elements that the keyboard reaches by themselves. -/
def focusableNames : List String := ["a", "button", "input", "select", "textarea", "summary"]

/-- Finds buttons without a name and makeshift buttons that the keyboard does not reach. -/
def buttonName : Rule := .ofFindings .buttonName fun p =>
  p.doc.openTags.filterMap fun t =>
    if t.name = "button".toList then
      if hasOwnName t || !(p.doc.accessibleText t).isEmpty then none
      else some (p.findingAt .buttonName t.start "Button has no accessible name")
    else if isWord (t.value? "role") "button" && !t.hasAttr "tabindex"
        && !focusableNames.any fun n => t.name = n.toList then
      some (p.findingAt .buttonName t.start
        ("<" ++ String.ofList t.name
          ++ " role=\"button\"> is not keyboard focusable; add tabindex or use <button>"))
    else none

/-! ## Contrast -/

/-- Finds text colours too close to their backgrounds, in `style` attributes, in styles of the page
and in its style sheet. -/
def colorContrast : Rule := .ofFindings .colorContrast fun p =>
  let inTags := p.doc.openTags.filterMap fun t => do
    let style ← (← t.attr? "style").value
    if style.isExpression then none
    else (contrastFault? style.text).map (p.findingAt .colorContrast t.start)
  let inStyles := (p.doc.rawBlocksNamed "style").flatMap fun (b, _) =>
    (styleBlocks b.text).filterMap fun (offset, block) =>
      (contrastFault? block).map (p.findingAt .colorContrast (b.start + offset))
  let inSheet := (styleBlocks (p.css.getD [])).filterMap fun (_, block) =>
    (contrastFault? block).map fun message => .ofRule .colorContrast message none
  inTags ++ inStyles ++ inSheet

end Rule

end MarkupGate
