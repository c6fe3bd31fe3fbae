import MarkupGate.Page.Charset

/-!
# Structure rules

Document type, charset, viewport, language, title and headings: what a page needs to be read
properly by any browser. The rules on the first three ask for one thing to be there somewhere; a
finding about something missing has no line.
-/

namespace MarkupGate

namespace Rule

/-- Finds pages without a document type. -/
def doctype : Rule := .ofFindings .doctype fun p =>
  if p.doc.tokens.doctype.isSome then []
  else [.ofRule .doctype "Missing <!DOCTYPE html> declaration" none]

/-- Finds pages that do not declare UTF-8. -/
def charset : Rule := .ofFindings .charset fun p =>
  if p.doc.declaresUtf8 then []
  else
    match p.doc.charsetDeclarations.head? with
    | some d =>
      [p.findingAt .charset d.tag.start
        ("Declared charset '" ++ String.ofList (trim d.value) ++ "' is not UTF-8")]
    | none => [.ofRule .charset "Missing <meta charset=\"UTF-8\">" none]

/-- Finds pages that do not set the viewport. -/
def viewport : Rule := .ofFindings .viewport fun p =>
  if p.doc.viewportTag?.isSome then []
  else [.ofRule .viewport "Missing <meta name=\"viewport\"> with content" none]

/-- Finds pages that do not name their language; an expression may name it. -/
def htmlLang : Rule := .ofFindings .htmlLang fun p =>
  match p.doc.firstOpen? "html" with
  | none => [.ofRule .htmlLang "No <html> element to carry a lang attribute" none]
  | some t =>
    match t.attr? "lang" with
    | none => [p.findingAt .htmlLang t.start "<html> is missing a lang attribute"]
    | some a =>
      if a.value.any AttrValue.isExpression || !isMissing (a.value.map AttrValue.text) then []
      else [p.findingAt .htmlLang t.start "<html> has a blank lang attribute"]

/-- Finds pages without a title; only the first title counts. -/
def pageTitle : Rule := .ofFindings .pageTitle fun p =>
  match p.doc.firstOpen? "title" with
  | none => [.ofRule .pageTitle "Missing <title>" none]
  | some t =>
    if (p.doc.innerText t).isEmpty then [p.findingAt .pageTitle t.start "<title> is empty"]
    else []

/-- Finds pages without a main heading or with several. -/
def singleH1 : Rule := .ofFindings .singleH1 fun p =>
  match p.doc.openTagsNamed "h1" with
  | [] => [.ofRule .singleH1 "Missing <h1> heading" none]
  | [_] => []
  | _ :: second :: rest =>
    [p.findingAt .singleH1 second.start
      ("Found " ++ toString (rest.length + 2) ++ " <h1> elements; expected exactly one")]

/-- The level of a heading. -/
def headingLevel? (t : Tag) : Option Nat :=
  match t.name with
  | ['h', d] => if '1' ≤ d && d ≤ '6' then some (d.toNat - '0'.toNat) else none
  | _ => none

/-- Finds headings that lie more than one level below the heading before them. -/
def headingHierarchy : Rule := .ofFindings .headingHierarchy fun p =>
  let headings := p.doc.openTags.filterMap fun t => (headingLevel? t).map fun level => (t, level)
  (headings.zip headings.tail).filterMap fun ((_, previous), (t, level)) =>
    if previous + 1 < level then
      some (p.findingAt .headingHierarchy t.start
        ("Heading level skips from h" ++ toString previous ++ " to h" ++ toString level))
    else none

end Rule

end MarkupGate
