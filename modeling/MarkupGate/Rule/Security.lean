import MarkupGate.Page.Link
import MarkupGate.Page.Script
import MarkupGate.Page.Secret

/-!
# Security rules

Links that hand over their opener, code in attributes, markup built from text, and secrets that are
published with the page.
-/

namespace MarkupGate

namespace Rule

/-- Finds links to other sites that open a tab without isolating their opener. -/
def targetBlank : Rule := .ofFindings .targetBlank fun p =>
  (p.doc.openTagsNamed "a").filterMap fun t =>
    match t.missingRel with
    | [] => none
    | missing =>
      some (p.findingAt .targetBlank t.start
        ("Link to " ++ String.ofList (trim ((t.value? "href").getD []))
          ++ " opens a new tab without rel=\"" ++ " ".intercalate missing ++ "\""))

/-- Whether an attribute name is that of an event handler. -/
def isEventHandler (name : List Char) : Bool :=
  match name with
  | 'o' :: 'n' :: event => !event.isEmpty && event.all Char.isLower
  | _ => false

/-- Finds event handlers written as text in attributes. -/
def inlineHandler : Rule := .ofFindings .inlineHandler fun p =>
  p.doc.openTags.flatMap fun t =>
    (t.attrs.filter fun a =>
        a.value.any (fun v => !v.isExpression) && isEventHandler a.name).map fun a =>
      p.findingAt .inlineHandler t.start
        ("Inline event handler " ++ String.ofList a.name ++ " on <" ++ String.ofList t.name
          ++ ">")

/-- Finds text turned into markup or code, in scripts of the page, in attributes and in its script
source. -/
def unsafeSink : Rule := .ofFindings .unsafeSink fun p =>
  let inScripts := (p.doc.rawBlocksNamed "script").flatMap fun (b, t) =>
    if t.holdsData then []
    else
      (sinkPattern.findAll b.text).map fun m =>
        p.findingAt .unsafeSink (b.start + m.start)
          ("Unsafe " ++ sinkName m.text ++ " in inline script")
  let inTags := (p.doc.openTags.filter fun t => t.hasAttr "dangerouslysetinnerhtml").map fun t =>
    p.findingAt .unsafeSink t.start
      ("Unsafe dangerouslySetInnerHTML on <" ++ String.ofList t.name ++ ">")
  let inSource := (sinkPattern.findAll (p.js.getD [])).map fun m =>
    .ofRule .unsafeSink ("Unsafe " ++ sinkName m.text ++ " in script source") none
  inScripts ++ inTags ++ inSource

/-- Finds secrets in the markup, the style sheet and the script source. -/
def hardcodedSecret (shapes : List SecretShape) : Rule := .ofFindings .hardcodedSecret fun p =>
  let inMarkup := (secretsIn shapes p.doc.source).map fun hit =>
    p.findingAt .hardcodedSecret hit.start
      ("Possible hardcoded " ++ hit.name ++ " in markup")
  let inInput (label : String) (input : Option (List Char)) : List Finding :=
    match input with
    | none => []
    | some s =>
      (secretsIn shapes s).map fun hit =>
        .ofRule .hardcodedSecret ("Possible hardcoded " ++ hit.name ++ " in " ++ label) none
  inMarkup ++ inInput "stylesheet" p.css ++ inInput "script source" p.js

end Rule

end MarkupGate
