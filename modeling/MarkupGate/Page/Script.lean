import MarkupGate.Regex.Match
import MarkupGate.Rule.Basic

/-!
# Scripts

What scripts do that rules care about: the places where they write markup into the page, which external
script a tag loads and when.
-/

namespace MarkupGate

/-! ## Injection sinks -/

/-- An argument list begins, after optional blanks. -/
def callStart : Regex := .concat [.anyOf .blank, .text "("]

/-- The calls and assignments that turn text into markup or code. -/
def sinkPattern : Regex :=
  .alternation [
    .concat [.text ".", .oneOf ["innerHTML", "outerHTML"], .anyOf .blank,
      .optional (.text "+"), .text "=", .char (.exceptChars "=")],
    .concat [.wordEdge, .text "insertAdjacentHTML", callStart],
    .concat [.wordEdge, .text "document.write", .optional (.text "ln"), callStart],
    .concat [.wordEdge, .text "eval", callStart],
    .concat [.wordEdge, .text "dangerouslySetInnerHTML", .wordEdge]]

/-- What a match of the sink pattern is called. -/
def sinkName (found : List Char) : String :=
  let has (word : String) : Bool := hasInfix word.toList found
  if has "innerHTML" && !has "dangerously" then "innerHTML assignment"
  else if has "outerHTML" then "outerHTML assignment"
  else if has "insertAdjacentHTML" then "insertAdjacentHTML call"
  else if has "document.write" then "document.write call"
  else if has "eval" then "eval call"
  else "dangerouslySetInnerHTML"

namespace Tag

/-- Whether a script holds data and is never run. -/
def holdsData (t : Tag) : Bool :=
  (t.value? "type").any fun type =>
    let type := asciiLower (trim type)
    hasInfix "json".toList type || type = "text/template".toList
      || type = "text/x-template".toList

/-- The address of an external script, trimmed. -/
def scriptSource? (t : Tag) : Option (List Char) :=
  (t.value? "src").bind fun src => if isBlank src then none else some (trim src)

/-- Whether the page need not wait for a script. -/
def isDeferred (t : Tag) : Bool :=
  t.hasAttr "async" || t.hasAttr "defer" || isWord (t.value? "type") "module"

end Tag

end MarkupGate
