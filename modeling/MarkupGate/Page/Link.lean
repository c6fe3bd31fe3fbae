import MarkupGate.Rule.Basic

/-!
# Links that open a new tab

A link to another site that opens in a new tab hands the new page a handle on the old one unless
its `rel` attribute says otherwise. Values that are expressions cannot be judged and are left alone.
-/

namespace MarkupGate

/-- The `rel` tokens that such a link needs. -/
def requiredRel : List String := ["noopener", "noreferrer"]

/-- Whether a link target lies on another site. -/
def isExternalHref (href : List Char) : Bool :=
  let target := trim href
  beginsIgnoringCase "http://".toList target || beginsIgnoringCase "https://".toList target
    || beginsIgnoringCase "//".toList target

namespace Attr

/-- Whether the value of the attribute is an expression. -/
def isExpression (a : Attr) : Bool := a.value.any AttrValue.isExpression

/-- The value of the attribute, empty if it has none. -/
def text (a : Attr) : List Char := (a.value.map AttrValue.text).getD []

end Attr

namespace Tag

/-- Whether the tag is a link to another site that opens a new tab. -/
def opensExternalTab (t : Tag) : Bool :=
  t.name = "a".toList && isWord (t.value? "target") "_blank"
    && (t.attr? "href").any fun href => !href.isExpression && isExternalHref href.text

/-- The required `rel` tokens that a link lacks; none if it needs none. -/
def missingRel (t : Tag) : List String :=
  if t.opensExternalTab then
    match t.attr? "rel" with
    | none => requiredRel
    | some rel =>
      if rel.isExpression then []
      else
        let tokens := words (asciiLower rel.text)
        requiredRel.filter fun token => !tokens.contains token.toList
  else []

end Tag

end MarkupGate
