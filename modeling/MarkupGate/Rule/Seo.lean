import MarkupGate.Rule.Basic

/-!
# Metadata rules

What search engines and social sites read: a description and the Open Graph properties.
-/

namespace MarkupGate

namespace Rule

/-- Finds pages without a description. -/
def metaDescription : Rule := .ofFindings .metaDescription fun p =>
  let present := (p.doc.openTagsNamed "meta").any fun t =>
    isWord (t.value? "name") "description" && !isMissing (t.value? "content")
  if present then []
  else [.ofRule .metaDescription "Missing <meta name=\"description\"> with content" none]

/-- The Open Graph properties that a page needs. -/
def openGraphProperties : List String := ["og:title", "og:description", "og:image"]

/-- Whether a page sets an Open Graph property, be it as a property or as a name. -/
def setsProperty (d : Document) (property : String) : Bool :=
  (d.openTagsNamed "meta").any fun t =>
    (isWord (t.value? "property") property || isWord (t.value? "name") property)
      && !isMissing (t.value? "content")

/-- Finds pages that lack Open Graph properties. -/
def openGraph : Rule := .ofFindings .openGraph fun p =>
  match openGraphProperties.filter fun property => !setsProperty p.doc property with
  | [] => []
  | missing =>
    [.ofRule .openGraph ("Missing Open Graph tags: " ++ ", ".intercalate missing) none]

end Rule

end MarkupGate
