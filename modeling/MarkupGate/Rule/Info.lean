import MarkupGate.Finding.Severity

/-!
# What is known about a rule

Every rule has an identifier that never changes, a category, a severity and, where its findings can
be repaired, the fix that repairs them. This module lists the built-in rules in the order in which
they run and report, and the six fixes in the order in which they are applied.
-/

namespace MarkupGate

/-! ## Fixes -/

/-- The repairs. -/
inductive FixKind where
  | insertDoctype
  | insertCharset
  | insertViewport
  | insertLang
  | lazyLoadImages
  | secureTargetBlank
  deriving DecidableEq, Repr

namespace FixKind

/-- The repairs in the order of their application: those that build the head come first, because
the others depend on where head and body lie. -/
def order : List FixKind :=
  [.insertDoctype, .insertCharset, .insertViewport, .insertLang, .lazyLoadImages,
    .secureTargetBlank]

/-- The name of a repair. -/
def name : FixKind → String
  | .insertDoctype => "insert-doctype"
  | .insertCharset => "insert-charset"
  | .insertViewport => "insert-viewport"
  | .insertLang => "insert-lang"
  | .lazyLoadImages => "lazy-load-images"
  | .secureTargetBlank => "secure-target-blank"

/-- The repair of a name. -/
def ofName? (s : String) : Option FixKind := order.find? fun k => k.name = s

/-- The rule whose findings a repair removes. -/
def ruleId : FixKind → String
  | .insertDoctype => "structure/doctype"
  | .insertCharset => "structure/charset"
  | .insertViewport => "structure/viewport"
  | .insertLang => "structure/html-lang"
  | .lazyLoadImages => "performance/img-lazy-loading"
  | .secureTargetBlank => "security/target-blank"

end FixKind

/-! ## Rules -/

/-- The description of a rule. -/
structure RuleInfo where
  /-- the identifier -/
  id : String
  category : Category
  severity : Severity
  /-- the repair of its findings, if there is one -/
  fix : Option FixKind
  /-- what the rule asks for -/
  title : String
  /-- what to do about a finding -/
  suggestion : Option String
  deriving DecidableEq, Repr

namespace RuleInfo

/-- Whether findings of the rule can be repaired. -/
def fixable (i : RuleInfo) : Bool := i.fix.isSome

/-- The page declares its document type. -/
def doctype : RuleInfo where
  id := "structure/doctype"
  category := .structural
  severity := ⟨.error, .high⟩
  fix := some .insertDoctype
  title := "DOCTYPE declaration present"
  suggestion := some "Start the document with <!DOCTYPE html>."

/-- The page declares UTF-8. -/
def charset : RuleInfo where
  id := "structure/charset"
  category := .structural
  severity := ⟨.error, .medium⟩
  fix := some .insertCharset
  title := "UTF-8 charset declared"
  suggestion := some "Add <meta charset=\"UTF-8\"> as the first element of <head>."

/-- The page sets the viewport. -/
def viewport : RuleInfo where
  id := "structure/viewport"
  category := .structural
  severity := ⟨.error, .medium⟩
  fix := some .insertViewport
  title := "Viewport meta present"
  suggestion := some
    "Add <meta name=\"viewport\" content=\"width=device-width, initial-scale=1.0\">."

/-- The page names its language. -/
def htmlLang : RuleInfo where
  id := "structure/html-lang"
  category := .structural
  severity := ⟨.warning, .high⟩
  fix := some .insertLang
  title := "Document language declared"
  suggestion := some "Set a lang attribute on <html>, e.g. <html lang=\"en\">."

/-- The page has a title. -/
def pageTitle : RuleInfo where
  id := "structure/title"
  category := .structural
  severity := ⟨.error, .high⟩
  fix := none
  title := "Document title present"
  suggestion := some "Add a descriptive <title> inside <head>."

/-- The page has one main heading. -/
def singleH1 : RuleInfo where
  id := "structure/single-h1"
  category := .structural
  severity := ⟨.error, .medium⟩
  fix := none
  title := "Exactly one <h1>"
  suggestion := some "Use a single <h1> for the main page heading."

/-- No heading level is skipped on the way down. -/
def headingHierarchy : RuleInfo where
  id := "structure/heading-hierarchy"
  category := .structural
  severity := ⟨.warning, .medium⟩
  fix := none
  title := "Headings do not skip levels"
  suggestion := some "Nest headings one level at a time (h1 > h2 > h3)."

/-- The page has a description. -/
def metaDescription : RuleInfo where
  id := "seo/meta-description"
  category := .seo
  severity := ⟨.warning, .medium⟩
  fix := none
  title := "Meta description present"
  suggestion := some "Add <meta name=\"description\" content=\"...\"> summarizing the page."

/-- The page has the Open Graph properties that previews need. -/
def openGraph : RuleInfo where
  id := "seo/open-graph"
  category := .seo
  severity := ⟨.info, .high⟩
  fix := none
  title := "Open Graph tags present"
  suggestion := some "Add og:title, og:description and og:image meta properties."

/-- Images have an alternative text. -/
def imgAlt : RuleInfo where
  id := "accessibility/img-alt"
  category := .accessibility
  severity := ⟨.error, .high⟩
  fix := none
  title := "Images have alt attributes"
  suggestion := some "Describe the image in alt, or use alt=\"\" for decorative images."

/-- Alternative texts say something about their image. -/
def imgAltText : RuleInfo where
  id := "accessibility/img-alt-text"
  category := .accessibility
  severity := ⟨.warning, .low⟩
  fix := none
  title := "Alt text is descriptive"
  suggestion := some "Replace file names and generic words with a description of the image."

/-- Form controls have a label. -/
def formLabel : RuleInfo where
  id := "accessibility/form-label"
  category := .accessibility
  severity := ⟨.error, .medium⟩
  fix := none
  title := "Form controls are labelled"
  suggestion := some
    "Associate a <label for=\"id\">, wrap the control in <label>, or add aria-label."

/-- Link texts say where the link leads. -/
def linkText : RuleInfo where
  id := "accessibility/link-text"
  category := .accessibility
  severity := ⟨.warning, .medium⟩
  fix := none
  title := "Link text is descriptive"
  suggestion := some "Describe the link destination instead of \"click here\" or \"read more\"."

/-- Buttons have a name and the keyboard reaches them. -/
def buttonName : RuleInfo where
  id := "accessibility/button-name"
  category := .accessibility
  severity := ⟨.error, .medium⟩
  fix := none
  title := "Buttons are named and focusable"
  suggestion := some
    "Give buttons visible text or aria-label; prefer <button> over role=\"button\"."

/-- Text stands out from its background. -/
def colorContrast : RuleInfo where
  id := "accessibility/color-contrast"
  category := .accessibility
  severity := ⟨.warning, .low⟩
  fix := none
  title := "Text contrast is sufficient"
  suggestion := some "Use foreground/background colors with a contrast ratio of at least 4.5:1."

/-- Images below the fold load lazily. -/
def imgLazyLoading : RuleInfo where
  id := "performance/img-lazy-loading"
  category := .performance
  severity := ⟨.warning, .low⟩
  fix := some .lazyLoadImages
  title := "Below-the-fold images load lazily"
  suggestion := some "Add loading=\"lazy\" to images outside the initial viewport."

/-- Scripts load once, not too many, and without holding the page up. -/
def scriptLoading : RuleInfo where
  id := "performance/script-loading"
  category := .performance
  severity := ⟨.warning, .medium⟩
  fix := none
  title := "External scripts are not duplicated or blocking"
  suggestion := some "Load each script once and mark head scripts async or defer."

/-- Links that open a tab keep their opener to themselves. -/
def targetBlank : RuleInfo where
  id := "security/target-blank"
  category := .security
  severity := ⟨.error, .medium⟩
  fix := some .secureTargetBlank
  title := "New-tab links isolate the opener"
  suggestion := some "Add rel=\"noopener noreferrer\" to external links with target=\"_blank\"."

/-- Event handlers are not written in attributes. -/
def inlineHandler : RuleInfo where
  id := "security/inline-handler"
  category := .security
  severity := ⟨.warning, .high⟩
  fix := none
  title := "No inline event handlers"
  suggestion := some "Attach listeners with addEventListener instead of on* attributes."

/-- Text is not turned into markup or code. -/
def unsafeSink : RuleInfo where
  id := "security/unsafe-sink"
  category := .security
  severity := ⟨.error, .critical⟩
  fix := none
  title := "No HTML injection sinks"
  suggestion := some "Use textContent or DOM APIs instead of innerHTML, document.write or eval."

/-- No secret is published with the page. -/
def hardcodedSecret : RuleInfo where
  id := "security/hardcoded-secret"
  category := .security
  severity := ⟨.error, .critical⟩
  fix := none
  title := "No hardcoded secrets"
  suggestion := some
    "Move credentials to a server-side secret store; never ship them to the client."

/-- The finding that stands for a rule which could not do its work. -/
def ruleFault : RuleInfo where
  id := "internal/rule-fault"
  category := .internal
  severity := ⟨.warning, .medium⟩
  fix := none
  title := "Rule execution fault"
  suggestion := none

/-- The built-in rules, in the order in which they run. -/
def all : List RuleInfo :=
  [doctype, charset, viewport, htmlLang, pageTitle, singleH1, headingHierarchy, metaDescription,
    openGraph, imgAlt, imgAltText, formLabel, linkText, buttonName, colorContrast, imgLazyLoading,
    scriptLoading, targetBlank, inlineHandler, unsafeSink, hardcodedSecret]

/-- The built-in rule of an identifier. -/
def lookup? (id : String) : Option RuleInfo := all.find? fun i => i.id = id

end RuleInfo

end MarkupGate
