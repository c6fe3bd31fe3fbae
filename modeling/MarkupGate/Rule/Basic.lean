import MarkupGate.Error
import MarkupGate.Finding.Basic
import MarkupGate.Markup.Document

/-!
# Rules

A rule looks at one page, with its style sheet and script if there are any, and lists what it finds
fault with. Rules know nothing of each other. A rule may fail: it then gives no findings, and what
becomes of the failure is decided where rules are run.
-/

namespace MarkupGate

/-- What a rule may look at. -/
structure Page where
  /-- the markup -/
  doc : Document
  /-- a style sheet that goes with it -/
  css : Option (List Char)
  /-- a script that goes with it -/
  js : Option (List Char)

namespace Page

/-- The page of a markup text with its style sheet and script. -/
def ofSource (html : List Char) (css js : Option (List Char)) : Page :=
  ⟨Document.parse html, css, js⟩

/-- A finding at a byte offset of the markup. -/
def findingAt (p : Page) (info : RuleInfo) (offset : Nat) (message : String) : Finding :=
  .ofRule info message (some (p.doc.line offset))

end Page

/-- How a rule fails. -/
inductive RuleFault where
  /-- the rule gives up, with its reason -/
  | gaveUp (error : RuleError)
  /-- the rule breaks off; its reason may be unreadable -/
  | brokeOff (reason : Option String)
  deriving DecidableEq, Repr

namespace RuleFault

/-- The error that a fault of a rule is reported as. -/
def error (ruleId : String) : RuleFault → RuleError
  | .gaveUp e => e
  | .brokeOff reason => .brokeOff ruleId (reason.getD "non-string panic payload")

end RuleFault

/-- A check with its description. -/
structure Rule where
  /-- what is known about the rule -/
  info : RuleInfo
  /-- what the rule finds in a page -/
  check : Page → Except RuleFault (List Finding)

namespace Rule

/-- The identifier of the rule. -/
def id (r : Rule) : String := r.info.id

/-- A rule that never fails. -/
def ofFindings (info : RuleInfo) (find : Page → List Finding) : Rule :=
  ⟨info, fun p => .ok (find p)⟩

/-- The findings of a rule on a page; a rule that fails leaves one finding that says so. -/
def run (r : Rule) (p : Page) : List Finding :=
  match r.check p with
  | .ok findings => findings
  | .error fault => [.ofRule .ruleFault (CodedError.coded (fault.error r.id)) none]

end Rule

/-! ## Attribute values -/

/-- Whether a value is there and is a given word, up to case and blanks around it. -/
def isWord (value : Option (List Char)) (word : String) : Bool :=
  value.any fun v => sameIgnoringCase (trim v) word.toList

/-- Whether a value is missing or blank. -/
def isMissing (value : Option (List Char)) : Bool := value.all isBlank

end MarkupGate
