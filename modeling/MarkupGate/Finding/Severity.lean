/-!
# Severity

How much a finding matters: a tier, which decides the list it is reported in, and an impact within
the tier. Together they decide how many points it costs and whether it fails the page outright.
-/

namespace MarkupGate

/-- The area that a rule belongs to. -/
inductive Category where
  | structural
  | seo
  | accessibility
  | performance
  | security
  /-- findings about the rules themselves -/
  | internal
  deriving DecidableEq, Repr

namespace Category

/-- All categories. -/
def all : List Category :=
  [.structural, .seo, .accessibility, .performance, .security, .internal]

/-- The word for a category. -/
def name : Category → String
  | .structural => "structure"
  | .seo => "seo"
  | .accessibility => "accessibility"
  | .performance => "performance"
  | .security => "security"
  | .internal => "internal"

/-- The category of a word. -/
def ofName? (s : String) : Option Category := all.find? fun c => c.name = s

theorem ofName?_name (c : Category) : ofName? c.name = some c := by cases c <;> decide

end Category

/-- The tier of a finding, the worst first. -/
inductive Tier where
  | error
  | warning
  | info
  deriving DecidableEq, Repr

namespace Tier

/-- All tiers, the worst first. -/
def all : List Tier := [.error, .warning, .info]

/-- The word for a tier. -/
def name : Tier → String
  | .error => "error"
  | .warning => "warning"
  | .info => "info"

/-- The tier of a word. -/
def ofName? (s : String) : Option Tier := all.find? fun t => t.name = s

theorem ofName?_name (t : Tier) : ofName? t.name = some t := by cases t <;> decide

/-- The place of a tier in a report. -/
def rank : Tier → Nat
  | .error => 0
  | .warning => 1
  | .info => 2

end Tier

/-- The impact of a finding within its tier. -/
inductive Impact where
  | critical
  | high
  | medium
  | low
  deriving DecidableEq, Repr

namespace Impact

/-- All impacts, the worst first. -/
def all : List Impact := [.critical, .high, .medium, .low]

/-- The word for an impact. -/
def name : Impact → String
  | .critical => "critical"
  | .high => "high"
  | .medium => "medium"
  | .low => "low"

/-- The impact of a word. -/
def ofName? (s : String) : Option Impact := all.find? fun i => i.name = s

theorem ofName?_name (i : Impact) : ofName? i.name = some i := by cases i <;> decide

end Impact

/-- A tier and an impact. -/
structure Severity where
  tier : Tier
  impact : Impact
  deriving DecidableEq, Repr

namespace Severity

/-- The points that one finding of this severity costs. -/
def weight : Severity → Nat
  | ⟨.error, .critical⟩ => 15
  | ⟨.error, .high⟩ => 10
  | ⟨.error, .medium⟩ => 5
  | ⟨.error, .low⟩ => 2
  | ⟨.warning, .critical⟩ => 10
  | ⟨.warning, .high⟩ => 7
  | ⟨.warning, .medium⟩ => 4
  | ⟨.warning, .low⟩ => 2
  | ⟨.info, .critical⟩ => 5
  | ⟨.info, .high⟩ => 3
  | ⟨.info, .medium⟩ => 2
  | ⟨.info, .low⟩ => 1

/-- Every finding costs something. -/
theorem weight_pos (s : Severity) : 0 < s.weight := by
  obtain ⟨tier, impact⟩ := s
  cases tier <;> cases impact <;> decide

/-- A critical error fails the page whatever its score. -/
def isAutoFail (s : Severity) : Bool := s = ⟨.error, .critical⟩

/-- Tier and impact with a slash between them. -/
def name (s : Severity) : String := s.tier.name ++ "/" ++ s.impact.name

end Severity

end MarkupGate
