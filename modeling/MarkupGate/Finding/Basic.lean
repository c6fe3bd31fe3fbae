import MarkupGate.Rule.Info

/-!
# Findings

One thing that a rule found fault with. A finding carries what its rule says about itself, so that
a report can be read without the catalog; where the fault has a place in the markup, the finding
names its line.
-/

namespace MarkupGate

/-- A single fault in a page. -/
structure Finding where
  /-- the rule that found it -/
  ruleId : String
  category : Category
  severity : Severity
  /-- the points it costs -/
  weight : Nat
  /-- what is wrong -/
  message : String
  /-- the line in the markup, if the fault has a place there -/
  line : Option Nat
  /-- whether it can be repaired -/
  fixable : Bool
  /-- what to do about it -/
  suggestion : Option String
  deriving DecidableEq, Repr

namespace Finding

/-- A finding of a rule. -/
def ofRule (info : RuleInfo) (message : String) (line : Option Nat) : Finding where
  ruleId := info.id
  category := info.category
  severity := info.severity
  weight := info.severity.weight
  message := message
  line := line
  fixable := info.fixable
  suggestion := info.suggestion

end Finding

end MarkupGate
