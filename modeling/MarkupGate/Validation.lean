import MarkupGate.Catalog
import MarkupGate.Score

/-!
# Validation

Running the rules of a catalog on a page. The findings are listed by tier, within a tier in the
order of the rules, and scored together. A rule that fails leaves one finding and changes nothing
about the others.
-/

namespace MarkupGate

/-- The outcome of a validation. -/
structure ValidationResult where
  score : Nat
  grade : Grade
  passed : Bool
  errors : List Finding
  warnings : List Finding
  info : List Finding
  deriving DecidableEq, Repr

namespace ValidationResult

/-- The result of scored findings, each in the list of its tier. -/
def ofFindings (findings : List Finding) (score : Score) : ValidationResult where
  score := score.points
  grade := score.grade
  passed := score.passed
  errors := findings.filter fun f => f.severity.tier = .error
  warnings := findings.filter fun f => f.severity.tier = .warning
  info := findings.filter fun f => f.severity.tier = .info

/-- All findings: errors, then warnings, then the rest. -/
def findings (r : ValidationResult) : List Finding := r.errors ++ r.warnings ++ r.info

/-- The number of findings. -/
def size (r : ValidationResult) : Nat := r.findings.length

/-- Whether a rule found something. -/
def hasRule (r : ValidationResult) (id : String) : Bool := r.findings.any fun f => f.ruleId = id

/-- How many findings a rule has. -/
def countRule (r : ValidationResult) (id : String) : Nat :=
  (r.findings.filter fun f => f.ruleId = id).length

/-- Whether some finding can be repaired. -/
def hasFixable (r : ValidationResult) : Bool := r.findings.any Finding.fixable

/-- Whether some error fails the page whatever its score. -/
def hasAutoFail (r : ValidationResult) : Bool := r.errors.any fun f => f.severity.isAutoFail

end ValidationResult

/-- A catalog and the way its findings are scored. -/
structure Validator where
  catalog : Catalog
  scorer : Scorer

namespace Validator

/-- The result of some rules on a page. -/
def runRules (v : Validator) (rules : List Rule) (page : Page) : ValidationResult :=
  let found := rules.flatMap fun r => r.run page
  let sorted := found.mergeSort fun f g => f.severity.tier.rank ≤ g.severity.tier.rank
  .ofFindings sorted (v.scorer.score sorted)

/-- Validates a page with all rules. -/
def validate (v : Validator) (page : Page) : ValidationResult := v.runRules v.catalog.rules page

/-- Validates a page with the rules of some identifiers; others are ignored. -/
def validateSubset (v : Validator) (ids : List String) (page : Page) : ValidationResult :=
  v.runRules (v.catalog.rules.filter fun r => ids.contains r.id) page

/-- The findings of one rule; none if it is not in the catalog. -/
def checkRule (v : Validator) (id : String) (page : Page) : List Finding :=
  match v.catalog.rule? id with
  | some r => r.run page
  | none => []

end Validator

end MarkupGate
