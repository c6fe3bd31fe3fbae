/-!
# Configuration

The settings of the gate. Every setting is optional; what is not set has a default, which
`passThresholdOrDefault` and its like fill in.
-/

namespace MarkupGate

/-- How pages are scored. -/
structure ScoringConfig where
  /-- the lowest score that passes -/
  passThreshold : Option Nat := none
  /-- the lowest score of an A -/
  gradeA : Option Nat := none
  /-- the lowest score of a B -/
  gradeB : Option Nat := none
  /-- the lowest score of a C -/
  gradeC : Option Nat := none
  /-- the lowest score of a D -/
  gradeD : Option Nat := none
  deriving DecidableEq, Repr

namespace ScoringConfig

/-- The lowest score that passes. -/
def passThresholdOrDefault (c : ScoringConfig) : Nat := c.passThreshold.getD 70

/-- The lowest score of an A. -/
def gradeAOrDefault (c : ScoringConfig) : Nat := c.gradeA.getD 90

/-- The lowest score of a B. -/
def gradeBOrDefault (c : ScoringConfig) : Nat := c.gradeB.getD 80

/-- The lowest score of a C. -/
def gradeCOrDefault (c : ScoringConfig) : Nat := c.gradeC.getD 70

/-- The lowest score of a D. -/
def gradeDOrDefault (c : ScoringConfig) : Nat := c.gradeD.getD 60

/-- The lowest scores of the grades A, B, C and D. -/
def cutoffs (c : ScoringConfig) : List Nat :=
  [c.gradeAOrDefault, c.gradeBOrDefault, c.gradeCOrDefault, c.gradeDOrDefault]

end ScoringConfig

/-- How pages are repaired. -/
structure AutofixConfig where
  /-- words that mark an image as above the fold -/
  aboveFoldKeywords : List String := []
  /-- how many leading images are above the fold -/
  aboveFoldImageCount : Option Nat := none
  /-- the part of the content above the fold -/
  aboveFoldRatio : Option Float := none
  /-- the language put into pages that name none -/
  defaultLang : Option String := none
  deriving Repr

namespace AutofixConfig

/-- The words that mark an image as above the fold. -/
def keywordsOrDefault (c : AutofixConfig) : List String :=
  if c.aboveFoldKeywords.isEmpty then ["hero", "logo", "banner"] else c.aboveFoldKeywords

/-- How many leading images are above the fold. -/
def imageCountOrDefault (c : AutofixConfig) : Nat := c.aboveFoldImageCount.getD 0

/-- The part of the content above the fold. -/
def ratioOrDefault (c : AutofixConfig) : Float := c.aboveFoldRatio.getD 0.1

/-- The language put into pages that name none. -/
def langOrDefault (c : AutofixConfig) : String := c.defaultLang.getD "en"

end AutofixConfig

/-- Which rules run, and with which limits. -/
structure RulesConfig where
  /-- rules to leave out -/
  disabled : List String := []
  /-- how many external scripts a page may load -/
  maxExternalScripts : Option Nat := none
  /-- further patterns of secrets -/
  extraSecretPatterns : List String := []
  deriving DecidableEq, Repr

namespace RulesConfig

/-- How many external scripts a page may load. -/
def maxExternalScriptsOrDefault (c : RulesConfig) : Nat := c.maxExternalScripts.getD 10

end RulesConfig

/-- All settings. -/
structure Config where
  scoring : ScoringConfig := {}
  autofix : AutofixConfig := {}
  rules : RulesConfig := {}
  deriving Repr

end MarkupGate
