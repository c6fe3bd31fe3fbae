import MarkupGate.Config.Encoding

/-!
# Layers of configuration

Where settings come from, the strongest source last: the file of the user, the file of the project,
the environment, and what the caller asks for. Each layer overrides the settings that it gives; an
empty list in a file gives nothing, while the environment and the caller can also empty the list of
rules to leave out. The result is checked as a whole.

A file of the user that cannot be read is passed over, a file of the project that cannot be read is
an error, and so is a file of either that is malformed.
-/

namespace MarkupGate

/-- What stands in the place of a configuration file. -/
inductive ConfigFile where
  | absent
  /-- something that cannot be read as text -/
  | unreadable
  | text (content : List Char)
  deriving DecidableEq, Repr

/-- The environment variables that hold settings. -/
structure Environment where
  passThreshold : Option String := none
  aboveFoldImageCount : Option String := none
  defaultLang : Option String := none
  /-- rule identifiers with commas between them -/
  disabledRules : Option String := none
  deriving DecidableEq, Repr

/-- What the caller asks for. -/
structure ConfigOverrides where
  passThreshold : Option Nat := none
  aboveFoldImageCount : Option Nat := none
  defaultLang : Option String := none
  disabledRules : Option (List String) := none
  deriving DecidableEq, Repr

/-! ## Numbers in the environment -/

/-- What is wrong with the text of a number. -/
inductive NumberFault where
  | empty
  | invalidDigit
  | tooLarge
  deriving DecidableEq, Repr

namespace NumberFault

/-- The fault in words. -/
def message : NumberFault → String
  | empty => "cannot parse integer from empty string"
  | invalidDigit => "invalid digit found in string"
  | tooLarge => "number too large to fit in target type"

end NumberFault

/-- Takes one more digit of a number below `bound`. -/
def addDigit (bound n : Nat) (c : Char) : Except NumberFault Nat :=
  if !c.isDigit then .error .invalidDigit
  else
    let n := 10 * n + (c.toNat - '0'.toNat)
    if n < bound then .ok n else .error .tooLarge

/-- Reads a number below `bound` in decimal digits, perhaps with a plus sign; the first character at
fault decides. -/
def readNumber (bound : Nat) : List Char → Except NumberFault Nat
  | [] => .error .empty
  | ['+'] => .error .invalidDigit
  | '+' :: digits => digits.foldlM (addDigit bound) 0
  | digits => digits.foldlM (addDigit bound) 0

/-! ## The layers -/

/-- The list of a layer if it gives one, else that of the layers below. -/
def listOr (upper lower : List String) : List String := if upper.isEmpty then lower else upper

namespace Config

/-- The settings of `upper` where it gives any, else those of `lower`. -/
def layeredOver (upper lower : Config) : Config where
  scoring := {
    passThreshold := upper.scoring.passThreshold.or lower.scoring.passThreshold
    gradeA := upper.scoring.gradeA.or lower.scoring.gradeA
    gradeB := upper.scoring.gradeB.or lower.scoring.gradeB
    gradeC := upper.scoring.gradeC.or lower.scoring.gradeC
    gradeD := upper.scoring.gradeD.or lower.scoring.gradeD }
  autofix := {
    aboveFoldKeywords := listOr upper.autofix.aboveFoldKeywords lower.autofix.aboveFoldKeywords
    aboveFoldImageCount :=
      upper.autofix.aboveFoldImageCount.or lower.autofix.aboveFoldImageCount
    aboveFoldRatio := upper.autofix.aboveFoldRatio.or lower.autofix.aboveFoldRatio
    defaultLang := upper.autofix.defaultLang.or lower.autofix.defaultLang }
  rules := {
    disabled := listOr upper.rules.disabled lower.rules.disabled
    maxExternalScripts := upper.rules.maxExternalScripts.or lower.rules.maxExternalScripts
    extraSecretPatterns :=
      listOr upper.rules.extraSecretPatterns lower.rules.extraSecretPatterns }

/-- Puts what the caller asks for over a configuration. -/
def override (overrides : ConfigOverrides) (c : Config) : Config where
  scoring := { c.scoring with
    passThreshold := overrides.passThreshold.or c.scoring.passThreshold }
  autofix := { c.autofix with
    aboveFoldImageCount := overrides.aboveFoldImageCount.or c.autofix.aboveFoldImageCount
    defaultLang := overrides.defaultLang.or c.autofix.defaultLang }
  rules := { c.rules with disabled := overrides.disabledRules.getD c.rules.disabled }

end Config

namespace Environment

/-- The number in a variable, if it is set. -/
def number? (name : String) (bound : Nat) : Option String → Except ConfigError (Option Nat)
  | none => .ok none
  | some text =>
    match readNumber bound text.toList with
    | .ok n => .ok (some n)
    | .error fault => .error (.invalidValue name fault.message)

/-- The items of a list with commas between them; blanks around an item do not count, and neither
do empty items. -/
def listItems (text : String) : List String :=
  let parts := (splitAll (fun c => c = ',') text.toList).map trim
  (parts.filter fun part => !part.isEmpty).map String.ofList

/-- What the environment asks for. -/
def overrides (e : Environment) : Except ConfigError ConfigOverrides := do
  let passThreshold ← number? "PAGEGATE_PASS_THRESHOLD" bound32 e.passThreshold
  let imageCount ← number? "PAGEGATE_ABOVE_FOLD_IMAGE_COUNT" bound64 e.aboveFoldImageCount
  return {
    passThreshold := passThreshold
    aboveFoldImageCount := imageCount
    defaultLang := e.defaultLang
    disabledRules := e.disabledRules.map listItems }

end Environment

/-- All sources of settings. -/
structure ConfigSources where
  user : ConfigFile := .absent
  project : ConfigFile := .absent
  environment : Environment := {}
  overrides : ConfigOverrides := {}

namespace ConfigSources

/-- The settings in the file of the user. -/
def userLayer (s : ConfigSources) : Except ConfigError Config :=
  match s.user with
  | .text content => Config.read "user" content
  | .absent | .unreadable => .ok {}

/-- The settings in the file of the project. -/
def projectLayer (s : ConfigSources) : Except ConfigError Config :=
  match s.project with
  | .text content => Config.read "project" content
  | .absent => .ok {}
  | .unreadable => .error (.fileNotFound "project")

end ConfigSources

/-- The configuration that all sources make together. -/
def Config.load (s : ConfigSources) : Except ConfigError Config := do
  let user ← s.userLayer
  let project ← s.projectLayer
  let environment ← s.environment.overrides
  let config := ((project.layeredOver user).override environment).override s.overrides
  config.check
  return config

end MarkupGate
