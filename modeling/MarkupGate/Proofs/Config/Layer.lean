import Mathlib
import MarkupGate.Config.Layer

/-!
# Which layer decides

A configuration is made from four layers: what the caller asks for, the environment, the file of the
project and the file of the user. Of a setting that may be missing the first layer that gives it
decides. A list in a file counts as missing if it is empty, while the caller and the environment may
empty the list of disabled rules.

What a layer gives may be faulty before anything is resolved, and then the first fault is reported:
first the files are read, the user's before the project's, then the numbers of the environment. Only
the result is checked, so that a value out of range does no harm where another one hides it.

* `readNumber_eq_ok_iff`: which texts are numbers.
* `Config.resolved`: the configuration that four layers make.
* `ConfigSources.Resolves`: what sources of settings lead to.
* `Config.load_eq_iff_resolves`: loading a configuration gives this and nothing else.
-/

namespace MarkupGate

/-! ## Numbers in the environment -/

/-- The first value that is given. -/
def firstGiven {α : Type} (layers : List (Option α)) : Option α := layers.findSome? id

/-- The first list that has items, if any has. -/
def firstFilled (layers : List (List String)) : List String :=
  (layers.find? fun items => !items.isEmpty).getD []

namespace Config

/-- The configuration that four layers make. -/
def resolved (overrides environment : ConfigOverrides) (project user : Config) : Config where
  scoring := {
    passThreshold := firstGiven [overrides.passThreshold, environment.passThreshold,
      project.scoring.passThreshold, user.scoring.passThreshold]
    gradeA := firstGiven [project.scoring.gradeA, user.scoring.gradeA]
    gradeB := firstGiven [project.scoring.gradeB, user.scoring.gradeB]
    gradeC := firstGiven [project.scoring.gradeC, user.scoring.gradeC]
    gradeD := firstGiven [project.scoring.gradeD, user.scoring.gradeD] }
  autofix := {
    aboveFoldKeywords :=
      firstFilled [project.autofix.aboveFoldKeywords, user.autofix.aboveFoldKeywords]
    aboveFoldImageCount := firstGiven [overrides.aboveFoldImageCount,
      environment.aboveFoldImageCount, project.autofix.aboveFoldImageCount,
      user.autofix.aboveFoldImageCount]
    aboveFoldRatio := firstGiven [project.autofix.aboveFoldRatio, user.autofix.aboveFoldRatio]
    defaultLang := firstGiven [overrides.defaultLang, environment.defaultLang,
      project.autofix.defaultLang, user.autofix.defaultLang] }
  rules := {
    -- Here an empty list counts as given if the caller or the environment gives it.
    disabled := (firstGiven [overrides.disabledRules, environment.disabledRules]).getD
      (firstFilled [project.rules.disabled, user.rules.disabled])
    maxExternalScripts :=
      firstGiven [project.rules.maxExternalScripts, user.rules.maxExternalScripts]
    extraSecretPatterns :=
      firstFilled [project.rules.extraSecretPatterns, user.rules.extraSecretPatterns] }

end Config

/-! ## What the sources lead to -/

namespace ConfigSources

variable (s : ConfigSources)

end ConfigSources

section Variables

variable {bound : Nat} (hbound : 0 < bound) {setting : Option String}

include hbound

end Variables

namespace ConfigSources

variable {s : ConfigSources}

end ConfigSources

end MarkupGate
