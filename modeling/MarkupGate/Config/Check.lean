import MarkupGate.Config.Basic
import MarkupGate.Error
import MarkupGate.Text.Blank

/-!
# Checked configurations

Which settings make sense: scores lie between 0 and 100, the grades do not overlap, the part of the
content above the fold is a part, and neither the language nor a keyword is blank. Checked are the
settings in effect, defaults included, so a grade that is set alone can contradict the default of
another one. The first setting at fault is named; `check_eq_ok_iff` has all that is asked for.
-/

namespace MarkupGate

namespace Config

/-- Whether no number of a list is smaller than the next one. -/
def isDescending : List Nat → Bool
  | a :: b :: rest => b ≤ a && isDescending (b :: rest)
  | _ => true

/-- Checks a configuration. -/
def check (c : Config) : Except ConfigError Unit := do
  unless c.scoring.passThresholdOrDefault ≤ 100 do
    throw (.validationFailed "scoring.pass_threshold" "must be between 0 and 100")
  unless c.scoring.cutoffs.all fun n => n ≤ 100 do
    throw (.validationFailed "scoring.grade_*" "must be between 0 and 100")
  unless isDescending c.scoring.cutoffs do
    throw (.validationFailed "scoring.grade_*"
      "cut-offs must satisfy grade_a >= grade_b >= grade_c >= grade_d")
  unless 0.0 ≤ c.autofix.ratioOrDefault ∧ c.autofix.ratioOrDefault ≤ 1.0 do
    throw (.validationFailed "autofix.above_fold_ratio" "must be between 0.0 and 1.0")
  if isBlank c.autofix.langOrDefault.toList then
    throw (.validationFailed "autofix.default_lang" "must not be empty")
  if c.autofix.aboveFoldKeywords.any fun keyword => isBlank keyword.toList then
    throw (.validationFailed "autofix.above_fold_keywords" "keywords must not be empty")

/-- What the check asks for. -/
theorem check_eq_ok_iff {c : Config} : c.check = .ok ()
    ↔ c.scoring.passThresholdOrDefault ≤ 100 ∧ (c.scoring.cutoffs.all fun n => n ≤ 100)
      ∧ isDescending c.scoring.cutoffs
      ∧ (0.0 ≤ c.autofix.ratioOrDefault ∧ c.autofix.ratioOrDefault ≤ 1.0)
      ∧ isBlank c.autofix.langOrDefault.toList = false
      ∧ (c.autofix.aboveFoldKeywords.any fun keyword => isBlank keyword.toList) = false := by
  have hunless : ∀ {p : Prop} [Decidable p] {e : ConfigError} {r : Unit → Except ConfigError Unit}
      {rest : Except ConfigError Unit},
      (if p then rest else throw e >>= r) = .ok () ↔ p ∧ rest = .ok () := by
    intro p _ e r rest
    split
    · simp_all
    · simp_all [throw, throwThe, MonadExceptOf.throw, bind, Except.bind]
  have hif : ∀ {p : Prop} [Decidable p] {e : ConfigError} {r : Unit → Except ConfigError Unit}
      {rest : Except ConfigError Unit},
      (if p then throw e >>= r else rest) = .ok () ↔ ¬p ∧ rest = .ok () := by
    intro p _ e r rest
    split
    · simp_all [throw, throwThe, MonadExceptOf.throw, bind, Except.bind]
    · simp_all
  have hlast : ∀ {p : Prop} [Decidable p] {e : ConfigError},
      (if p then throw e else pure () : Except ConfigError Unit) = .ok () ↔ ¬p := by
    intro p _ e
    split
    · simp_all [throw, throwThe, MonadExceptOf.throw]
    · simp_all [pure, Except.pure]
  unfold check
  dsimp only
  rw [hunless, hunless, hunless, hunless, hif, hlast, Bool.not_eq_true, Bool.not_eq_true]

end Config

end MarkupGate
