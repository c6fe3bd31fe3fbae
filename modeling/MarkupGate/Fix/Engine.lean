import MarkupGate.Fix.Repair
import MarkupGate.Validation

/-!
# Automatic repair

Takes a markup text through the repairs whose rules found fault with it. A first pass goes through
all repairs in order; a repair runs if its rule is among the findings, or if an earlier repair has
changed the markup and the rule, checked again, now finds fault. If anything was changed, a second
pass checks every rule once more and repairs what the first pass may have brought about.

Repairs are checked for without style sheet and script. A repair that fails is not applied.
-/

namespace MarkupGate

/-- The outcome of an automatic repair. -/
structure FixResult where
  /-- the markup in the end -/
  fixed : List Char
  /-- what was done, in order -/
  appliedFixes : List String
  /-- the rules whose repairs were applied, each once -/
  resolvedRules : List String
  deriving DecidableEq, Repr

namespace FixResult

/-- Nothing was done. -/
def unchanged (html : List Char) : FixResult := ⟨html, [], []⟩

/-- Whether anything was done. -/
def changed (r : FixResult) : Bool := !r.appliedFixes.isEmpty

/-- Applies one more repair. -/
def apply (r : FixResult) (kind : FixKind) (repair : Repair) : FixResult where
  fixed := repair.html
  appliedFixes := r.appliedFixes ++ [repair.description]
  resolvedRules :=
    if r.resolvedRules.contains kind.ruleId then r.resolvedRules
    else r.resolvedRules ++ [kind.ruleId]

end FixResult

namespace Validator

/-- Whether the rule of a repair finds fault with a markup text. -/
def stillFires (v : Validator) (kind : FixKind) (html : List Char) : Bool :=
  !(v.checkRule kind.ruleId (.ofSource html none none)).isEmpty

/-- Tries one repair. -/
def attempt (v : Validator) (r : FixResult) (kind : FixKind) : FixResult :=
  match Repair.run kind v.catalog.fold v.catalog.defaultLang r.fixed with
  | .ok (some repair) => r.apply kind repair
  | .ok none => r
  | .error _ => r

/-- The repairs that the catalog has rules for, in order. -/
def activeFixes (v : Validator) : List FixKind :=
  FixKind.order.filter fun kind => v.catalog.fixFor? kind.ruleId = some kind

/-- The first pass, for the findings of a validation. -/
def firstPass (v : Validator) (result : ValidationResult) (html : List Char) : FixResult :=
  v.activeFixes.foldl (fun r kind =>
    if result.hasRule kind.ruleId || (r.changed && v.stillFires kind r.fixed) then
      v.attempt r kind
    else r) (.unchanged html)

/-- The second pass, on what the first one has left. -/
def settle (v : Validator) (r : FixResult) : FixResult :=
  v.activeFixes.foldl (fun r kind =>
    if v.stillFires kind r.fixed then v.attempt r kind else r) r

/-- Repairs what a validation found fault with. -/
def autoFix (v : Validator) (html : List Char) (result : ValidationResult) : FixResult :=
  if !result.hasFixable then .unchanged html
  else
    let first := v.firstPass result html
    if first.changed then v.settle first else first

end Validator

end MarkupGate
