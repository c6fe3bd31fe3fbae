import MarkupGate.Fix.Engine

/-!
# The gate

Validates a page and, if it does not pass or if asked to, repairs it once and validates it again.
There is never a second round of repairs.
-/

namespace MarkupGate

/-- What the gate did with a page. -/
structure GateReport where
  /-- the markup that came in -/
  source : List Char
  /-- what was found in it -/
  initial : ValidationResult
  /-- the repair, if one was attempted -/
  fix : Option FixResult
  /-- what is found in the markup that goes out -/
  final : ValidationResult

namespace GateReport

/-- Whether a repair changed the page, so that it is worth writing back. -/
def shouldPersist (r : GateReport) : Bool := r.fix.any FixResult.changed

/-- The markup that goes out. -/
def output (r : GateReport) : List Char :=
  match r.fix with
  | some fix => if fix.changed then fix.fixed else r.source
  | none => r.source

/-- What the repair did. -/
def appliedFixes (r : GateReport) : List String :=
  (r.fix.map FixResult.appliedFixes).getD []

end GateReport

namespace Validator

/-- The validator of a catalog with the scoring of a configuration. -/
def ofConfig (catalog : Catalog) (config : Config) : Validator :=
  ⟨catalog, .ofConfig config.scoring⟩

/-- Takes a page through the gate; `force` asks for the repair even if the page passes. -/
def runGate (v : Validator) (force : Bool) (html : List Char) (css js : Option (List Char)) :
    GateReport :=
  let initial := v.validate (.ofSource html css js)
  if initial.passed && !force then ⟨html, initial, none, initial⟩
  else
    let fix := v.autoFix html initial
    let final := if fix.changed then v.validate (.ofSource fix.fixed css js) else initial
    ⟨html, initial, some fix, final⟩

end Validator

end MarkupGate
