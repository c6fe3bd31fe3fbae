import MarkupGate.Json.Value
import MarkupGate.Validation

/-!
# Results as data

The form in which validation results are stored and exchanged: JSON objects with a fixed order of
members. What is read back need not come in that order; a record may even be the bare array of its
fields, and a word the name of the only member of an object. Members that are not known are ignored,
and a line or suggestion may be left out. All else has to be there and of its type, numbers as plain
integers of at most 32 bits.
-/

namespace MarkupGate

namespace Json

/-- The fields of a record: the members of an object by name, `null` for those it lacks, or the
items of an array of the right length. -/
def fields? (names : List String) (j : Json) : Option (List Json) :=
  match j with
  | .object _ => some (names.map fun name => (j.member? name).getD .null)
  | .array items => if items.length = names.length then some items else none
  | _ => none

/-- A number of at most 32 bits. -/
def nat32? (j : Json) : Option Nat := j.nat?.bind fun n => if n < bound32 then some n else none

/-- A value that may be `null`. -/
def orNull? {α : Type} (decode : Json → Option α) : Json → Option (Option α)
  | .null => some none
  | j => (decode j).map some

end Json

namespace Finding

/-- The names of the members of a finding, in order. -/
def memberNames : List String :=
  ["ruleId", "category", "severityTier", "impact", "severityWeight", "message", "line", "fixable",
    "suggestion"]

/-- The values of the members of a finding, in order. -/
def memberValues (f : Finding) : List Json :=
  [.string f.ruleId, .string f.category.name, .string f.severity.tier.name,
    .string f.severity.impact.name, .ofNat f.weight, .string f.message, .ofOption .ofNat f.line,
    .bool f.fixable, .ofOption .string f.suggestion]

/-- A finding as data. -/
def toJson (f : Finding) : Json := .object (memberNames.zip f.memberValues)

/-- The finding that data stand for. -/
def ofJson? (j : Json) : Option Finding := do
  match ← j.fields? memberNames with
  | [ruleId, category, tier, impact, weight, message, line, fixable, suggestion] =>
    some {
      ruleId := ← ruleId.string?
      category := ← category.word?.bind Category.ofName?
      severity := ⟨← tier.word?.bind Tier.ofName?, ← impact.word?.bind Impact.ofName?⟩
      weight := ← weight.nat32?
      message := ← message.string?
      line := ← line.orNull? Json.nat32?
      fixable := ← fixable.bool?
      suggestion := ← suggestion.orNull? Json.string? }
  | _ => none

end Finding

namespace ValidationResult

/-- The names of the members of a result, in order. -/
def memberNames : List String := ["score", "grade", "passed", "errors", "warnings", "info"]

/-- The values of the members of a result, in order. -/
def memberValues (r : ValidationResult) : List Json :=
  [.ofNat r.score, .string r.grade.name, .bool r.passed, .ofList Finding.toJson r.errors,
    .ofList Finding.toJson r.warnings, .ofList Finding.toJson r.info]

/-- A result as data. -/
def toJson (r : ValidationResult) : Json := .object (memberNames.zip r.memberValues)

/-- The result that data stand for. -/
def ofJson? (j : Json) : Option ValidationResult := do
  match ← j.fields? memberNames with
  | [score, grade, passed, errors, warnings, info] =>
    some {
      score := ← score.nat32?
      grade := ← grade.word?.bind Grade.ofName?
      passed := ← passed.bool?
      errors := ← errors.list? Finding.ofJson?
      warnings := ← warnings.list? Finding.ofJson?
      info := ← info.list? Finding.ofJson? }
  | _ => none

end ValidationResult

end MarkupGate
