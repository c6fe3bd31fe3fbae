import MarkupGate.Config.Check
import MarkupGate.Toml.Reader
import MarkupGate.Toml.Writer

/-!
# Configurations as text

A configuration is written in three sections, `scoring`, `autofix` and `rules`, with the settings
that are given; lists are always written. What is read may leave out whatever it likes, and names
that mean nothing here are passed over. A section can also be the bare array of its values in their
order. Values have to be of their type; only for the ratio an integer will do.

`Config.ofText` also checks what it has read. Writing fails only for numbers that the text format
cannot hold.
-/

namespace MarkupGate

/-! ## Reading -/

namespace Toml

/-- A natural number below a bound. -/
def nat? (bound : Nat) : Toml → Option Nat
  | .integer value => if 0 ≤ value ∧ value < bound then some value.toNat else none
  | _ => none

/-- A number, whole or not. -/
def float? : Toml → Option Float
  | .integer value => some (Float.ofInt value)
  | .float value => some value
  | _ => none

/-- A text. -/
def string? : Toml → Option String
  | .string value => some value
  | _ => none

/-- A list of texts. -/
def strings? : Toml → Option (List String)
  | .array items => items.mapM string?
  | _ => none

/-- The values of a section under some names: those of a table, or the items of an array in their
order. Nothing is found in a date. -/
def fields? (names : List String) : Toml → Option (List (Option Toml))
  | .table _ entries => some (names.map (Table.value? entries))
  | .array items => some (names.zipIdx.map fun (_, i) => items[i]?)
  | .tables earlier last =>
    let items := earlier ++ [last]
    some (names.zipIdx.map fun (_, i) => items[i]?.map (.table .header))
  | .moment => some (names.map fun _ => none)
  | _ => none

/-- Reads a value that may be absent. -/
def given? {α : Type} (decode : Toml → Option α) : Option Toml → Option (Option α)
  | none => some none
  | some v => (decode v).map some

end Toml

namespace ScoringConfig

/-- The names of the settings, in order. -/
def settingNames : List String := ["pass_threshold", "grade_a", "grade_b", "grade_c", "grade_d"]

/-- Reads a section. -/
def ofToml? (v : Toml) : Option ScoringConfig := do
  let score? := Toml.given? (Toml.nat? bound32)
  match ← v.fields? settingNames with
  | [passThreshold, gradeA, gradeB, gradeC, gradeD] =>
    some {
      passThreshold := ← score? passThreshold
      gradeA := ← score? gradeA
      gradeB := ← score? gradeB
      gradeC := ← score? gradeC
      gradeD := ← score? gradeD }
  | _ => none

end ScoringConfig

namespace AutofixConfig

/-- The names of the settings, in order. -/
def settingNames : List String :=
  ["above_fold_keywords", "above_fold_image_count", "above_fold_ratio", "default_lang"]

/-- Reads a section. -/
def ofToml? (v : Toml) : Option AutofixConfig := do
  match ← v.fields? settingNames with
  | [keywords, imageCount, ratio, lang] =>
    some {
      aboveFoldKeywords := (← Toml.given? Toml.strings? keywords).getD []
      aboveFoldImageCount := ← Toml.given? (Toml.nat? bound64) imageCount
      aboveFoldRatio := ← Toml.given? Toml.float? ratio
      defaultLang := ← Toml.given? Toml.string? lang }
  | _ => none

end AutofixConfig

namespace RulesConfig

/-- The names of the settings, in order. -/
def settingNames : List String := ["disabled", "max_external_scripts", "extra_secret_patterns"]

/-- Reads a section. -/
def ofToml? (v : Toml) : Option RulesConfig := do
  match ← v.fields? settingNames with
  | [disabled, maxExternalScripts, patterns] =>
    some {
      disabled := (← Toml.given? Toml.strings? disabled).getD []
      maxExternalScripts := ← Toml.given? (Toml.nat? bound64) maxExternalScripts
      extraSecretPatterns := (← Toml.given? Toml.strings? patterns).getD [] }
  | _ => none

end RulesConfig

namespace Config

/-- The configuration of a table. -/
def ofTable? (t : Toml.Table) : Option Config := do
  some {
    scoring := (← Toml.given? ScoringConfig.ofToml? (t.value? "scoring")).getD {}
    autofix := (← Toml.given? AutofixConfig.ofToml? (t.value? "autofix")).getD {}
    rules := (← Toml.given? RulesConfig.ofToml? (t.value? "rules")).getD {} }

/-- Reads a configuration from a text that came from `path`. -/
def read (path : String) (text : List Char) : Except ConfigError Config :=
  match Toml.read? text with
  | none => .error (.parseError path "the text is malformed")
  | some t =>
    match ofTable? t with
    | none => .error (.parseError path "a setting has a value of the wrong type")
    | some c => .ok c

/-- Reads and checks a configuration. -/
def ofText (text : List Char) : Except ConfigError Config := do
  let c ← read "<string>" text
  c.check
  return c

end Config

/-! ## Writing -/

/-- A setting that is left out if it is not given. -/
def optionalSetting {α : Type} (name : String) (encode : α → Toml.Setting) (value : Option α) :
    List (String × Toml.Setting) :=
  (value.map fun v => (name, encode v)).toList

/-- The section of scores. -/
def ScoringConfig.toSection (c : ScoringConfig) : Toml.Section where
  name := "scoring"
  settings :=
    optionalSetting "pass_threshold" .integer c.passThreshold
      ++ optionalSetting "grade_a" .integer c.gradeA
      ++ optionalSetting "grade_b" .integer c.gradeB
      ++ optionalSetting "grade_c" .integer c.gradeC
      ++ optionalSetting "grade_d" .integer c.gradeD

/-- The section of repairs. -/
def AutofixConfig.toSection (c : AutofixConfig) : Toml.Section where
  name := "autofix"
  settings :=
    ("above_fold_keywords", .strings c.aboveFoldKeywords)
      :: optionalSetting "above_fold_image_count" .integer c.aboveFoldImageCount
      ++ optionalSetting "above_fold_ratio" .float c.aboveFoldRatio
      ++ optionalSetting "default_lang" .string c.defaultLang

/-- The section of rules. -/
def RulesConfig.toSection (c : RulesConfig) : Toml.Section where
  name := "rules"
  settings :=
    ("disabled", .strings c.disabled)
      :: optionalSetting "max_external_scripts" .integer c.maxExternalScripts
      ++ [("extra_secret_patterns", .strings c.extraSecretPatterns)]

namespace Config

/-- The sections of a configuration. -/
def toSections (c : Config) : List Toml.Section :=
  [c.scoring.toSection, c.autofix.toSection, c.rules.toSection]

/-- The numbers that are given. -/
def integers (c : Config) : List Nat :=
  [c.scoring.passThreshold, c.scoring.gradeA, c.scoring.gradeB, c.scoring.gradeC,
    c.scoring.gradeD, c.autofix.aboveFoldImageCount, c.rules.maxExternalScripts].filterMap id

/-- Writes a configuration. The text format holds integers of 64 bits with sign. -/
def toText (c : Config) : Except ConfigError (List Char) :=
  if c.integers.all fun n => n < bound63 then .ok (Toml.write c.toSections)
  else .error (.parseError "<serialization>" "a number is too large")

end Config

end MarkupGate
