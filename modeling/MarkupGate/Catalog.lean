import MarkupGate.Config.Basic
import MarkupGate.Regex.Parser
import MarkupGate.Rule.Accessibility
import MarkupGate.Rule.Performance
import MarkupGate.Rule.Security
import MarkupGate.Rule.Seo
import MarkupGate.Rule.Structure
import MarkupGate.Text.Printable

/-!
# The rule catalog

The rules that a page is checked with, in order and with distinct identifiers, together with what
the repairs need to know. A catalog is built once from a configuration and then used for any number
of pages.

Building one fails, in this order, on the first rule to leave out that is not built in, on the first
pattern that cannot be read, and on the first identifier that comes twice.
-/

namespace MarkupGate

/-- A checked list of rules. -/
structure Catalog where
  /-- the rules, in the order in which they run -/
  rules : List Rule
  /-- no two of them have one identifier -/
  nodup_ids : (rules.map Rule.id).Nodup
  /-- where the fold lies -/
  fold : FoldPolicy
  /-- the language put into pages that name none -/
  defaultLang : List Char

/-- The fold of a configuration. -/
def AutofixConfig.foldPolicy (c : AutofixConfig) : FoldPolicy where
  keywords := c.keywordsOrDefault.map String.toList
  leadingImages := c.imageCountOrDefault
  ratio := c.ratioOrDefault

namespace RulesConfig

/-- The configured shapes of secrets. -/
def customShapes (c : RulesConfig) : Except CatalogError (List SecretShape) :=
  c.extraSecretPatterns.zipIdx.mapM fun (pattern, place) =>
    match Regex.parse? pattern.toList with
    | some r => .ok (SecretShape.custom place r)
    | none => .error (.invalidPattern RuleInfo.hardcodedSecret.id "not a search pattern")

end RulesConfig

/-- The built-in rules in order, with the fold, the script limit and the shapes of secrets that
they work with. -/
def builtinRules (fold : FoldPolicy) (scriptLimit : Nat) (shapes : List SecretShape) : List Rule :=
  [.doctype, .charset, .viewport, .htmlLang, .pageTitle, .singleH1, .headingHierarchy,
    .metaDescription, .openGraph, .imgAlt, .imgAltText, .formLabel, .linkText, .buttonName,
    .colorContrast, .imgLazyLoading fold, .scriptLoading scriptLimit, .targetBlank, .inlineHandler,
    .unsafeSink, .hardcodedSecret shapes]

/-- The built-in rules are those of the table, in its order. -/
theorem map_info_builtinRules (fold : FoldPolicy) (scriptLimit : Nat)
    (shapes : List SecretShape) :
    (builtinRules fold scriptLimit shapes).map Rule.info = RuleInfo.all := rfl

/-- The first entry that a list holds before, if one does. -/
def firstRepeated? (seen : List String) : List String → Option String
  | [] => none
  | x :: xs => if x ∈ seen then some x else firstRepeated? (x :: seen) xs

namespace Catalog

/-- A catalog of given rules in their order. -/
def ofRules (rules : List Rule) (config : Config) : Except CatalogError Catalog :=
  if h : (rules.map Rule.id).Nodup then
    .ok {
      rules := rules
      nodup_ids := h
      fold := config.autofix.foldPolicy
      defaultLang := config.autofix.langOrDefault.toList }
  else .error (.duplicateRuleId ((firstRepeated? [] (rules.map Rule.id)).getD ""))

/-- The built-in rules of a configuration, without the disabled ones. -/
def enabledRules (config : Config) : Except CatalogError (List Rule) :=
  match config.rules.disabled.find? fun id => (RuleInfo.lookup? id).isNone with
  | some id => .error (.unknownRuleId id)
  | none => do
    let shapes ← config.rules.customShapes
    let rules := builtinRules config.autofix.foldPolicy config.rules.maxExternalScriptsOrDefault
      (SecretShape.builtin ++ shapes)
    .ok (rules.filter fun r => !config.rules.disabled.contains r.id)

/-- The catalog of a configuration. -/
def ofConfig (config : Config) : Except CatalogError Catalog := do
  ofRules (← enabledRules config) config

/-- The number of rules. -/
def size (c : Catalog) : Nat := c.rules.length

/-- The rule of an identifier. -/
def rule? (c : Catalog) (id : String) : Option Rule := c.rules.find? fun r => r.id = id

/-- The place of a rule in the order. -/
def position? (c : Catalog) (id : String) : Option Nat := c.rules.findIdx? fun r => r.id = id

/-- The repair that belongs to a rule, if the rule is in the catalog and has one. -/
def fixFor? (c : Catalog) (id : String) : Option FixKind := (c.rule? id).bind fun r => r.info.fix

/-! ## Description -/

/-- One character inside a quoted description. -/
def describeChar (c : Char) : String :=
  if c = '"' then "\\\""
  else if c = '\\' then "\\\\"
  else if c = '\n' then "\\n"
  else if c = '\r' then "\\r"
  else if c = '\t' then "\\t"
  else if c = '\x00' then "\\0"
  else if isPrintable c then String.singleton c
  else "\\u\x7b" ++ String.ofList (Nat.toDigits 16 c.toNat) ++ "\x7d"

/-- A text in quotes, with what cannot be shown escaped. -/
def describeText (s : String) : String :=
  "\"" ++ String.join (s.toList.map describeChar) ++ "\""

/-- The description of a catalog: the identifiers of its rules and the language of its repairs. -/
def describe (c : Catalog) : String :=
  "RuleCatalog \x7b rules: [" ++ ", ".intercalate (c.rules.map fun r => describeText r.id)
    ++ "], default_lang: " ++ describeText (String.ofList c.defaultLang) ++ " \x7d"

end Catalog

end MarkupGate
