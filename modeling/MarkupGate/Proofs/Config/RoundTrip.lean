import Mathlib
import MarkupGate.Config.Encoding
import MarkupGate.Proofs.Toml.Writing

/-!
# Configurations are read back

A configuration that passes the check is written and read back as it is: what is not given stays so,
lists keep their order and their repetitions, strings whatever they contain, and the ratio every bit.
Writing fails only for integers that need more than 63 bits.

The check is needed for the ratio, of which only the decimals from zero to one are known to read
back, and for the scores, which are read with fewer bits than they are written.

* `Config.read_toText`: what is written for a configuration is read as the configuration.
* `Config.ofText_toText`: the same with the checks at both ends.
-/

namespace MarkupGate

/-! ## Settings that may be missing -/

section Optional

variable {α : Type} {name key : String} {encode : α → Toml.Setting} {value : Option α}

theorem names_optionalSetting :
    ((optionalSetting key encode value).map Prod.fst).Sublist [key] := by
  cases value with
  | none => exact List.nil_sublist _
  | some v => exact List.Sublist.refl _

theorem mem_optionalSetting {p : String × Toml.Setting} (h : p ∈ optionalSetting key encode value) :
    ∃ v ∈ value, p = (key, encode v) := by
  cases value with
  | none => cases h
  | some v => exact ⟨v, rfl, List.mem_singleton.mp h⟩

/-- The value that settings give to a name. -/
def found? (name : String) (settings : List (String × Toml.Setting)) : Option Toml :=
  (settings.map fun p => (p.1, p.2.value)).lookup name

theorem found?_nil : found? name [] = none := rfl

theorem found?_append (settings settings' : List (String × Toml.Setting)) :
    found? name (settings ++ settings') = (found? name settings).or (found? name settings') := by
  rw [found?, List.map_append, List.lookup_append]
  rfl

theorem found?_cons (setting : Toml.Setting) (settings : List (String × Toml.Setting)) :
    found? name ((key, setting) :: settings)
      = if name = key then some setting.value else found? name settings := by
  rw [found?, List.map_cons, List.lookup_cons]
  by_cases h : name = key
  · simp [h]
  · have hbeq : (name == key) = false := beq_eq_false_iff_ne.mpr h
    simp [h, hbeq, found?]

/-- An optional setting is found under its name if it is given. -/
theorem found?_optionalSetting :
    found? name (optionalSetting key encode value)
      = if name = key then value.map fun v => (encode v).value else none := by
  cases value with
  | none => simp [optionalSetting, found?]
  | some v => exact found?_cons (encode v) []

/-- A value that may be missing is read back if the value is. -/
theorem given?_map {decode : Toml → Option α} {write : α → Toml}
    (h : ∀ v ∈ value, decode (write v) = some v) :
    Toml.given? decode (value.map write) = some value := by
  cases value with
  | none => rfl
  | some v =>
    change (decode (write v)).map some = _
    rw [h v rfl]
    rfl

end Optional

namespace Toml

theorem nat?_value {bound n : Nat} (h : n < bound) :
    nat? bound (Setting.integer n).value = some n := by
  simp [nat?, Setting.value, h]

theorem strings?_value (values : List String) :
    strings? (Setting.strings values).value = some values := by
  induction values with
  | nil => rfl
  | cons v values ih =>
    simp only [strings?, Setting.value, List.map_cons, List.mapM_cons] at ih ⊢
    rw [ih]
    rfl

theorem given?_strings (values : List String) :
    given? strings? (some (Setting.strings values).value) = some (some values) := by
  rw [given?, strings?_value]
  rfl

end Toml

/-! ## Sections -/

/-- A test for names that need no quotes. -/
theorem isBare_of_all {names : List String}
    (h : (names.all fun n => !n.toList.isEmpty && n.toList.all Toml.isNameChar) = true) :
    ∀ n ∈ names, Toml.IsBare n := by
  intro n hn
  have hname := List.all_eq_true.mp h n hn
  simp only [Bool.and_eq_true, Bool.not_eq_true', List.isEmpty_eq_false_iff,
    List.all_eq_true] at hname
  exact hname

/-- A section with some of its names, in their order, is read back. -/
theorem readable_of_names {sect : Toml.Section} {names : List String} (hname : Toml.IsBare sect.name)
    (hbare : ∀ n ∈ names, Toml.IsBare n) (hnodup : names.Nodup)
    (hnames : (sect.settings.map Prod.fst).Sublist names)
    (hrange : ∀ p ∈ sect.settings, p.2.InRange) : sect.Readable where
  name := hname
  settings p hp := ⟨hbare _ (hnames.subset (List.mem_map_of_mem hp)), hrange p hp⟩
  nodup := hnodup.sublist hnames

theorem isBare_sections : ∀ n ∈ ["scoring", "autofix", "rules"], Toml.IsBare n :=
  isBare_of_all (by decide +kernel)

namespace ScoringConfig

variable {c : ScoringConfig}

/-- The scores, as far as they are given. -/
def scores (c : ScoringConfig) : List (Option Nat) :=
  [c.passThreshold, c.gradeA, c.gradeB, c.gradeC, c.gradeD]

theorem readable_toSection (h : ∀ score ∈ c.scores, ∀ n ∈ score, n < bound63) :
    c.toSection.Readable := by
  have hbare : ∀ n ∈ settingNames, Toml.IsBare n := isBare_of_all (by decide +kernel)
  refine readable_of_names (isBare_sections _ (by simp [toSection])) hbare (by decide) ?_ ?_
  · simp only [toSection, List.map_append]
    exact (((names_optionalSetting.append names_optionalSetting).append
      names_optionalSetting).append names_optionalSetting).append names_optionalSetting
  · intro p hp
    simp only [toSection, List.mem_append] at hp
    simp only [scores, List.forall_mem_cons] at h
    obtain ⟨hpass, ha, hb, hc, hd, -⟩ := h
    rcases hp with (((hp | hp) | hp) | hp) | hp <;> obtain ⟨n, hn, rfl⟩ := mem_optionalSetting hp
    · exact hpass n hn
    · exact ha n hn
    · exact hb n hn
    · exact hc n hn
    · exact hd n hn

/-- A section of scores is read back. -/
theorem ofToml?_toSection (h : ∀ score ∈ c.scores, ∀ n ∈ score, n < bound32) :
    ofToml? (.table .header c.toSection.entries) = some c := by
  have hfields : (Toml.table .header c.toSection.entries).fields? settingNames
      = some (c.scores.map fun score => score.map fun n => (Toml.Setting.integer n).value) := by
    change some (settingNames.map fun name => found? name c.toSection.settings) = _
    simp [settingNames, toSection, found?_append, found?_optionalSetting, scores]
  have hscore : ∀ score ∈ c.scores, Toml.given? (Toml.nat? bound32)
      (score.map fun n => (Toml.Setting.integer n).value) = some score := by
    intro score hscore
    exact given?_map fun n hn => Toml.nat?_value (h score hscore n hn)
  simp only [scores, List.forall_mem_cons] at hscore
  obtain ⟨hpass, ha, hb, hc, hd, -⟩ := hscore
  simp only [ofToml?, hfields, scores, List.map_cons, List.map_nil, bind, Option.bind, hpass, ha, hb,
    hc, hd]

end ScoringConfig

namespace AutofixConfig

variable {c : AutofixConfig}

/-- What it means that the numbers of a section of repairs are read back. -/
def InRange (c : AutofixConfig) : Prop :=
  (∀ n ∈ c.aboveFoldImageCount, n < bound63) ∧ ∀ x ∈ c.aboveFoldRatio, 0.0 ≤ x ∧ x ≤ 1.0

theorem readable_toSection (h : c.InRange) : c.toSection.Readable := by
  have hbare : ∀ n ∈ settingNames, Toml.IsBare n := isBare_of_all (by decide +kernel)
  refine readable_of_names (isBare_sections _ (by simp [toSection])) hbare (by decide) ?_ ?_
  · simp only [toSection, List.map_cons, List.map_append]
    exact (((names_optionalSetting.cons_cons _).append names_optionalSetting).append
      names_optionalSetting)
  · intro p hp
    simp only [toSection, List.mem_append, List.mem_cons] at hp
    rcases hp with ((rfl | hp) | hp) | hp
    · trivial
    · obtain ⟨n, hn, rfl⟩ := mem_optionalSetting hp
      exact h.1 n hn
    · obtain ⟨x, hx, rfl⟩ := mem_optionalSetting hp
      exact h.2 x hx
    · obtain ⟨s, hs, rfl⟩ := mem_optionalSetting hp
      trivial

/-- A section of repairs is read back. -/
theorem ofToml?_toSection (h : c.InRange) :
    ofToml? (.table .header c.toSection.entries) = some c := by
  have hfields : (Toml.table .header c.toSection.entries).fields? settingNames
      = some [some (Toml.Setting.strings c.aboveFoldKeywords).value,
          c.aboveFoldImageCount.map fun n => (Toml.Setting.integer n).value,
          c.aboveFoldRatio.map fun x => (Toml.Setting.float x).value,
          c.defaultLang.map fun s => (Toml.Setting.string s).value] := by
    change some (settingNames.map fun name => found? name c.toSection.settings) = _
    simp [settingNames, toSection, found?_append, found?_cons, found?_optionalSetting]
  have hcount : Toml.given? (Toml.nat? bound64)
      (c.aboveFoldImageCount.map fun n => (Toml.Setting.integer n).value)
      = some c.aboveFoldImageCount :=
    given?_map fun n hn => Toml.nat?_value (lt_trans (h.1 n hn) (by decide))
  have hratio : Toml.given? Toml.float? (c.aboveFoldRatio.map fun x => (Toml.Setting.float x).value)
      = some c.aboveFoldRatio := given?_map fun _ _ => rfl
  have hlang : Toml.given? Toml.string? (c.defaultLang.map fun s => (Toml.Setting.string s).value)
      = some c.defaultLang := given?_map fun _ _ => rfl
  simp only [ofToml?, hfields, bind, Option.bind, Toml.given?_strings, hcount, hratio, hlang,
    Option.getD_some]

end AutofixConfig

namespace RulesConfig

variable {c : RulesConfig}

/-- What it means that the number of a section of rules is read back. -/
def InRange (c : RulesConfig) : Prop := ∀ n ∈ c.maxExternalScripts, n < bound63

theorem readable_toSection (h : c.InRange) : c.toSection.Readable := by
  have hbare : ∀ n ∈ settingNames, Toml.IsBare n := isBare_of_all (by decide +kernel)
  refine readable_of_names (isBare_sections _ (by simp [toSection])) hbare (by decide) ?_ ?_
  · simp only [toSection, List.map_cons, List.map_append]
    exact (names_optionalSetting.cons_cons _).append (List.Sublist.refl _)
  · intro p hp
    simp only [toSection, List.mem_append, List.mem_cons, List.not_mem_nil, or_false] at hp
    rcases hp with (rfl | hp) | rfl
    · trivial
    · obtain ⟨n, hn, rfl⟩ := mem_optionalSetting hp
      exact h n hn
    · trivial

/-- A section of rules is read back. -/
theorem ofToml?_toSection (h : c.InRange) :
    ofToml? (.table .header c.toSection.entries) = some c := by
  have hfields : (Toml.table .header c.toSection.entries).fields? settingNames
      = some [some (Toml.Setting.strings c.disabled).value,
          c.maxExternalScripts.map fun n => (Toml.Setting.integer n).value,
          some (Toml.Setting.strings c.extraSecretPatterns).value] := by
    change some (settingNames.map fun name => found? name c.toSection.settings) = _
    simp [settingNames, toSection, found?_append, found?_cons, found?_nil, found?_optionalSetting]
  have hmax : Toml.given? (Toml.nat? bound64)
      (c.maxExternalScripts.map fun n => (Toml.Setting.integer n).value)
      = some c.maxExternalScripts :=
    given?_map fun n hn => Toml.nat?_value (lt_trans (h n hn) (by decide))
  simp only [ofToml?, hfields, bind, Option.bind, Toml.given?_strings, hmax, Option.getD_some]

end RulesConfig

/-! ## Configurations -/

namespace Config

variable {c : Config}

/-- What is written for a configuration with numbers in range is read as the configuration. -/
theorem read_write (hscores : ∀ score ∈ c.scoring.scores, ∀ n ∈ score, n < bound32)
    (hautofix : c.autofix.InRange) (hrules : c.rules.InRange) (path : String) :
    Config.read path (Toml.write c.toSections) = .ok c := by
  have hreadable : ∀ s ∈ c.toSections, s.Readable := by
    simp only [toSections, List.forall_mem_cons]
    refine ⟨?_, AutofixConfig.readable_toSection hautofix, RulesConfig.readable_toSection hrules,
      nofun⟩
    apply ScoringConfig.readable_toSection
    exact fun score hscore n hn => lt_trans (hscores score hscore n hn) (by decide)
  have hnames : (c.toSections.map Toml.Section.name).Nodup := by
    change ["scoring", "autofix", "rules"].Nodup
    decide
  have htable : ofTable? (c.toSections.map Toml.Section.entry) = some c := by
    have hscoring := ScoringConfig.ofToml?_toSection hscores
    have hautofix := AutofixConfig.ofToml?_toSection hautofix
    have hrules := RulesConfig.ofToml?_toSection hrules
    have hs : Toml.Table.value? (c.toSections.map Toml.Section.entry) "scoring"
        = some (.table .header c.scoring.toSection.entries) := rfl
    have ha : Toml.Table.value? (c.toSections.map Toml.Section.entry) "autofix"
        = some (.table .header c.autofix.toSection.entries) := rfl
    have hr : Toml.Table.value? (c.toSections.map Toml.Section.entry) "rules"
        = some (.table .header c.rules.toSection.entries) := rfl
    simp only [ofTable?, hs, ha, hr, Toml.given?, hscoring, hautofix, hrules, Option.map_some, bind,
      Option.bind, Option.getD_some]
  simp only [Config.read, Toml.read?_write hreadable hnames, htable]

/-- A configuration that passes the check has no scores that need more than 32 bits, and its ratio is
one that is read back. -/
theorem inRange_of_check (h : c.check = .ok ()) (hintegers : ∀ n ∈ c.integers, n < bound63) :
    (∀ score ∈ c.scoring.scores, ∀ n ∈ score, n < bound32) ∧ c.autofix.InRange
      ∧ c.rules.InRange := by
  obtain ⟨hpass, hcutoffs, -, hratio, -⟩ := check_eq_ok_iff.1 h
  -- A score that is given is the one that is checked, in place of its default.
  have hlt {score : Option Nat} {default : Nat} (hscore : score.getD default ≤ 100) :
      ∀ n ∈ score, n < bound32 := by
    rintro n rfl
    exact lt_of_le_of_lt hscore (by decide)
  refine ⟨?_, ⟨?_, ?_⟩, ?_⟩
  · simp only [ScoringConfig.cutoffs, List.all_eq_true, decide_eq_true_eq, List.forall_mem_cons] at hcutoffs
    obtain ⟨ha, hb, hc, hd, -⟩ := hcutoffs
    simp only [ScoringConfig.scores, List.forall_mem_cons]
    exact ⟨hlt hpass, hlt ha, hlt hb, hlt hc, hlt hd, nofun⟩
  · intro n hn
    apply hintegers
    rw [Option.mem_def] at hn
    simp [integers, hn]
  · intro x hx
    rw [AutofixConfig.ratioOrDefault, hx] at hratio
    exact hratio
  · intro n hn
    apply hintegers
    rw [Option.mem_def] at hn
    simp [integers, hn]

/-- Writing fails only for an integer that needs more than 63 bits. A configuration that passes the
check and has none is written as a text that is read as the same configuration. -/
theorem ofText_toText (c : Config) :
    (∀ e, c.toText = .error e → ∃ n ∈ c.integers, bound63 ≤ n)
    ∧ (c.check = .ok () → (∀ n ∈ c.integers, n < bound63) →
      ∃ text, c.toText = .ok text ∧ Config.ofText text = .ok c) := by
  constructor
  · intro e h
    unfold toText at h
    split at h
    · cases h
    · rename_i hall
      simpa using hall
  · intro hcheck hintegers
    obtain ⟨hscores, hautofix, hrules⟩ := inRange_of_check hcheck hintegers
    refine ⟨Toml.write c.toSections, ?_, ?_⟩
    · exact if_pos (by simpa using hintegers)
    · rw [ofText, read_write hscores hautofix hrules]
      change (c.check.bind fun _ => .ok c) = _
      rw [hcheck]
      rfl

/-- A configuration with strings that need every form of quotes, and with one string twice. -/
def manyQuotes : Config where
  scoring := { passThreshold := some 65 }
  autofix := {
    aboveFoldKeywords := ["hero", "it's \"new\"", "'''", "\"\"\"'", "\\'", "\x00"]
    aboveFoldRatio := some 0.25
    defaultLang := some "\ntwo\tlines \"\"\"'''" }
  rules := {
    disabled := ["seo/title", "seo/title"]
    maxExternalScripts := some 9223372036854775807 }

theorem ofText_toText_manyQuotes : (∃ n ∈ Config.integers { autofix := {
      aboveFoldImageCount := some bound63 } }, bound63 ≤ n)
    ∧ ∃ text, manyQuotes.toText = .ok text ∧ Config.ofText text = .ok manyQuotes :=
  ⟨(ofText_toText { autofix := { aboveFoldImageCount := some bound63 } }).1 _ rfl,
    (ofText_toText manyQuotes).2 (by decide +kernel) (by decide)⟩

end Config

end MarkupGate
