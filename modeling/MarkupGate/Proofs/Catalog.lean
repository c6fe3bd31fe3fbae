import Mathlib
import MarkupGate.Fix.Engine

/-!
# The contents of catalogs

A configured catalog holds the built-in rules that are not disabled, in their order, and each rule
under its own identifier. So it has at most one rule for each repair, and that rule works with the
fold that the repair works with.

* `ofConfig_eq_ok`: what the catalog of a configuration is.
* `Catalog.standard`: the catalog of the empty configuration.
-/

namespace MarkupGate

namespace FixKind

/-- The rule that a repair serves. -/
def rule (fold : FoldPolicy) : FixKind → Rule
  | insertDoctype => .doctype
  | insertCharset => .charset
  | insertViewport => .viewport
  | insertLang => .htmlLang
  | lazyLoadImages => .imgLazyLoading fold
  | secureTargetBlank => .targetBlank

@[simp] theorem fix_rule (fold : FoldPolicy) (kind : FixKind) :
    (kind.rule fold).info.fix = some kind := by cases kind <;> rfl

@[simp] theorem id_rule (fold : FoldPolicy) (kind : FixKind) : (kind.rule fold).id = kind.ruleId := by
  cases kind <;> rfl

theorem rule_mem_builtinRules (fold : FoldPolicy) (limit : Nat) (shapes : List SecretShape)
    (kind : FixKind) : kind.rule fold ∈ builtinRules fold limit shapes := by
  cases kind <;> simp [rule, builtinRules]

/-- A built-in rule whose findings can be repaired is the rule of the repair. -/
theorem eq_rule_of_mem {fold : FoldPolicy} {limit : Nat} {shapes : List SecretShape} {r : Rule}
    (hr : r ∈ builtinRules fold limit shapes) {kind : FixKind} (hkind : r.info.fix = some kind) :
    r = kind.rule fold := by
  simp only [builtinRules, List.mem_cons, List.not_mem_nil, or_false] at hr
  rcases hr with rfl | rfl | rfl | rfl | rfl | rfl | rfl | rfl | rfl | rfl | rfl | rfl | rfl | rfl
    | rfl | rfl | rfl | rfl | rfl | rfl | rfl <;> cases hkind <;> rfl

end FixKind

namespace Catalog

variable {config : Config} {c : Catalog}

theorem enabledRules_eq_ok {rules : List Rule} (h : enabledRules config = .ok rules) :
    ∃ shapes, config.rules.customShapes = .ok shapes
      ∧ rules = (builtinRules config.autofix.foldPolicy config.rules.maxExternalScriptsOrDefault
          (SecretShape.builtin ++ shapes)).filter fun r => !config.rules.disabled.contains r.id := by
  rw [enabledRules] at h
  split at h
  · cases h
  · cases hshapes : config.rules.customShapes with
    | error e =>
      rw [hshapes] at h
      cases h
    | ok shapes =>
      rw [hshapes] at h
      cases h
      exact ⟨shapes, rfl, rfl⟩

/-- What the catalog of a configuration is. -/
theorem ofConfig_eq_ok (h : ofConfig config = .ok c) :
    c.fold = config.autofix.foldPolicy ∧ c.defaultLang = config.autofix.langOrDefault.toList
      ∧ ∃ shapes, config.rules.customShapes = .ok shapes
        ∧ c.rules = (builtinRules c.fold config.rules.maxExternalScriptsOrDefault
            (SecretShape.builtin ++ shapes)).filter
              fun r => !config.rules.disabled.contains r.id := by
  cases hrules : enabledRules config with
  | error e =>
    rw [ofConfig, hrules] at h
    cases h
  | ok rules =>
    have hc : ofRules rules config = .ok c := by
      rw [ofConfig, hrules] at h
      exact h
    rw [ofRules] at hc
    split at hc
    · cases hc
      exact ⟨rfl, rfl, enabledRules_eq_ok hrules⟩
    · cases hc

/-- A rule stands between rules of other identifiers. -/
theorem exists_around {r : Rule} (hr : r ∈ c.rules) : ∃ before behind,
    c.rules = before ++ r :: behind
      ∧ (∀ s ∈ before, s.id ≠ r.id) ∧ ∀ s ∈ behind, s.id ≠ r.id := by
  obtain ⟨before, behind, hsplit⟩ := List.append_of_mem hr
  have hnodup := c.nodup_ids
  rw [hsplit, List.map_append, List.map_cons, List.nodup_append, List.nodup_cons] at hnodup
  obtain ⟨-, ⟨hbehind, -⟩, hbefore⟩ := hnodup
  refine ⟨before, behind, hsplit, ?_, ?_⟩
  · intro s hs
    exact hbefore s.id (List.mem_map_of_mem hs) r.id (by simp)
  · intro s hs hid
    exact hbehind (hid ▸ List.mem_map_of_mem hs)

/-- A rule is found under its identifier. -/
theorem rule?_eq_some {r : Rule} {id : String} : c.rule? id = some r ↔ r ∈ c.rules ∧ r.id = id := by
  constructor
  · intro h
    exact ⟨List.mem_of_find?_eq_some h, by simpa using List.find?_some h⟩
  · rintro ⟨hr, rfl⟩
    obtain ⟨before, behind, hsplit, hbefore, -⟩ := exists_around hr
    -- The search does not stop in front of the rule, where nothing has its identifier.
    refine List.find?_eq_some_iff_append.2 ⟨by simp, before, behind, hsplit, ?_⟩
    intro s hs
    simpa using hbefore s hs

/-- The rule that a configured catalog has for a repair is the rule of the repair. -/
theorem eq_rule_of_mem (h : ofConfig config = .ok c) {r : Rule} (hr : r ∈ c.rules) {kind : FixKind}
    (hkind : r.info.fix = some kind) : r = kind.rule c.fold := by
  obtain ⟨-, -, shapes, -, hrules⟩ := ofConfig_eq_ok h
  rw [hrules] at hr
  exact FixKind.eq_rule_of_mem (List.mem_filter.1 hr).1 hkind

/-- A repair belongs to a configured catalog if its rule does. -/
theorem fixFor?_eq_some (h : ofConfig config = .ok c) {kind : FixKind} :
    c.fixFor? kind.ruleId = some kind ↔ kind.rule c.fold ∈ c.rules := by
  simp only [fixFor?, Option.bind_eq_some_iff, rule?_eq_some]
  constructor
  · rintro ⟨r, ⟨hr, -⟩, hkind⟩
    exact eq_rule_of_mem h hr hkind ▸ hr
  · intro hmem
    exact ⟨_, ⟨hmem, kind.id_rule c.fold⟩, kind.fix_rule c.fold⟩

/-! ## The standard catalog -/

/-- The built-in rules have identifiers of their own. -/
theorem nodup_ids_builtinRules (fold : FoldPolicy) (limit : Nat) (shapes : List SecretShape) :
    ((builtinRules fold limit shapes).map Rule.id).Nodup := by
  have hids : (builtinRules fold limit shapes).map Rule.id = RuleInfo.all.map RuleInfo.id := by
    rw [← map_info_builtinRules fold limit shapes, List.map_map]
    rfl
  rw [hids]
  decide

/-- The catalog of all built-in rules with nothing configured. -/
def standard : Catalog where
  rules := builtinRules (AutofixConfig.foldPolicy {})
    (RulesConfig.maxExternalScriptsOrDefault {}) SecretShape.builtin
  nodup_ids := nodup_ids_builtinRules _ _ _
  fold := AutofixConfig.foldPolicy {}
  defaultLang := "en".toList

theorem ofConfig_empty : ofConfig {} = .ok standard := by
  have hrules : enabledRules {} = .ok standard.rules := by
    refine congrArg Except.ok (List.filter_eq_self.2 fun r _ => ?_)
    rfl
  have hconfig : ofConfig {} = ofRules standard.rules {} := by
    rw [ofConfig, hrules]
    rfl
  rw [hconfig, ofRules, dif_pos standard.nodup_ids]
  rfl

end Catalog

end MarkupGate
