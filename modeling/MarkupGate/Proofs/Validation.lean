import MarkupGate.Proofs.Catalog
import MarkupGate.Proofs.Page.Script
import MarkupGate.Proofs.Score

/-!
# What a validation counts

A validation sorts the findings of all rules, but it loses none and adds none: each rule has as many
findings in the result as it has on its own. The score depends on these numbers alone, since every
finding of a rule weighs the same, and it falls as they grow.

* `countRule_validate`: the findings of a rule in a result.
* `score_validate_le`: more findings never make for a better score.
-/

namespace MarkupGate

/-! ## Findings of rules -/

/-- Whether a finding carries the description of a rule. -/
def Finding.IsOf (f : Finding) (info : RuleInfo) : Prop := f = .ofRule info f.message f.line

theorem Finding.isOf_ofRule (info : RuleInfo) (message : String) (line : Option Nat) :
    (Finding.ofRule info message line).IsOf info := rfl

/-- Whether a finding carries the description of a rule and its line, if it has one, is that of an offset
of the page. -/
def Finding.IsAt (f : Finding) (p : Page) (info : RuleInfo) : Prop :=
  ∃ place? : Option Nat, f = .ofRule info f.message (place?.map p.doc.line)

theorem Page.isAt_findingAt (p : Page) (info : RuleInfo) (offset : Nat) (message : String) :
    (p.findingAt info offset message).IsAt p info := ⟨some offset, rfl⟩

theorem Finding.isAt_ofRule (p : Page) (info : RuleInfo) (message : String) :
    (Finding.ofRule info message none).IsAt p info := ⟨none, rfl⟩

/-- Every finding of a built-in rule carries the description of the rule and lies at an offset of the
page, or nowhere: no rule fails. -/
theorem Rule.isAt_of_mem_run {fold : FoldPolicy} {limit : Nat} {shapes : List SecretShape} {r : Rule}
    (hr : r ∈ builtinRules fold limit shapes) {p : Page} {f : Finding} (hf : f ∈ r.run p) :
    f.IsAt p r.info := by
  simp only [builtinRules, List.mem_cons, List.not_mem_nil, or_false] at hr
  rcases hr with rfl | rfl | rfl | rfl | rfl | rfl | rfl | rfl | rfl | rfl | rfl | rfl | rfl | rfl
    | rfl | rfl | rfl | rfl | rfl | rfl | rfl
  -- Whatever leads to a finding, it is made by one of the two functions above.
  all_goals
    try rw [run_scriptLoading] at hf
    simp only [run, ofFindings, doctype, charset, viewport, htmlLang, pageTitle, singleH1,
      headingHierarchy, metaDescription, openGraph, imgAlt, imgAltText, formLabel, linkText,
      buttonName, colorContrast, imgLazyLoading, scriptLoading, blockingScripts, repeatedScripts,
      excessScripts, targetBlank, inlineHandler, unsafeSink, hardcodedSecret, List.mem_append,
      List.mem_map, List.mem_filterMap, List.mem_flatMap, Option.bind_eq_bind,
      Option.bind_eq_some_iff, Option.map_eq_some_iff, Option.ite_none_left_eq_some] at hf ⊢
    -- The name that a tag is compared with does not matter.
    try generalize "button".toList = name at hf
    grind [Page.isAt_findingAt, Finding.isAt_ofRule]

/-- Every finding of a built-in rule carries the description of the rule. -/
theorem Rule.isOf_of_mem_run {fold : FoldPolicy} {limit : Nat} {shapes : List SecretShape} {r : Rule}
    (hr : r ∈ builtinRules fold limit shapes) {p : Page} {f : Finding} (hf : f ∈ r.run p) :
    f.IsOf r.info := by
  obtain ⟨place?, hplace⟩ := Rule.isAt_of_mem_run hr hf
  rw [hplace]
  exact Finding.isOf_ofRule _ _ _

/-! ## Counting -/

/-- A result has the findings that it is made of. -/
theorem ValidationResult.findings_ofFindings (fs : List Finding) (score : Score) :
    (ofFindings fs score).findings.Perm fs := by
  simp only [findings, ofFindings]
  induction fs with
  | nil => rfl
  | cons f fs ih =>
    have hcons := ih.cons f
    cases htier : f.severity.tier <;> simp only [htier, List.filter_cons, decide_true, if_true,
      reduceCtorEq, decide_false, if_false, Bool.false_eq_true, List.cons_append]
    · exact hcons
    · refine List.Perm.trans ?_ hcons
      rw [List.append_assoc, List.append_assoc]
      exact List.perm_middle
    · exact List.perm_middle.trans hcons

namespace Validator

variable {v : Validator} {page page' : Page} {id : String} {r : Rule}

theorem findings_validate (v : Validator) (page : Page) :
    (v.validate page).findings.Perm (v.catalog.rules.flatMap fun r => r.run page) :=
  (ValidationResult.findings_ofFindings _ _).trans (List.mergeSort_perm _ _)

/-- Whether all findings of the rules of a catalog carry the description of their rule. -/
def Describes (v : Validator) : Prop :=
  ∀ r ∈ v.catalog.rules, ∀ page, ∀ f ∈ r.run page, f.IsOf r.info

theorem describes_of_ofConfig {config : Config} {scorer : Scorer} {c : Catalog}
    (h : Catalog.ofConfig config = .ok c) : Describes ⟨c, scorer⟩ := by
  obtain ⟨-, -, shapes, -, hrules⟩ := Catalog.ofConfig_eq_ok h
  intro r hr page f hf
  rw [show (Validator.mk c scorer).catalog.rules = c.rules from rfl, hrules] at hr
  exact Rule.isOf_of_mem_run (List.mem_filter.1 hr).1 hf

theorem Describes.ruleId (hv : v.Describes) (hr : r ∈ v.catalog.rules) {f : Finding}
    (hf : f ∈ r.run page) : f.ruleId = r.id :=
  congrArg Finding.ruleId (hv r hr page f hf)

/-- Rules of other identifiers leave no finding under the identifier. -/
theorem Describes.countP_other (hv : v.Describes) {rules : List Rule}
    (hrules : ∀ s ∈ rules, s ∈ v.catalog.rules) (hid : ∀ s ∈ rules, s.id ≠ id) (page : Page) :
    (rules.flatMap fun s => s.run page).countP (fun f => f.ruleId = id) = 0 := by
  rw [List.countP_eq_zero]
  intro f hf
  obtain ⟨s, hs, hf⟩ := List.mem_flatMap.1 hf
  rw [hv.ruleId (hrules s hs) hf]
  simpa using hid s hs

/-- A result counts the findings that a rule has on its own. -/
theorem countRule_validate (hv : v.Describes) (hr : r ∈ v.catalog.rules) (page : Page) :
    (v.validate page).countRule r.id = (r.run page).length := by
  obtain ⟨before, behind, hsplit, hbefore, hbehind⟩ := Catalog.exists_around hr
  have hown : (r.run page).countP (fun f => f.ruleId = r.id) = (r.run page).length := by
    rw [List.countP_eq_length]
    intro f hf
    rw [hv.ruleId hr hf]
    exact decide_eq_true rfl
  have hfront : (before.flatMap fun s => s.run page).countP (fun f => f.ruleId = r.id) = 0 := by
    apply hv.countP_other _ hbefore
    intro s hs
    simp [hsplit, hs]
  have hback : (behind.flatMap fun s => s.run page).countP (fun f => f.ruleId = r.id) = 0 := by
    apply hv.countP_other _ hbehind
    intro s hs
    simp [hsplit, hs]
  rw [ValidationResult.countRule, ← List.countP_eq_length_filter,
    (v.findings_validate page).countP_eq, hsplit, List.flatMap_append, List.flatMap_cons,
    List.countP_append, List.countP_append, hfront, hown, hback, Nat.zero_add, Nat.add_zero]

/-- A rule is among the findings of a result if it finds something on its own. -/
theorem hasRule_validate (hv : v.Describes) (hr : r ∈ v.catalog.rules) (page : Page) :
    (v.validate page).hasRule r.id = !(r.run page).isEmpty := by
  have hcount : 0 < (v.validate page).countRule r.id ↔ (v.validate page).hasRule r.id := by
    rw [ValidationResult.countRule, ← List.countP_eq_length_filter, List.countP_pos_iff,
      ValidationResult.hasRule, List.any_eq_true]
  rw [countRule_validate hv hr] at hcount
  cases hrun : r.run page <;> simp_all

/-- Whether anything in a result can be repaired. -/
theorem hasFixable_validate (hv : v.Describes) (page : Page) :
    (v.validate page).hasFixable
      ↔ ∃ r ∈ v.catalog.rules, r.info.fix.isSome ∧ r.run page ≠ [] := by
  rw [ValidationResult.hasFixable, List.any_eq_true]
  simp only [(v.findings_validate page).mem_iff, List.mem_flatMap]
  constructor
  · rintro ⟨f, ⟨r, hr, hf⟩, hfixable⟩
    refine ⟨r, hr, ?_, List.ne_nil_of_mem hf⟩
    rw [hv r hr page f hf] at hfixable
    exact hfixable
  · rintro ⟨r, hr, hfix, hrun⟩
    obtain ⟨f, fs, hfs⟩ := List.exists_cons_of_ne_nil hrun
    have hf : f ∈ r.run page := by simp [hfs]
    refine ⟨f, ⟨r, hr, hf⟩, ?_⟩
    rw [hv r hr page f hf]
    exact hfix

end Validator

/-! ## Scores -/

namespace Validator

variable {v : Validator}

/-- The score of a page. -/
theorem score_validate (hv : v.Describes) (page : Page) :
    (v.validate page).score = 100 - min
      (v.catalog.rules.map fun r => (r.run page).length * r.info.severity.weight).sum
        maxDeduction := by
  have hscore : (v.validate page).score
      = Scorer.points (v.catalog.rules.flatMap fun r => r.run page) :=
    congrArg Score.points (v.scorer.score_perm (List.mergeSort_perm _ _))
  rw [hscore, Scorer.points, Scorer.deduction_eq, List.map_flatMap, List.flatMap_def,
    List.sum_flatten, List.map_map]
  congr 3
  apply List.map_congr_left
  intro r hr
  have hweight : (r.run page).map (fun f => f.severity.weight)
      = List.replicate (r.run page).length r.info.severity.weight := by
    rw [List.eq_replicate_iff, List.length_map]
    refine ⟨rfl, fun w hw => ?_⟩
    obtain ⟨f, hf, rfl⟩ := List.mem_map.1 hw
    rw [hv r hr page f hf]
    rfl
  rw [Function.comp_apply, hweight, List.sum_replicate_nat]

/-- A page on which no rule finds more scores no less. -/
theorem score_validate_le (hv : v.Describes) {page page' : Page}
    (h : ∀ r ∈ v.catalog.rules, (r.run page').length ≤ (r.run page).length) :
    (v.validate page).score ≤ (v.validate page').score := by
  rw [score_validate hv, score_validate hv]
  have hsum : (v.catalog.rules.map fun r => (r.run page').length * r.info.severity.weight).sum
      ≤ (v.catalog.rules.map fun r => (r.run page).length * r.info.severity.weight).sum :=
    List.sum_le_sum fun r hr => Nat.mul_le_mul_right _ (h r hr)
  omega

end Validator

end MarkupGate
