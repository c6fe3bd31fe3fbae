import MarkupGate.Pipeline
import MarkupGate.Proofs.Fix.Pass

/-!
# What the gate reports

The gate comes to its report in three ways: the page passes as it is, it is repaired and validated
once more, or the repair finds nothing to do. Whichever it is, the report describes the markup that
goes out, and a page that no repair has changed goes out as it came in.

What a repair says of itself fits together as well. Each of its two passes tries a repair at most
once, and the rule of every repair that is applied is named once.

* `Validator.exists_applied_pass`: what a pass adds to what was done before.
* `Validator.length_appliedFixes`: how many repairs are applied for the rules that are named.
* `Validator.runGate_consistent`: a report of the gate is consistent.
-/

namespace MarkupGate

theorem FixKind.ruleId_injective : Function.Injective FixKind.ruleId := by
  intro a b
  cases a <;> cases b <;> decide

namespace Validator

variable {v : Validator}

/-! ## Counting repairs -/

theorem nodup_activeFixes (v : Validator) : v.activeFixes.Nodup :=
  List.Nodup.filter _ (by decide)

/-- A pass applies some of the repairs, one after another, and names the rules among theirs that
have not been named before. -/
theorem exists_applied_pass (v : Validator) (due : FixResult → FixKind → Bool) {kinds : List FixKind}
    (hkinds : kinds.Nodup) (r : FixResult) : ∃ applied : List FixKind, applied.Sublist kinds
      ∧ (v.pass due kinds r).appliedFixes.length = r.appliedFixes.length + applied.length
      ∧ (v.pass due kinds r).resolvedRules
        = r.resolvedRules ++ (applied.map FixKind.ruleId).filter (· ∉ r.resolvedRules) := by
  induction kinds generalizing r with
  | nil => exact ⟨[], .slnil, rfl, by simp [pass]⟩
  | cons kind kinds ih =>
    obtain ⟨hkind, hkinds⟩ := List.nodup_cons.1 hkinds
    have hpass : v.pass due (kind :: kinds) r
        = v.pass due kinds (if due r kind then v.attempt r kind else r) := rfl
    have hstep : (if due r kind then v.attempt r kind else r) = r
        ∨ ∃ repair, (if due r kind then v.attempt r kind else r) = r.apply kind repair := by
      by_cases hdue : due r kind = true
      · rw [if_pos hdue]
        rcases v.attempt_cases r kind with hsame | ⟨repair, -, happly⟩
        · exact .inl hsame
        · exact .inr ⟨repair, happly⟩
      · exact .inl (if_neg hdue)
    rw [hpass]
    rcases hstep with hsame | ⟨repair, happly⟩
    · rw [hsame]
      obtain ⟨applied, hsub, hlength, hrules⟩ := ih hkinds r
      exact ⟨applied, hsub.cons _, hlength, hrules⟩
    · rw [happly]
      obtain ⟨applied, hsub, hlength, hrules⟩ := ih hkinds (r.apply kind repair)
      refine ⟨kind :: applied, hsub.cons_cons _, ?_, ?_⟩
      · rw [hlength, FixResult.apply, List.length_append, List.length_cons, List.length_cons,
          List.length_nil]
        omega
      -- The rest of the pass does not come back to the repair, so its rule is not among theirs.
      have hother : ∀ id ∈ applied.map FixKind.ruleId, id ≠ kind.ruleId := by
        intro id hid
        obtain ⟨other, hmem, rfl⟩ := List.mem_map.1 hid
        intro heq
        exact hkind (FixKind.ruleId_injective heq ▸ hsub.subset hmem)
      rw [hrules, FixResult.apply, List.map_cons]
      by_cases hnamed : kind.ruleId ∈ r.resolvedRules
      · simp [hnamed]
      · have hfilter : (applied.map FixKind.ruleId).filter
              (fun id => decide (id ∉ r.resolvedRules ++ [kind.ruleId]))
            = (applied.map FixKind.ruleId).filter fun id => decide (id ∉ r.resolvedRules) := by
          apply List.filter_congr
          intro id hid
          simp [hother id hid]
        simp only [List.contains_eq_mem, hnamed, decide_false, Bool.false_eq_true, if_false]
        rw [hfilter, List.filter_cons_of_pos (by simpa using hnamed), List.append_assoc]
        rfl

/-- As many rules are named as repairs are applied, or fewer: a rule is named once for both
passes. -/
theorem length_appliedFixes (v : Validator) (html : List Char) (result : ValidationResult) :
    (v.autoFix html result).resolvedRules.Nodup
      ∧ (v.autoFix html result).resolvedRules.length ≤ (v.autoFix html result).appliedFixes.length
      ∧ (v.autoFix html result).appliedFixes.length
        ≤ 2 * (v.autoFix html result).resolvedRules.length := by
  have hids : ∀ {kinds : List FixKind}, kinds.Sublist v.activeFixes →
      (kinds.map FixKind.ruleId).Nodup := by
    intro kinds hkinds
    exact (v.nodup_activeFixes.sublist hkinds).map FixKind.ruleId_injective
  obtain ⟨first, hfirst, hfirstlength, hfirstrules⟩ :=
    v.exists_applied_pass (v.firstDue result) v.nodup_activeFixes (.unchanged html)
  obtain ⟨second, hsecond, hsecondlength, hsecondrules⟩ :=
    v.exists_applied_pass (fun r kind => v.stillFires kind r.fixed) v.nodup_activeFixes
      (v.firstPass result html)
  rw [← firstPass_eq] at hfirstlength hfirstrules
  rw [← settle_eq] at hsecondlength hsecondrules
  replace hfirstlength : (v.firstPass result html).appliedFixes.length = first.length :=
    hfirstlength.trans (Nat.zero_add _)
  replace hfirstrules : (v.firstPass result html).resolvedRules = first.map FixKind.ruleId := by
    simpa [FixResult.unchanged] using hfirstrules
  have hunchanged : (FixResult.unchanged html).resolvedRules.Nodup
      ∧ (FixResult.unchanged html).resolvedRules.length
        ≤ (FixResult.unchanged html).appliedFixes.length
      ∧ (FixResult.unchanged html).appliedFixes.length
        ≤ 2 * (FixResult.unchanged html).resolvedRules.length := by
    simp [FixResult.unchanged]
  rw [autoFix]
  split
  · exact hunchanged
  dsimp only
  split
  · rw [hfirstrules] at hsecondrules
    have hnodup : (v.settle (v.firstPass result html)).resolvedRules.Nodup := by
      rw [hsecondrules]
      refine List.Nodup.append (hids hfirst) ((hids hsecond).filter _) ?_
      intro id hmem hfilter
      exact (of_decide_eq_true (List.mem_filter.1 hfilter).2) hmem
    -- What either pass applies belongs to the rules that are named.
    have hcovered : (second.map FixKind.ruleId)
        ⊆ (v.settle (v.firstPass result html)).resolvedRules := by
      intro id hid
      rw [hsecondrules, List.mem_append, List.mem_filter, decide_eq_true_eq]
      by_cases hmem : id ∈ first.map FixKind.ruleId
      · exact .inl hmem
      · exact .inr ⟨hid, hmem⟩
    have hsecondle : second.length ≤ (v.settle (v.firstPass result html)).resolvedRules.length := by
      simpa using ((hids hsecond).subperm hcovered).length_le
    have hlength := congrArg List.length hsecondrules
    have hfilterle := List.length_filter_le (· ∉ first.map FixKind.ruleId)
      (second.map FixKind.ruleId)
    rw [List.length_append, List.length_map] at hlength
    rw [List.length_map] at hfilterle
    refine ⟨hnodup, ?_, ?_⟩ <;> omega
  · rw [hfirstlength, hfirstrules, List.length_map]
    exact ⟨hids hfirst, Nat.le_refl _, Nat.le_mul_of_pos_left _ Nat.two_pos⟩

/-- Automatic repair that applies nothing gives back the markup. -/
theorem fixed_of_appliedFixes_eq_nil {html : List Char} {result : ValidationResult}
    (h : (v.autoFix html result).appliedFixes = []) : (v.autoFix html result).fixed = html := by
  have hkept : v.autoFix html result = .unchanged html ∨ (v.autoFix html result).changed :=
    autoFix_invariant (fun r => r = .unchanged html ∨ r.changed)
      (fun r kind _ repair _ _ => .inr (changed_apply r kind repair)) (.inl rfl) result
  rcases hkept with hsame | hchanged
  · rw [hsame]
    rfl
  · rw [FixResult.changed, h] at hchanged
    cases hchanged

/-- The rules that are named are rules of the catalog whose findings can be repaired. -/
theorem exists_fixable_of_resolved {html : List Char} {result : ValidationResult} {id : String}
    (h : id ∈ (v.autoFix html result).resolvedRules) :
    ∃ rule ∈ v.catalog.rules, rule.id = id ∧ rule.info.fixable := by
  obtain ⟨kind, hkind, rfl⟩ := exists_active_of_resolved h
  obtain ⟨rule, hrule, hid, hfix⟩ := exists_rule_of_active hkind
  refine ⟨rule, hrule, hid, ?_⟩
  rw [RuleInfo.fixable, hfix]
  rfl

end Validator

/-! ## The report -/

namespace GateReport

/-- What it means that a report of the gate is consistent. -/
structure Consistent (r : GateReport) (v : Validator) (force : Bool) (html : List Char)
    (css js : Option (List Char)) : Prop where
  /-- what is found at first is found in the markup that came in -/
  initial : r.initial = v.validate (.ofSource html css js)
  /-- what is found in the end is found in the markup that goes out -/
  final : r.final = v.validate (.ofSource r.output css js)
  /-- there is no repair exactly if the page passes and none is asked for -/
  spared : r.fix = none ↔ r.initial.passed ∧ ¬force
  /-- a repair is that of the markup that came in, for what is found in it -/
  fixed : ∀ fix ∈ r.fix, fix = v.autoFix html r.initial
  /-- it is worth writing back exactly if something was applied -/
  persists : r.shouldPersist ↔ r.appliedFixes ≠ []
  /-- if nothing was, the markup goes out as it came in, and what is found in it stays -/
  untouched : ¬r.shouldPersist → r.output = html ∧ r.final = r.initial
  /-- a repair that applies nothing has not touched the markup either -/
  still : ∀ fix ∈ r.fix, fix.appliedFixes = [] → fix.fixed = html
  /-- the rules that are named are rules of the catalog whose findings can be repaired -/
  resolved : ∀ fix ∈ r.fix, ∀ id ∈ fix.resolvedRules,
    ∃ rule ∈ v.catalog.rules, rule.id = id ∧ rule.info.fixable
  /-- each is named once, and no more repairs are applied than two for each -/
  tally : ∀ fix ∈ r.fix, fix.resolvedRules.Nodup
    ∧ fix.resolvedRules.length ≤ fix.appliedFixes.length
    ∧ fix.appliedFixes.length ≤ 2 * fix.resolvedRules.length

end GateReport

namespace Validator

/-- A report of the gate is consistent, whatever the catalog and the page. -/
theorem runGate_consistent (v : Validator) (force : Bool) (html : List Char)
    (css js : Option (List Char)) :
    (v.runGate force html css js).Consistent v force html css js := by
  by_cases hspared : ((v.validate (.ofSource html css js)).passed && !force) = true
  · -- The page passes: there is no repair, and the two validations are one.
    have hgate : v.runGate force html css js = ⟨html, v.validate (.ofSource html css js), none,
        v.validate (.ofSource html css js)⟩ := if_pos hspared
    rw [hgate]
    exact {
      initial := rfl
      final := rfl
      spared := by simpa using hspared
      fixed := nofun
      persists := by simp [GateReport.shouldPersist, GateReport.appliedFixes]
      untouched := fun _ => ⟨rfl, rfl⟩
      still := nofun
      resolved := nofun
      tally := nofun }
  · have hgate : v.runGate force html css js = ⟨html, v.validate (.ofSource html css js),
        some (v.autoFix html (v.validate (.ofSource html css js))),
        if (v.autoFix html (v.validate (.ofSource html css js))).changed then
          v.validate (.ofSource (v.autoFix html (v.validate (.ofSource html css js))).fixed css js)
        else v.validate (.ofSource html css js)⟩ := if_neg hspared
    rw [hgate]
    generalize hfix : v.autoFix html (v.validate (.ofSource html css js)) = fix
    have hsome : ∀ other ∈ some fix, other = fix := by
      intro other hother
      exact (Option.some.inj hother).symm
    constructor
    case initial => rfl
    case final =>
      -- What goes out is the repaired markup exactly where it is what was validated again.
      cases hchanged : fix.changed <;> simp [GateReport.output, hchanged]
    case spared => simpa using hspared
    case fixed =>
      intro other hother
      rw [hsome other hother, hfix]
    case persists => simp [GateReport.shouldPersist, GateReport.appliedFixes, FixResult.changed]
    case untouched =>
      intro hkept
      have hchanged : fix.changed = false := by simpa [GateReport.shouldPersist] using hkept
      simp [GateReport.output, hchanged]
    case still =>
      intro other hother hnone
      rw [hsome other hother, ← hfix] at hnone ⊢
      exact fixed_of_appliedFixes_eq_nil hnone
    case resolved =>
      intro other hother id hid
      rw [hsome other hother, ← hfix] at hid
      exact exists_fixable_of_resolved hid
    case tally =>
      intro other hother
      rw [hsome other hother, ← hfix]
      exact v.length_appliedFixes html _

end Validator

end MarkupGate
