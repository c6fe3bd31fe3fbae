import MarkupGate.Proofs.Validation

/-!
# What a validation says

A validation runs its rules one after another on one reading of the page, sorts what they find by
tier and deals it out to three lists. What comes of this can be said without it: the list of a tier
holds the findings of the tier in the order in which the rules, checked one by one under their
identifiers, give them, and the score is the score of these findings.

A rule that fails is no exception. It has one finding, which says that it failed; what the others
find is what they find without it.

* `Reports`: what it means that a result says what a list of findings says.
* `Validator.reports_runRules`: a result says what its rules find.
* `Validator.Describes.filter_ofTier_validate`: what a result lists under the identifier of a rule.
* `Validator.validate_reports`: a validation says what its rules find when they are checked one by
  one, and a rule that fails concerns no other.
-/

namespace MarkupGate

/-! ## Results and findings -/

namespace ValidationResult

/-- The findings of a result that belong to a tier. -/
def ofTier (r : ValidationResult) : Tier → List Finding
  | .error => r.errors
  | .warning => r.warnings
  | .info => r.info

/-- What it means that a result says what a list of findings says. -/
structure Reports (r : ValidationResult) (s : Scorer) (found : List Finding) : Prop where
  /-- the list of a tier holds the findings of the tier, in their order -/
  lists : ∀ tier, r.ofTier tier = found.filter fun f => f.severity.tier = tier
  /-- score, grade and verdict are those of the findings -/
  scored : s.score found = ⟨r.score, r.grade, r.passed⟩
  /-- the verdict follows from the score and the errors that are listed -/
  verdict : r.passed ↔ s.passThreshold ≤ r.score ∧ ¬r.hasAutoFail

variable {r : ValidationResult} {s : Scorer} {found : List Finding}

/-- A page fails over its errors alone, so it is enough to look at their list. -/
theorem hasAutoFail_eq (h : r.errors = found.filter fun f => f.severity.tier = .error) :
    r.hasAutoFail = found.any fun f => f.severity.isAutoFail := by
  rw [hasAutoFail, h, List.any_filter]
  refine congrArg found.any (funext ?_)
  intro f
  cases hfail : f.severity.isAutoFail with
  | false => exact Bool.and_false _
  | true => simp [Severity.tier_of_isAutoFail hfail]

/-- Sorting by tier keeps the order within a tier. -/
theorem filter_tier_mergeSort (found : List Finding) (tier : Tier) :
    (found.mergeSort fun f g => f.severity.tier.rank ≤ g.severity.tier.rank).filter
        (fun f => f.severity.tier = tier)
      = found.filter fun f => f.severity.tier = tier := by
  -- Findings of one tier are sorted as they are, so the sort, which is stable, keeps them.
  have hsorted : (found.filter fun f => f.severity.tier = tier).Pairwise
      fun f g => decide (f.severity.tier.rank ≤ g.severity.tier.rank) := by
    apply List.pairwise_of_forall_mem_list
    intro f hf g hg
    have hftier : f.severity.tier = tier := by simpa using (List.mem_filter.1 hf).2
    have hgtier : g.severity.tier = tier := by simpa using (List.mem_filter.1 hg).2
    rw [hftier, hgtier]
    simp
  have hkept := List.sublist_mergeSort
    (by intro f g k hfg hgk; simp only [decide_eq_true_eq] at hfg hgk ⊢; omega)
    (by intro f g; simp only [Bool.or_eq_true, decide_eq_true_eq]; omega)
    hsorted List.filter_sublist
  have hfiltered := hkept.filter fun f => f.severity.tier = tier
  rw [List.filter_filter] at hfiltered
  simp only [Bool.and_self] at hfiltered
  exact (hfiltered.eq_of_length ((List.mergeSort_perm found _).filter _).length_eq.symm).symm

theorem Reports.hasAutoFail (h : r.Reports s found) :
    r.hasAutoFail = found.any fun f => f.severity.isAutoFail :=
  hasAutoFail_eq (h.lists .error)

theorem Reports.score (h : r.Reports s found) : r.score = Scorer.points found :=
  (congrArg Score.points h.scored).symm

end ValidationResult

/-! ## Rules that fail -/

/-- The finding that is left of a rule that fails. -/
def RuleFault.finding (ruleId : String) (fault : RuleFault) : Finding :=
  .ofRule .ruleFault (CodedError.coded (fault.error ruleId)) none

theorem Rule.run_of_error {r : Rule} {page : Page} {fault : RuleFault}
    (h : r.check page = .error fault) : r.run page = [fault.finding r.id] := by
  rw [run, h]
  rfl

namespace Validator

variable {v : Validator} {page : Page}

/-- What the rules of a catalog find, each checked on its own under its identifier. -/
def checkEach (v : Validator) (page : Page) : List Finding :=
  (v.catalog.rules.map Rule.id).flatMap fun id => v.checkRule id page

/-- Checking a rule under its identifier runs the rule. -/
theorem checkRule_of_mem {r : Rule} (hr : r ∈ v.catalog.rules) (page : Page) :
    v.checkRule r.id page = r.run page := by
  rw [checkRule, Catalog.rule?_eq_some.2 ⟨hr, rfl⟩]

theorem checkEach_eq (v : Validator) (page : Page) :
    v.checkEach page = v.catalog.rules.flatMap fun r => r.run page := by
  rw [checkEach, List.flatMap_map]
  apply List.flatMap_congr
  intro r hr
  exact checkRule_of_mem hr page

/-- A result says what its rules find. -/
theorem reports_runRules (v : Validator) (rules : List Rule) (page : Page) :
    (v.runRules rules page).Reports v.scorer (rules.flatMap fun r => r.run page) := by
  have hlists : ∀ tier, (v.runRules rules page).ofTier tier
      = (rules.flatMap fun r => r.run page).filter fun f => f.severity.tier = tier := by
    intro tier
    rw [← ValidationResult.filter_tier_mergeSort]
    cases tier <;> rfl
  have hscored : v.scorer.score (rules.flatMap fun r => r.run page)
      = ⟨(v.runRules rules page).score, (v.runRules rules page).grade,
          (v.runRules rules page).passed⟩ :=
    v.scorer.score_perm (List.mergeSort_perm _ _).symm
  refine ⟨hlists, hscored, ?_⟩
  have hpassed := congrArg Score.passed hscored
  have hpoints := congrArg Score.points hscored
  simp only [Scorer.score] at hpassed hpoints
  rw [ValidationResult.hasAutoFail_eq (hlists .error), ← hpassed, ← hpoints]
  simp

theorem reports_validate (v : Validator) (page : Page) :
    (v.validate page).Reports v.scorer (v.catalog.rules.flatMap fun r => r.run page) :=
  v.reports_runRules v.catalog.rules page

/-- The validator without the rule of an identifier. -/
def without (v : Validator) (id : String) : Validator where
  catalog :=
    { v.catalog with
      rules := v.catalog.rules.filter fun r => r.id ≠ id
      nodup_ids := v.catalog.nodup_ids.sublist (List.filter_sublist.map Rule.id) }
  scorer := v.scorer

theorem rules_without (v : Validator) (id : String) :
    (v.without id).catalog.rules = v.catalog.rules.filter fun r => r.id ≠ id := rfl

/-- Leaving a rule out changes nothing about the others. -/
theorem checkRule_without {id other : String} (hother : other ≠ id) (page : Page) :
    (v.without id).checkRule other page = v.checkRule other page := by
  have hrule : (v.without id).catalog.rule? other = v.catalog.rule? other := by
    apply Option.ext
    intro r
    rw [Catalog.rule?_eq_some, Catalog.rule?_eq_some, rules_without, List.mem_filter,
      decide_eq_true_eq]
    constructor
    · rintro ⟨⟨hr, -⟩, hid⟩
      exact ⟨hr, hid⟩
    · rintro ⟨hr, rfl⟩
      exact ⟨⟨hr, hother⟩, rfl⟩
  rw [checkRule, checkRule, hrule]

/-- Without a rule there is what stands around it. -/
theorem exists_around_without {r : Rule} (hr : r ∈ v.catalog.rules) : ∃ before behind,
    v.catalog.rules = before ++ r :: behind
      ∧ (v.without r.id).catalog.rules = before ++ behind := by
  obtain ⟨before, behind, hsplit, hbefore, hbehind⟩ := Catalog.exists_around hr
  have hkept : ∀ {rules : List Rule}, (∀ s ∈ rules, s.id ≠ r.id) →
      (rules.filter fun s => s.id ≠ r.id) = rules := by
    intro rules hrules
    rw [List.filter_eq_self]
    intro s hs
    exact decide_eq_true (hrules s hs)
  refine ⟨before, behind, hsplit, ?_⟩
  rw [rules_without, hsplit, List.filter_append, List.filter_cons_of_neg (by simp), hkept hbefore,
    hkept hbehind]

/-- What it means that a rule that fails leaves one finding and does not concern the others. -/
structure Isolates (v : Validator) (r : Rule) (fault : RuleFault) (page : Page) : Prop where
  /-- the rule has one finding, which says that it failed -/
  alone : v.checkRule r.id page = [fault.finding r.id]
  /-- the finding is a warning, and nothing repairs it -/
  warning : (fault.finding r.id).ruleId = "internal/rule-fault"
    ∧ (fault.finding r.id).severity.tier = .warning ∧ ¬(fault.finding r.id).fixable
  /-- every other rule finds what it finds if this one is left out -/
  others : ∀ id, id ≠ r.id → v.checkRule id page = (v.without r.id).checkRule id page
  /-- the errors are those that there are without it -/
  errors : (v.validate page).errors = ((v.without r.id).validate page).errors
  /-- among the warnings there is one more, and the others stay in their order -/
  warnings : ∃ before behind, ((v.without r.id).validate page).warnings = before ++ behind
    ∧ (v.validate page).warnings = before ++ fault.finding r.id :: behind
  /-- the rest is what there is without it -/
  info : (v.validate page).info = ((v.without r.id).validate page).info

theorem isolates_of_error {r : Rule} (hr : r ∈ v.catalog.rules) {fault : RuleFault}
    (hfault : r.check page = .error fault) : v.Isolates r fault page := by
  obtain ⟨before, behind, hrules, hwithout⟩ := exists_around_without hr
  have hfull := (v.reports_validate page).lists
  have hless := ((v.without r.id).reports_validate page).lists
  rw [hrules, List.flatMap_append, List.flatMap_cons, Rule.run_of_error hfault] at hfull
  rw [hwithout, List.flatMap_append] at hless
  simp only [List.filter_append] at hfull hless
  refine ⟨?_, ⟨rfl, rfl, ?_⟩, ?_, ?_, ?_, ?_⟩
  · rw [checkRule_of_mem hr, Rule.run_of_error hfault]
  · exact Bool.false_ne_true
  · intro id hid
    exact (checkRule_without hid page).symm
  -- The finding is a warning, so that it is not in the other two lists.
  · exact (hfull .error).trans (hless .error).symm
  · exact ⟨_, _, hless .warning, hfull .warning⟩
  · exact (hfull .info).trans (hless .info).symm

/-! ## The reference -/

/-- A validation says what its rules find when they are checked one by one, in their order. A rule
that fails has one finding, and does not concern the others. -/
theorem validate_reports (v : Validator) (html : List Char) (css js : Option (List Char)) :
    (v.validate (.ofSource html css js)).Reports v.scorer (v.checkEach (.ofSource html css js))
      ∧ ∀ r ∈ v.catalog.rules, ∀ fault, r.check (.ofSource html css js) = .error fault →
        v.Isolates r fault (.ofSource html css js) := by
  constructor
  · rw [checkEach_eq]
    exact v.reports_runRules v.catalog.rules _
  · intro r hr fault hfault
    exact isolates_of_error hr hfault

end Validator

/-! ## A rule that breaks off -/

/-- A rule that breaks off on every page, before it can report a critical error. -/
def Rule.breaking : Rule where
  info :=
    { id := "custom/breaking"
      category := .structural
      severity := ⟨.error, .critical⟩
      fix := none
      title := "Breaks off"
      suggestion := none }
  check := fun _ => .error (.brokeOff (some "out of order"))

/-- A catalog in which the rule that breaks off stands between others that do not. -/
def Catalog.interrupted : Catalog where
  rules := [.doctype, .breaking, .htmlLang, .imgAlt]
  nodup_ids := by decide
  fold := AutofixConfig.foldPolicy {}
  defaultLang := "en".toList

/-- On an `html` tag alone the rules next to it have a finding each, as it has. -/
theorem Validator.validate_reports_interrupted :
    let v : Validator := ⟨.interrupted, .ofConfig {}⟩
    let page := Page.ofSource "<html>".toList none none
    Rule.breaking ∈ v.catalog.rules
      ∧ Rule.breaking.check page = .error (.brokeOff (some "out of order"))
      ∧ (v.validate page).Reports v.scorer (v.checkEach page)
      ∧ v.Isolates .breaking (.brokeOff (some "out of order")) page
      ∧ (v.checkEach page).map (fun f => (f.ruleId, f.message))
        = [("structure/doctype", "Missing <!DOCTYPE html> declaration"),
          ("internal/rule-fault", "[RULE_PANIC] Rule custom/breaking panicked: out of order"),
          ("structure/html-lang", "<html> is missing a lang attribute")]
      ∧ (v.validate page).score = 79 := by
  intro v page
  have hmem : Rule.breaking ∈ v.catalog.rules := by simp [v, Catalog.interrupted]
  obtain ⟨hreports, hisolates⟩ := validate_reports v "<html>".toList none none
  refine ⟨hmem, rfl, hreports, hisolates .breaking hmem _ rfl, ?_, ?_⟩
  · rw [checkEach_eq]
    decide +kernel
  · rw [hreports.score, checkEach_eq]
    decide +kernel

end MarkupGate
