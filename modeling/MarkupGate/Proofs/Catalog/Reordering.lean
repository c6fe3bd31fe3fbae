import MarkupGate.Proofs.Fix.Pass
import MarkupGate.Proofs.Validation.Meaning

/-!
# The order of rules

A catalog has its rules in some order, and the lists of a result follow it. Nothing else does. Two
catalogs of the same rules find the same and score it alike, whatever the rules do and whether or
not they fail; the lists of their results are made of the same blocks, one for each rule, in the
order of the one or the other catalog. Automatic repair goes by identifiers and by an order of its
own, so that it comes to the same outcome with both.

* `Validator.RepairsAlike`, `Validator.autoFix_congr`: what automatic repair depends on.
* `ValidationResult.Rearranges`: what it means that two results differ in the order of rules.
* `Catalog.reordering_rearranges`: what another order of the same rules changes.
-/

namespace MarkupGate

/-! ## What automatic repair depends on -/

namespace Validator

variable {v w : Validator} {result result' : ValidationResult}

/-- Whether two validators repair alike: with the same repairs, done in the same way, and with rules
that fire on the same texts. -/
structure RepairsAlike (v w : Validator) : Prop where
  fold : v.catalog.fold = w.catalog.fold
  lang : v.catalog.defaultLang = w.catalog.defaultLang
  /-- the catalogs have the same repairs -/
  repairs : v.activeFixes = w.activeFixes
  /-- the rules of repairs fire on the same texts -/
  fires : ∀ kind html, v.stillFires kind html = w.stillFires kind html

theorem RepairsAlike.attempt (h : v.RepairsAlike w) (r : FixResult) (kind : FixKind) :
    v.attempt r kind = w.attempt r kind := by
  rw [Validator.attempt, Validator.attempt, h.fold, h.lang]

theorem RepairsAlike.pass (h : v.RepairsAlike w) {due due' : FixResult → FixKind → Bool}
    (hdue : ∀ r kind, due r kind = due' r kind) (kinds : List FixKind) (r : FixResult) :
    v.pass due kinds r = w.pass due' kinds r := by
  induction kinds generalizing r with
  | nil => rfl
  | cons kind kinds ih =>
    have hstep : (if due r kind then v.attempt r kind else r)
        = if due' r kind then w.attempt r kind else r := by
      rw [hdue, h.attempt]
    calc v.pass due (kind :: kinds) r
      _ = v.pass due kinds (if due r kind then v.attempt r kind else r) := rfl
      _ = w.pass due' kinds (if due' r kind then w.attempt r kind else r) := by rw [hstep, ih]
      _ = w.pass due' (kind :: kinds) r := rfl

/-- Automatic repair goes by which rules of repairs are said to have found something, and by whether
there is anything at all that can be repaired. -/
theorem autoFix_congr (h : v.RepairsAlike w) (hfixable : result.hasFixable = result'.hasFixable)
    (hrule : ∀ kind : FixKind, result.hasRule kind.ruleId = result'.hasRule kind.ruleId)
    (html : List Char) : v.autoFix html result = w.autoFix html result' := by
  have hfirst : v.firstPass result html = w.firstPass result' html := by
    rw [firstPass_eq, firstPass_eq, h.repairs]
    apply h.pass
    intro r kind
    rw [firstDue, firstDue, hrule, h.fires]
  have hsettle : ∀ r, v.settle r = w.settle r := by
    intro r
    rw [settle_eq, settle_eq, h.repairs]
    apply h.pass
    intro r kind
    exact h.fires kind r.fixed
  rw [autoFix, autoFix, hfixable, hfirst]
  simp only [hsettle]

/-- The order in which findings are listed makes no difference to automatic repair. -/
theorem autoFix_perm (h : v.RepairsAlike w) (hfindings : result.findings.Perm result'.findings)
    (html : List Char) : v.autoFix html result = w.autoFix html result' := by
  apply autoFix_congr h
  · exact hfindings.any_eq
  · intro kind
    exact hfindings.any_eq

end Validator

/-! ## Catalogs of the same rules -/

namespace Catalog

variable {c d : Catalog}

/-- A rule is found under its identifier wherever it stands. -/
theorem rule?_perm (h : c.rules.Perm d.rules) (id : String) : c.rule? id = d.rule? id := by
  apply Option.ext
  intro r
  rw [rule?_eq_some, rule?_eq_some, h.mem_iff]

theorem repairsAlike_of_perm (h : c.rules.Perm d.rules) (hfold : c.fold = d.fold)
    (hlang : c.defaultLang = d.defaultLang) (scorer : Scorer) :
    Validator.RepairsAlike ⟨c, scorer⟩ ⟨d, scorer⟩ where
  fold := hfold
  lang := hlang
  repairs := by
    apply List.filter_congr
    intro kind _
    rw [fixFor?, fixFor?, rule?_perm h]
  fires kind html := by
    rw [Validator.stillFires, Validator.stillFires, Validator.checkRule, Validator.checkRule,
      rule?_perm h]

end Catalog

/-! ## Results in another order -/

namespace ValidationResult

variable {r r' : ValidationResult} {s : Scorer} {rules rules' : List Rule} {page : Page}

/-- What it means that two results say the same of a page but for the order of the rules. -/
structure Rearranges (r r' : ValidationResult) (rules rules' : List Rule) (page : Page) : Prop where
  score : r.score = r'.score
  grade : r.grade = r'.grade
  passed : r.passed = r'.passed
  /-- each tier has the same findings -/
  lists : ∀ tier, (r.ofTier tier).Perm (r'.ofTier tier)
  /-- what a rule finds stands together and in its order, and the rules stand in theirs -/
  blocks : ∀ tier,
    r.ofTier tier = (rules.flatMap fun rule => (rule.run page).filter fun f => f.severity.tier = tier)
      ∧ r'.ofTier tier
        = rules'.flatMap fun rule => (rule.run page).filter fun f => f.severity.tier = tier

theorem Reports.rearranges (h : r.Reports s (rules.flatMap fun rule => rule.run page))
    (h' : r'.Reports s (rules'.flatMap fun rule => rule.run page)) (hperm : rules.Perm rules') :
    r.Rearranges r' rules rules' page := by
  have hfound := hperm.flatMap_right fun rule => rule.run page
  have hscore := h.scored.symm.trans ((s.score_perm hfound).trans h'.scored)
  refine ⟨congrArg Score.points hscore, congrArg Score.grade hscore, congrArg Score.passed hscore,
    ?_, ?_⟩
  · intro tier
    rw [h.lists, h'.lists]
    exact hfound.filter _
  · intro tier
    constructor
    · rw [h.lists, List.filter_flatMap]
    · rw [h'.lists, List.filter_flatMap]

end ValidationResult

namespace Catalog

variable {c d : Catalog}

theorem rearranges_of_perm (h : c.rules.Perm d.rules) (scorer : Scorer) (page : Page) :
    (Validator.validate ⟨c, scorer⟩ page).Rearranges (Validator.validate ⟨d, scorer⟩ page)
      c.rules d.rules page :=
  (Validator.reports_validate ⟨c, scorer⟩ page).rearranges
    (Validator.reports_validate ⟨d, scorer⟩ page) h

/-- Each catalog may repair by its own result: the two results flag the same rules. -/
theorem autoFix_validate_of_perm (h : c.rules.Perm d.rules) (hfold : c.fold = d.fold)
    (hlang : c.defaultLang = d.defaultLang) (scorer : Scorer) (html : List Char) (page : Page) :
    Validator.autoFix ⟨c, scorer⟩ html (Validator.validate ⟨c, scorer⟩ page)
      = Validator.autoFix ⟨d, scorer⟩ html (Validator.validate ⟨d, scorer⟩ page) := by
  have hfindings : (Validator.validate ⟨c, scorer⟩ page).findings.Perm
      (Validator.validate ⟨d, scorer⟩ page).findings := by
    have hc := Validator.findings_validate ⟨c, scorer⟩ page
    have hd := Validator.findings_validate ⟨d, scorer⟩ page
    exact (hc.trans (h.flatMap_right fun r => r.run page)).trans hd.symm
  exact Validator.autoFix_perm (repairsAlike_of_perm h hfold hlang scorer) hfindings html

/-- The catalog of rules with identifiers of their own. -/
theorem exists_ofRules {rules : List Rule} (hids : (rules.map Rule.id).Nodup) (config : Config) :
    ∃ c, ofRules rules config = .ok c ∧ c.rules = rules ∧ c.fold = config.autofix.foldPolicy
      ∧ c.defaultLang = config.autofix.langOrDefault.toList :=
  ⟨_, dif_pos hids, rfl, rfl, rfl⟩

/-- The same rules in another order make a catalog again. Of any page it finds the same, listed in
its own order, and automatic repair comes to the same outcome. -/
theorem reordering_rearranges {rules rules' : List Rule} (hids : (rules.map Rule.id).Nodup)
    (hperm : rules.Perm rules') (config : Config) :
    ∃ c d, ofRules rules config = .ok c ∧ ofRules rules' config = .ok d
      ∧ ∀ scorer html css js,
        (Validator.validate ⟨c, scorer⟩ (.ofSource html css js)).Rearranges
            (Validator.validate ⟨d, scorer⟩ (.ofSource html css js)) rules rules'
            (.ofSource html css js)
          ∧ Validator.autoFix ⟨c, scorer⟩ html
              (Validator.validate ⟨c, scorer⟩ (.ofSource html css js))
            = Validator.autoFix ⟨d, scorer⟩ html
              (Validator.validate ⟨d, scorer⟩ (.ofSource html css js)) := by
  have hids' : (rules'.map Rule.id).Nodup := (hperm.map Rule.id).nodup_iff.1 hids
  obtain ⟨c, hc, rfl, hfold, hlang⟩ := exists_ofRules hids config
  obtain ⟨d, hd, rfl, hfold', hlang'⟩ := exists_ofRules hids' config
  refine ⟨c, d, hc, hd, ?_⟩
  intro scorer html css js
  constructor
  · exact rearranges_of_perm hperm scorer _
  · exact autoFix_validate_of_perm hperm (hfold.trans hfold'.symm) (hlang.trans hlang'.symm) scorer
      html _

/-- A rule under the identifier of the viewport, with a repair that belongs to another identifier. -/
def misfit : Rule where
  info := { RuleInfo.viewport with fix := some .insertLang }
  check := Rule.viewport.check

/-- Rules one of which breaks off and one of which names the repair of another. -/
def mixedRules : List Rule := [.doctype, .breaking, misfit, .htmlLang]

theorem nodup_ids_mixedRules : (mixedRules.map Rule.id).Nodup := by decide

/-- In either order the viewport is not repaired: its rule names a repair, but not its own. -/
theorem reordering_rearranges_mixedRules :
    (mixedRules.map Rule.id).Nodup ∧ mixedRules.Perm mixedRules.reverse
      ∧ ∃ c d, ofRules mixedRules {} = .ok c ∧ ofRules mixedRules.reverse {} = .ok d
        ∧ (Validator.validate ⟨c, .ofConfig {}⟩ (.ofSource "<html>".toList none none)).Rearranges
          (Validator.validate ⟨d, .ofConfig {}⟩ (.ofSource "<html>".toList none none)) mixedRules
          mixedRules.reverse (.ofSource "<html>".toList none none)
        ∧ Validator.autoFix ⟨d, .ofConfig {}⟩ "<html>".toList
            (Validator.validate ⟨d, .ofConfig {}⟩ (.ofSource "<html>".toList none none))
          = ⟨"<!DOCTYPE html>\n<html lang=\"en\">".toList,
            ["Added <!DOCTYPE html> declaration", "Added lang=\"en\" to <html>"],
            ["structure/doctype", "structure/html-lang"]⟩ := by
  have hperm : mixedRules.Perm mixedRules.reverse := (List.reverse_perm _).symm
  obtain ⟨c, d, hc, hd, hsame⟩ := reordering_rearranges nodup_ids_mixedRules hperm {}
  obtain ⟨hrearranges, hrepair⟩ := hsame (.ofConfig {}) "<html>".toList none none
  refine ⟨nodup_ids_mixedRules, hperm, c, d, hc, hd, hrearranges, hrepair.symm.trans ?_⟩
  cases (dif_pos nodup_ids_mixedRules).symm.trans hc
  -- The findings need not be sorted for the repair, and sorting does not evaluate.
  have hunsorted := Validator.findings_validate
    ⟨⟨mixedRules, nodup_ids_mixedRules, (Config.autofix {}).foldPolicy,
      (Config.autofix {}).langOrDefault.toList⟩, .ofConfig {}⟩
    (.ofSource "<html>".toList none none)
  rw [Validator.autoFix_perm ⟨rfl, rfl, rfl, fun _ _ => rfl⟩ (hunsorted.trans
    (ValidationResult.findings_ofFindings _ ⟨0, .f, false⟩).symm)]
  decide +kernel

end Catalog

end MarkupGate
