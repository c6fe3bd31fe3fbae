import MarkupGate.Proofs.Validation.Meaning

/-!
# Validating with some of the rules

A validation can be asked for the rules of some identifiers alone. They then find what they find
among the others, and in the same order: rules know nothing of each other. So a catalog can be
validated in two parts. The findings of the whole are those of the parts, the points lost are lost
in one part or the other, and the whole passes only if both parts do.

None of this looks at the identifiers that findings carry: a rule that fails leaves a finding that
does not carry its own.

* `ValidationResult.DividedInto`: what it means that two results make up a third.
* `Validator.validateSubset_exact`: what the rules of some identifiers find, and that they and the
  remaining rules make up the whole.
-/

namespace MarkupGate

namespace ValidationResult

/-- What it means that the findings of a result are divided between two others. -/
structure DividedInto (all part rest : ValidationResult) : Prop where
  /-- in each tier, the findings of the whole are those of the parts -/
  lists : ∀ tier, (all.ofTier tier).Perm (part.ofTier tier ++ rest.ofTier tier)
  /-- what the parts take from a hundred points the whole takes, down to zero -/
  score : (all.score : ℤ) = max 0 (part.score + rest.score - 100)
  /-- what fails the page outright is in one of the parts -/
  autoFail : all.hasAutoFail ↔ part.hasAutoFail ∨ rest.hasAutoFail
  /-- the whole passes only if the parts do -/
  passed : all.passed → part.passed ∧ rest.passed

variable {all part rest : ValidationResult} {s : Scorer} {found own others : List Finding}

theorem Reports.score_le (h : all.Reports s found) : all.score ≤ 100 :=
  h.score ▸ Scorer.points_le found

/-- Results that say of one list of findings what two parts of it say are made up of them. -/
theorem Reports.dividedInto (hall : all.Reports s found) (hpart : part.Reports s own)
    (hrest : rest.Reports s others) (hperm : found.Perm (own ++ others)) :
    all.DividedInto part rest := by
  have hscore : (all.score : ℤ) = max 0 (part.score + rest.score - 100) := by
    have hpoints : Scorer.points found = Scorer.points (own ++ others) :=
      congrArg Score.points (s.score_perm hperm)
    rw [hall.score, hpart.score, hrest.score, hpoints, Scorer.points_append]
  have hfail : all.hasAutoFail ↔ part.hasAutoFail ∨ rest.hasAutoFail := by
    rw [hall.hasAutoFail, hpart.hasAutoFail, hrest.hasAutoFail, hperm.any_eq, List.any_append,
      Bool.or_eq_true]
  refine ⟨?_, hscore, hfail, ?_⟩
  · intro tier
    rw [hall.lists, hpart.lists, hrest.lists, ← List.filter_append]
    exact hperm.filter _
  · intro hpassed
    -- No part scores less than the whole, and none has what the whole has not.
    obtain ⟨hthreshold, hnone⟩ := hall.verdict.1 hpassed
    have hpart100 := hpart.score_le
    have hrest100 := hrest.score_le
    rw [hfail, not_or] at hnone
    refine ⟨hpart.verdict.2 ⟨?_, hnone.1⟩, hrest.verdict.2 ⟨?_, hnone.2⟩⟩
    · omega
    · omega

end ValidationResult

namespace Validator

variable {v : Validator} {page : Page}

/-- What the rules of some identifiers find, each checked on its own, in the order of the catalog. -/
def checkSome (v : Validator) (ids : List String) (page : Page) : List Finding :=
  ((v.catalog.rules.map Rule.id).filter fun id => id ∈ ids).flatMap fun id => v.checkRule id page

theorem checkSome_eq (v : Validator) (ids : List String) (page : Page) :
    v.checkSome ids page
      = (v.catalog.rules.filter fun r => r.id ∈ ids).flatMap fun r => r.run page := by
  rw [checkSome, List.filter_map, List.flatMap_map]
  apply List.flatMap_congr
  intro r hr
  exact checkRule_of_mem (List.mem_filter.1 hr).1 page

theorem reports_validateSubset (v : Validator) (ids : List String) (page : Page) :
    (v.validateSubset ids page).Reports v.scorer (v.checkSome ids page) := by
  have hrules : (v.catalog.rules.filter fun r => ids.contains r.id)
      = v.catalog.rules.filter fun r => r.id ∈ ids := by
    apply List.filter_congr
    intro r _
    exact List.contains_eq_mem r.id ids
  rw [checkSome_eq, ← hrules]
  exact v.reports_runRules _ page

/-- Rules of some identifiers find what they find among the others, in the same order. -/
theorem checkSome_sublist (v : Validator) (ids : List String) (page : Page) :
    (v.checkSome ids page).Sublist (v.checkEach page) :=
  List.filter_sublist.flatMap _

/-- What all rules find is what those of some identifiers find and what the remaining ones find. -/
theorem checkEach_perm {ids remaining : List String}
    (h : ∀ r ∈ v.catalog.rules, r.id ∈ remaining ↔ r.id ∉ ids) (page : Page) :
    (v.checkEach page).Perm (v.checkSome ids page ++ v.checkSome remaining page) := by
  have hremaining : ((v.catalog.rules.map Rule.id).filter fun id => id ∈ remaining)
      = (v.catalog.rules.map Rule.id).filter fun id => !decide (id ∈ ids) := by
    apply List.filter_congr
    intro id hid
    obtain ⟨r, hr, rfl⟩ := List.mem_map.1 hid
    simp [h r hr]
  rw [checkSome, checkSome, hremaining, ← List.flatMap_append]
  exact ((List.filter_append_perm (fun id => decide (id ∈ ids)) _).flatMap_right _).symm

/-- The rules of some identifiers give, tier by tier, part of what all rules give, in the same
order: just what these rules find. With the remaining rules they make up the whole. -/
theorem validateSubset_exact (v : Validator) (ids : List String) (html : List Char)
    (css js : Option (List Char)) :
    (v.validateSubset ids (.ofSource html css js)).Reports v.scorer
        (v.checkSome ids (.ofSource html css js))
      ∧ (∀ tier, ((v.validateSubset ids (.ofSource html css js)).ofTier tier).Sublist
        ((v.validate (.ofSource html css js)).ofTier tier))
      ∧ ∀ remaining : List String, (∀ r ∈ v.catalog.rules, r.id ∈ remaining ↔ r.id ∉ ids) →
        (v.validate (.ofSource html css js)).DividedInto
          (v.validateSubset ids (.ofSource html css js))
          (v.validateSubset remaining (.ofSource html css js)) := by
  generalize Page.ofSource html css js = page
  have hall : (v.validate page).Reports v.scorer (v.checkEach page) :=
    v.checkEach_eq page ▸ v.reports_validate page
  have hpart := v.reports_validateSubset ids page
  refine ⟨hpart, ?_, ?_⟩
  · intro tier
    rw [hpart.lists, hall.lists]
    exact (v.checkSome_sublist ids page).filter _
  · intro remaining hremaining
    have hrest := v.reports_validateSubset remaining page
    exact hall.dividedInto hpart hrest (checkEach_perm hremaining page)

/-- A page with more than ten images that nothing describes. -/
def imagesPage : List Char :=
  "<html>".toList ++ (List.replicate 11 "<img>".toList).flatten

/-- Images alone cost more than there is to lose, and the rest costs some more. Identifiers may be
given twice, and may be those of no rule. -/
theorem validateSubset_exact_imagesPage :
    let v : Validator := ⟨.interrupted, .ofConfig {}⟩
    let page := Page.ofSource imagesPage none none
    let ids := ["accessibility/img-alt", "no/such-rule", "accessibility/img-alt"]
    let remaining := ["structure/html-lang", "custom/breaking", "structure/doctype"]
    (∀ r ∈ v.catalog.rules, r.id ∈ remaining ↔ r.id ∉ ids)
      ∧ (v.validate page).DividedInto (v.validateSubset ids page) (v.validateSubset remaining page)
      ∧ (v.validateSubset ids page).score = 0
      ∧ (v.validateSubset remaining page).score = 79
      ∧ (v.validate page).score = 0 := by
  intro v page ids remaining
  have hremaining : ∀ r ∈ v.catalog.rules, r.id ∈ remaining ↔ r.id ∉ ids := by
    simp only [v, Catalog.interrupted, List.forall_mem_cons, List.not_mem_nil, false_implies,
      implies_true, and_true]
    decide
  obtain ⟨hpart, -, hdivided⟩ := validateSubset_exact v ids imagesPage none none
  have hpartScore : (v.validateSubset ids page).score = 0 := by
    rw [hpart.score, checkSome_eq]
    decide +kernel
  have hrestScore : (v.validateSubset remaining page).score = 79 := by
    rw [(v.reports_validateSubset remaining page).score, checkSome_eq]
    decide +kernel
  have hscore := (hdivided remaining hremaining).score
  rw [show (v.validateSubset ids (.ofSource imagesPage none none)).score = 0 from hpartScore,
    show (v.validateSubset remaining (.ofSource imagesPage none none)).score = 79 from hrestScore]
    at hscore
  refine ⟨hremaining, hdivided remaining hremaining, hpartScore, hrestScore, ?_⟩
  exact Int.ofNat_eq_zero.1 hscore

end Validator

end MarkupGate
