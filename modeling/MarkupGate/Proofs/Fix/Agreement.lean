import MarkupGate.Proofs.Fix.Outcome
import MarkupGate.Proofs.Fix.Pass
import MarkupGate.Proofs.Validation

/-!
# Rules and their repairs agree

A repair is applied to exactly the texts with which its rule finds fault, except that a fragment
without an `html` tag is left without a language. So a validation result that does not belong to the
text does no harm: where no rule that can be repaired finds anything, nothing is changed.

* `FixKind.Silent`: what a document is like in which the rule of a repair finds nothing.
* `Repair.run_spec`: when a repair is applied, and that it never fails.
* `autoFix_of_silent`: automatic repair leaves a text without such faults alone.
-/

namespace MarkupGate

/-! ## Rules of repairs -/

/-- Whether a tag names the language of its content, or may name it. -/
def Tag.namesLang (t : Tag) : Bool :=
  (t.attr? "lang").any fun a =>
    a.value.any AttrValue.isExpression || !isMissing (a.value.map AttrValue.text)

namespace FixKind

/-- What a document is like in which the rule of a repair finds nothing. -/
def Silent (fold : FoldPolicy) (d : Document) : FixKind → Prop
  | insertDoctype => d.tokens.doctype.isSome
  | insertCharset => d.declaresUtf8
  | insertViewport => d.viewportTag?.isSome
  | insertLang => ∃ t, d.firstOpen? "html" = some t ∧ t.namesLang
  | lazyLoadImages => fold.deferrable d = []
  | secureTargetBlank => ∀ t ∈ d.openTagsNamed "a", t.missingRel = []

/-- Whether a document is a fragment whose language a repair does not name. -/
def Skips (kind : FixKind) (d : Document) : Prop :=
  kind = insertLang ∧ d.firstOpen? "html" = none

/-- When the rule of a repair finds nothing. -/
theorem run_rule_eq_nil_iff (kind : FixKind) (fold : FoldPolicy) (d : Document)
    (css js : Option (List Char)) :
    (kind.rule fold).run ⟨d, css, js⟩ = [] ↔ kind.Silent fold d := by
  cases kind with
  | insertDoctype =>
    simp [rule, Rule.run, Rule.doctype, Rule.ofFindings, Silent, Option.isSome_iff_ne_none]
  | insertCharset =>
    simp only [rule, Rule.run, Rule.charset, Rule.ofFindings, Silent]
    cases d.declaresUtf8
    · cases d.charsetDeclarations.head? <;> simp
    · simp
  | insertViewport =>
    simp [rule, Rule.run, Rule.viewport, Rule.ofFindings, Silent, Option.isSome_iff_ne_none]
  | insertLang =>
    simp only [rule, Rule.run, Rule.htmlLang, Rule.ofFindings, Silent]
    cases d.firstOpen? "html" with
    | none => simp
    | some t =>
      cases ha : t.attr? "lang" with
      | none => simp [Tag.namesLang, ha]
      | some a =>
        simp only [Option.some.injEq, exists_eq_left', Tag.namesLang, ha, Option.any_some]
        split <;> simp_all
  | lazyLoadImages => simp [rule, Rule.run, Rule.imgLazyLoading, Rule.ofFindings, Silent]
  | secureTargetBlank =>
    simp only [rule, Rule.run, Rule.targetBlank, Rule.ofFindings, Silent, List.filterMap_eq_nil_iff]
    apply forall₂_congr
    intro t _
    cases t.missingRel <;> simp

end FixKind

namespace Repair

theorem langEdit?_eq_none_iff {lang : List Char} {t : Tag} :
    langEdit? lang t = none ↔ t.namesLang := by
  rw [langEdit?, Tag.namesLang]
  cases t.attr? "lang" with
  | none => simp
  | some a =>
    cases h : a.value with
    | none => simp [isMissing, h]
    | some v => cases hexpr : v.isExpression <;> simp [isMissing, h, hexpr]

theorem relEdit?_eq_none_iff {html : List Char} {t : Tag} :
    relEdit? html t = none ↔ t.missingRel = [] := by
  rw [relEdit?]
  split
  · simp [*]
  · split
    · simpa
    · split <;> simpa

theorem isSome_relEdit? (html : List Char) (t : Tag) :
    (relEdit? html t).isSome = !t.missingRel.isEmpty := by
  have hnone : relEdit? html t = none ↔ t.missingRel = [] := relEdit?_eq_none_iff
  cases h : relEdit? html t with
  | none => simp [hnone.1 h]
  | some e => simpa [h] using hnone

/-- An outcome of which it is known when nothing is done, and that something is done otherwise. -/
theorem exists_outcome {idle : Prop} {o : RepairOutcome} (hidle : idle → o = .ok none)
    (hbusy : ¬idle → ∃ repair, o = .ok (some repair)) :
    ∃ outcome, o = .ok outcome ∧ (outcome = none ↔ idle) := by
  by_cases h : idle
  · exact ⟨none, hidle h, by simpa using h⟩
  · obtain ⟨repair, heq⟩ := hbusy h
    exact ⟨some repair, heq, by simpa using h⟩

theorem exists_insertCharset {html : List Char} (h : (Document.parse html).declaresUtf8 = false) :
    ∃ repair, insertCharset html = .ok (some repair) := by
  cases hspan : (Document.parse html).charsetDeclarations.findSome?
      (fun c => c.span.map fun span => (c, span)) with
  | some found =>
    obtain ⟨A, t, content, B, t', v, -, -, -, -, -, -, hrun⟩ := overwriteCharset_spec h hspan
    exact ⟨_, hrun⟩
  | none =>
    obtain ⟨A, B, new, -, -, -, hrun⟩ := (insertCharset_spec html).2 h (by
      simpa [List.findSome?_eq_none_iff] using hspan)
    exact ⟨_, hrun⟩

theorem langEdits_eq_none_iff (lang : List Char) (fold : FoldPolicy) {d : Document} :
    (d.firstOpen? "html").bind (langEdit? lang) = none
      ↔ FixKind.insertLang.Silent fold d ∨ FixKind.insertLang.Skips d := by
  cases hfirst : d.firstOpen? "html" with
  | none => simp [FixKind.Skips, hfirst]
  | some t => simp [FixKind.Silent, FixKind.Skips, hfirst, langEdit?_eq_none_iff]

/-- A repair never fails, and is applied where its rule finds fault, but for fragments that have no
tag to carry a language. -/
theorem run_spec (kind : FixKind) (fold : FoldPolicy) (lang html : List Char) :
    ∃ outcome, run kind fold lang html = .ok outcome
      ∧ (outcome = none ↔ kind.Silent fold (.parse html) ∨ kind.Skips (.parse html)) := by
  by_cases hlang : kind = .insertLang
  · subst hlang
    rw [← langEdits_eq_none_iff lang fold]
    refine exists_outcome (insertLang_spec lang html).1 fun h => ?_
    obtain ⟨e, hedit⟩ := Option.ne_none_iff_exists'.1 h
    obtain ⟨u, hfirst, hedit⟩ := Option.bind_eq_some_iff.1 hedit
    obtain ⟨A, t, content, B, t', v, -, -, -, -, -, -, hrun⟩ :=
      (insertLang_spec lang html).2 u e hfirst hedit
    exact ⟨_, hrun⟩
  have hskips : ¬kind.Skips (.parse html) := fun h => hlang h.1
  rw [or_iff_left hskips]
  cases kind with
  | insertLang => exact absurd rfl hlang
  | insertDoctype =>
    refine ⟨_, insertDoctype_eq html, ?_⟩
    simp [FixKind.Silent, Option.isSome_iff_ne_none]
  | insertCharset =>
    exact exists_outcome (insertCharset_spec html).1 fun h =>
      exists_insertCharset (Bool.eq_false_iff.2 h)
  | insertViewport =>
    refine exists_outcome (insertViewport_spec html).1 fun h => ?_
    obtain ⟨A, B, new, -, -, -, hrun⟩ :=
      (insertViewport_spec html).2 (Option.not_isSome_iff_eq_none.1 h)
    exact ⟨_, hrun⟩
  | lazyLoadImages =>
    refine exists_outcome (lazyLoadImages_spec fold html).1 fun h => ?_
    obtain ⟨T, -, hrun⟩ := (lazyLoadImages_spec fold html).2 h
    exact ⟨_, hrun⟩
  | secureTargetBlank =>
    have hsilent : ((Document.parse html).openTagsNamed "a").filterMap (relEdit? html) = []
        ↔ FixKind.secureTargetBlank.Silent fold (.parse html) := by
      simp only [FixKind.Silent, List.filterMap_eq_nil_iff, relEdit?_eq_none_iff]
    rw [← hsilent]
    refine exists_outcome (secureTargetBlank_spec html).1 fun h => ?_
    obtain ⟨T, -, hrun⟩ := (secureTargetBlank_spec html).2 h
    exact ⟨_, hrun⟩

theorem run_eq_none {kind : FixKind} {fold : FoldPolicy} {html : List Char} (lang : List Char)
    (h : kind.Silent fold (.parse html) ∨ kind.Skips (.parse html)) :
    run kind fold lang html = .ok none := by
  obtain ⟨outcome, hrun, hnone⟩ := run_spec kind fold lang html
  rw [hrun, hnone.2 h]

end Repair

/-! ## Automatic repair -/

/-- Where no repair is applied, automatic repair leaves a text alone, whatever the findings. -/
theorem Validator.autoFix_of_silent {v : Validator} {html : List Char} (h : ∀ kind ∈ v.activeFixes,
    kind.Silent v.catalog.fold (.parse html) ∨ kind.Skips (.parse html))
    (result : ValidationResult) : v.autoFix html result = .unchanged html := by
  have hfirst : v.firstPass result html = .unchanged html := by
    apply pass_eq_self
    intro kind hkind
    rw [FixResult.unchanged, Repair.run_eq_none _ (h kind hkind)]
  rw [autoFix, hfirst]
  split
  · rfl
  · rfl

/-! ## Rules and repairs -/

/-- The rule of a repair finds fault with fragments that the repair leaves alone. -/
theorem FixKind.Skips.not_silent {kind : FixKind} {d : Document} (h : kind.Skips d)
    (fold : FoldPolicy) : ¬kind.Silent fold d := by
  obtain ⟨rfl, hfirst⟩ := h
  simp [Silent, hfirst]

end MarkupGate
