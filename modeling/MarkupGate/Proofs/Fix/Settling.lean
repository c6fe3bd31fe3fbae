import MarkupGate.Proofs.Fix.Applied

/-!
# Settling

Automatic repair is meant to settle: repairing its outcome again changes nothing, and no rule that it
says to have resolved finds anything. It does where the texts are read as they were written: a repair
that is applied silences its own rule and leaves the others as they are, so the first pass settles
everything and the second has nothing to do.

It need not where a bare `rel` value holds a double quote, or where a charset in an expression takes
part in its braces or strings. Putting such a value in quotes, or another name in its place, changes
how what follows is read; `settles_iff` says exactly when automatic repair settles all the same.

* `Repairing`: what holds in the middle of the first pass.
* `finished_of_keepsReading`: what holds in the end.
* `settles_iff`: when automatic repair settles.
-/

namespace MarkupGate

namespace Document.Revision

variable {kind k : FixKind} {g g' : Nat → Nat} {d d' : Document} {t t' : Tag}

/-! ## What a repair leaves alone -/

/-- A rule that a repair keeps finds as much as before. -/
theorem Keeps.length_run {rev : d.Revision kind g g' d'} {r : Rule} (h : rev.Keeps r)
    (css js : Option (List Char)) : (r.run ⟨d', css, js⟩).length = (r.run ⟨d, css, js⟩).length := by
  simpa using congrArg List.length (h css js)

/-- Whether another rule finds nothing is the same. -/
theorem silent_iff (rev : d.Revision kind g g' d') (hk : k ≠ kind) (fold : FoldPolicy) :
    k.Silent fold d' ↔ k.Silent fold d := by
  have hkeeps : rev.Keeps (k.rule fold) := by
    refine rev.keeps_builtin (k.rule_mem_builtinRules fold 0 []) ?_ ?_
    · simpa using hk
    · intro hsecret
      have hfix := k.fix_rule fold
      rw [hsecret] at hfix
      cases hfix
  rw [← k.run_rule_eq_nil_iff fold d none none, ← k.run_rule_eq_nil_iff fold d' none none,
    ← List.length_eq_zero_iff, hkeeps.length_run, List.length_eq_zero_iff]

/-- A fragment stays a fragment. -/
theorem skips_iff (rev : d.Revision kind g g' d') : k.Skips d' ↔ k.Skips d := by
  have hhtml := rev.firstOpen? "html" fun t' h _ => rev.ne_of_added _ (by decide) t' h
  simp only [FixKind.Skips]
  revert hhtml
  generalize d.firstOpen? "html" = o
  generalize d'.firstOpen? "html" = o'
  rintro (_ | _) <;> simp

/-- The first declarations that can be overwritten correspond. -/
theorem exists_of_findSome? {rev : d.Revision kind g g' d'} {cs cs' : List CharsetDeclaration}
    (h : List.Forall₂ (fun c c' => (some c.tag, c'.tag) ∈ rev.tags ∧ c'.value = c.value
      ∧ c'.span.isSome = c.span.isSome) cs cs') {c' : CharsetDeclaration} {span' : Span}
    (hfind : cs'.findSome? (fun c => c.span.map fun span => (c, span)) = some (c', span')) :
    ∃ c span, cs.findSome? (fun c => c.span.map fun span => (c, span)) = some (c, span)
      ∧ (some c.tag, c'.tag) ∈ rev.tags := by
  induction h with
  | nil => cases hfind
  | @cons c₀ c₀' cs cs' hc _ ih =>
    obtain ⟨htag, -, hspan⟩ := hc
    rw [List.findSome?_cons] at hfind ⊢
    cases hs : c₀.span with
    | none =>
      rw [hs, Option.isSome_none, Option.isSome_eq_false_iff, Option.isNone_iff_eq_none] at hspan
      rw [hspan] at hfind
      exact ih hfind
    | some span =>
      rw [hs, Option.isSome_some] at hspan
      obtain ⟨span₀, hs'⟩ := Option.isSome_iff_exists.1 hspan
      rw [hs'] at hfind
      cases hfind
      exact ⟨c₀, span, rfl, htag⟩

/-- What other repairs write is still read as it was written. -/
theorem readsOn (rev : d.Revision kind g g' d') (hk : k ≠ kind) (h : k.ReadsOn d) :
    k.ReadsOn d' := by
  cases k with
  | insertCharset =>
    intro hutf8 c' span' hfind'
    have hkind := hk.symm
    rw [rev.declaresUtf8 hkind] at hutf8
    have hdecls := rev.forall₂_charsetDeclarations hkind
    obtain ⟨c, span, hfind, htag⟩ := exists_of_findSome? hdecls hfind'
    have hcharset : "charset" ∉ kind.writes := FixKind.not_mem_writes_of_ne (by decide) hkind
    have hcontent : "content" ∉ kind.writes := FixKind.not_mem_writes_of_ne (by decide) hkind
    exact (rev.alike htag).charsetOverwritable hcharset hcontent (h hutf8 c span hfind)
  | secureTargetBlank =>
    intro t' ht' hlacks
    have hkind := hk.symm
    obtain ⟨t, ht, htag⟩ := exists_of_mem_forall₂ (rev.forall₂_openTagsNamed "a" (by decide)) ht'
    have hrel : "rel" ∉ kind.writes := FixKind.not_mem_writes_of_ne (by decide) hkind
    rw [rev.missingRel hkind htag] at hlacks
    rw [(rev.alike htag).relQuotable hrel]
    exact h t ht hlacks
  | _ => trivial

end Document.Revision

/-- A repair that has nothing to do writes nothing that could be read otherwise. -/
theorem FixKind.Silent.readsOn {fold : FoldPolicy} {d : Document} {kind : FixKind}
    (h : kind.Silent fold d) : kind.ReadsOn d := by
  cases kind with
  | insertCharset =>
    intro hutf8
    rw [show d.declaresUtf8 = true from h] at hutf8
    cases hutf8
  | secureTargetBlank => exact fun t ht hlacks => absurd (h t ht) hlacks
  | _ => trivial

/-! ## The standard validator -/

namespace Validator

/-- The validator of the standard catalog. -/
def standard (scorer : Scorer) : Validator := ⟨.standard, scorer⟩

variable {scorer : Scorer} {kind : FixKind} {html : List Char} {r : FixResult}

/-- Whether the rule of a repair finds something in a text. -/
def isDue (kind : FixKind) (html : List Char) : Bool :=
  !((kind.rule Catalog.standard.fold).run (.ofSource html none none)).isEmpty

theorem isDue_iff : isDue kind html ↔ ¬kind.Silent Catalog.standard.fold (.parse html) := by
  rw [← kind.run_rule_eq_nil_iff Catalog.standard.fold _ none none, isDue]
  cases h : (kind.rule Catalog.standard.fold).run (.ofSource html none none) <;>
    simp_all [Page.ofSource]

theorem rule_mem_standard (kind : FixKind) :
    kind.rule Catalog.standard.fold ∈ Catalog.standard.rules :=
  kind.rule_mem_builtinRules _ _ _

theorem mem_order (kind : FixKind) : kind ∈ FixKind.order := by cases kind <;> decide

theorem describes_standard (scorer : Scorer) : (standard scorer).Describes :=
  describes_of_ofConfig Catalog.ofConfig_empty

theorem activeFixes_standard (scorer : Scorer) :
    (standard scorer).activeFixes = FixKind.order := by
  apply List.filter_eq_self.2
  intro kind _
  exact decide_eq_true ((Catalog.fixFor?_eq_some Catalog.ofConfig_empty).2 (rule_mem_standard kind))

theorem stillFires_standard : (standard scorer).stillFires kind html = isDue kind html := by
  have hrule : Catalog.standard.rule? kind.ruleId = some (kind.rule Catalog.standard.fold) :=
    Catalog.rule?_eq_some.2 ⟨rule_mem_standard kind, kind.id_rule _⟩
  rw [stillFires, checkRule, show (standard scorer).catalog = Catalog.standard from rfl, hrule, isDue]

theorem hasRule_standard : ((standard scorer).validate (.ofSource html none none)).hasRule kind.ruleId
    = isDue kind html := by
  rw [← kind.id_rule Catalog.standard.fold,
    hasRule_validate (describes_standard scorer) (rule_mem_standard kind), isDue]

theorem hasFixable_standard :
    ((standard scorer).validate (.ofSource html none none)).hasFixable
      = FixKind.order.any fun kind => isDue kind html := by
  rw [Bool.eq_iff_iff, hasFixable_validate (describes_standard scorer), List.any_eq_true]
  constructor
  · rintro ⟨rule, hrule, hfix, hrun⟩
    obtain ⟨kind, hkind⟩ := Option.isSome_iff_exists.1 hfix
    refine ⟨kind, mem_order kind, ?_⟩
    rw [Catalog.eq_rule_of_mem Catalog.ofConfig_empty hrule hkind] at hrun
    simpa [isDue] using hrun
  · rintro ⟨kind, -, hdue⟩
    refine ⟨_, rule_mem_standard kind, by simp, ?_⟩
    simpa [isDue] using hdue

/-- What automatic repair does depends on the rules of the repairs alone. -/
theorem autoFix_standard (scorer : Scorer) (html : List Char) :
    (standard scorer).autoFix html ((standard scorer).validate (.ofSource html none none))
      = if FixKind.order.any fun kind => isDue kind html then
          let first := (standard scorer).pass
            (fun r kind => isDue kind html || (r.changed && isDue kind r.fixed)) FixKind.order
            (.unchanged html)
          if first.changed then
            (standard scorer).pass (fun r kind => isDue kind r.fixed) FixKind.order first
          else first
        else .unchanged html := by
  have hfirst : (standard scorer).firstDue ((standard scorer).validate (.ofSource html none none))
      = fun r kind => isDue kind html || (r.changed && isDue kind r.fixed) := by
    funext r kind
    rw [firstDue, hasRule_standard, stillFires_standard]
  have hsecond : (fun (r : FixResult) kind => (standard scorer).stillFires kind r.fixed)
      = fun r kind => isDue kind r.fixed := by
    funext r kind
    rw [stillFires_standard]
  rw [autoFix, hasFixable_standard, firstPass_eq, hfirst, activeFixes_standard]
  cases FixKind.order.any fun kind => isDue kind html with
  | false => rfl
  | true =>
    simp only [settle_eq, hsecond, activeFixes_standard]
    rfl

end Validator

/-! ## Texts that are read as they are written -/

/-- Whether every repair of a document is read as it was written. -/
def Document.KeepsReading (d : Document) : Prop := ∀ kind : FixKind, kind.ReadsOn d

/-- What holds in the middle of the first pass over a text, when some repairs have had their turn. -/
structure Repairing (html : List Char) (done : List FixKind) (r : FixResult) : Prop where
  reads : (Document.parse r.fixed).KeepsReading
  settled : ∀ kind ∈ done, kind.Silent Catalog.standard.fold (.parse r.fixed)
    ∨ kind.Skips (.parse r.fixed)
  pending : ∀ kind ∉ done, kind.Silent Catalog.standard.fold (.parse r.fixed)
    ↔ kind.Silent Catalog.standard.fold (.parse html)
  resolved : ∀ kind : FixKind, kind.ruleId ∈ r.resolvedRules →
    kind.Silent Catalog.standard.fold (.parse r.fixed)
  counts : ∀ rule ∈ Catalog.standard.rules, rule.info ≠ .hardcodedSecret →
    (rule.run (.ofSource r.fixed none none)).length ≤ (rule.run (.ofSource html none none)).length

namespace Repairing

variable {html : List Char} {done kinds : List FixKind} {r : FixResult} {kind : FixKind}

theorem unchanged (hreads : (Document.parse html).KeepsReading) :
    Repairing html [] (.unchanged html) :=
  ⟨hreads, nofun, fun _ _ => Iff.rfl, nofun, fun _ _ _ => Nat.le_refl _⟩

/-- A repair that has nothing to do has had its turn. -/
theorem skip (h : Repairing html done r)
    (hkind : kind.Silent Catalog.standard.fold (.parse r.fixed) ∨ kind.Skips (.parse r.fixed)) :
    Repairing html (kind :: done) r := by
  refine ⟨h.reads, fun k hk => ?_, fun k hk => h.pending k fun hmem => hk (by simp [hmem]),
    h.resolved, h.counts⟩
  rcases List.mem_cons.1 hk with rfl | hk
  · exact hkind
  · exact h.settled k hk

/-- A repair that is applied has had its turn. -/
theorem apply (h : Repairing html done r) (hkind : kind ∉ done) {repair : Repair}
    (hrun : Repair.run kind Catalog.standard.fold Catalog.standard.defaultLang r.fixed
      = .ok (some repair)) : Repairing html (kind :: done) (r.apply kind repair) := by
  obtain ⟨⟨rev⟩, hsilent⟩ :=
    Repair.applied_of_readsOn (by decide) (List.all_eq_true.1 (by decide)) (h.reads kind) hrun
  refine ⟨?_, ?_, ?_, ?_, ?_⟩
  · intro k
    by_cases hne : k = kind
    · exact hne ▸ hsilent.readsOn
    · exact rev.readsOn hne (h.reads k)
  · intro k hk
    rcases List.mem_cons.1 hk with rfl | hk
    · exact .inl hsilent
    · have hne : k ≠ kind := fun heq => hkind (heq ▸ hk)
      exact (h.settled k hk).imp (rev.silent_iff hne _).2 rev.skips_iff.2
  · intro k hk
    obtain ⟨hne, hk⟩ : k ≠ kind ∧ k ∉ done := by simpa using hk
    exact (rev.silent_iff hne _).trans (h.pending k hk)
  · intro k hk
    by_cases hne : k = kind
    · exact hne ▸ hsilent
    · refine (rev.silent_iff hne _).2 (h.resolved k ?_)
      have hid : k.ruleId ≠ kind.ruleId := by
        revert hne
        cases k <;> cases kind <;> decide
      rw [FixResult.apply] at hk
      split at hk
      · exact hk
      · simpa [hid] using hk
  · intro rule hrule hsecret
    by_cases hfix : rule.info.fix = some kind
    · have hrun : rule.run (.ofSource (r.apply kind repair).fixed none none) = [] := by
        rw [Catalog.eq_rule_of_mem Catalog.ofConfig_empty hrule hfix]
        exact (kind.run_rule_eq_nil_iff _ _ none none).2 hsilent
      simp [hrun]
    · have hkeeps := rev.keeps_builtin hrule hfix hsecret
      exact Nat.le_trans (Nat.le_of_eq (hkeeps.length_run none none)) (h.counts rule hrule hsecret)

/-- The turn of a repair in the first pass. -/
theorem step (h : Repairing html done r) (hkind : kind ∉ done) (scorer : Scorer) :
    Repairing html (kind :: done) (if Validator.isDue kind html
      || (r.changed && Validator.isDue kind r.fixed) then (Validator.standard scorer).attempt r kind
        else r) := by
  have hdue : Validator.isDue kind html ↔ ¬kind.Silent Catalog.standard.fold (.parse r.fixed) := by
    rw [Validator.isDue_iff, h.pending kind hkind]
  have hdue' : Validator.isDue kind r.fixed
      ↔ ¬kind.Silent Catalog.standard.fold (.parse r.fixed) := Validator.isDue_iff
  by_cases hsilent : kind.Silent Catalog.standard.fold (.parse r.fixed)
  · rw [if_neg (by simp [hdue, hdue', hsilent])]
    exact h.skip (.inl hsilent)
  · rw [if_pos (by simp [hdue, hsilent])]
    obtain ⟨outcome, hrun, hnone⟩ := Repair.run_spec kind
      (Validator.standard scorer).catalog.fold (Validator.standard scorer).catalog.defaultLang r.fixed
    cases outcome with
    | none =>
      rw [Validator.attempt_of_none (v := Validator.standard scorer) hrun]
      exact h.skip (hnone.1 rfl)
    | some repair =>
      rw [Validator.attempt_of_some (v := Validator.standard scorer) hrun]
      exact h.apply hkind hrun

/-- The first pass gives every repair its turn. -/
theorem pass (h : Repairing html done r) (hnodup : kinds.Nodup) (hnew : ∀ kind ∈ kinds, kind ∉ done)
    (scorer : Scorer) : Repairing html (kinds.reverse ++ done) ((Validator.standard scorer).pass
      (fun r kind => Validator.isDue kind html || (r.changed && Validator.isDue kind r.fixed)) kinds
      r) := by
  induction kinds generalizing done r with
  | nil => exact h
  | cons kind kinds ih =>
    obtain ⟨hkind, hnodup⟩ := List.nodup_cons.1 hnodup
    have hstep := h.step (hnew kind (by simp)) scorer
    have hrest := ih hstep hnodup fun k hk hmem => by
      rcases List.mem_cons.1 hmem with rfl | hmem
      · exact hkind hk
      · exact hnew k (List.mem_cons_of_mem _ hk) hmem
    simpa [Validator.pass] using hrest

end Repairing

/-! ## Settling -/

/-- Whether an outcome leaves a repair nothing to do, and says nothing wrong about its rule. -/
def FixResult.Finished (fold : FoldPolicy) (r : FixResult) (kind : FixKind) : Prop :=
  kind.Silent fold (.parse r.fixed) ∨ kind.Skips (.parse r.fixed) ∧ kind.ruleId ∉ r.resolvedRules

namespace Validator

/-- What automatic repair makes of a text, for what is found in it. -/
def repaired (v : Validator) (html : List Char) : FixResult :=
  v.autoFix html (v.validate (.ofSource html none none))

/-- What it means that the automatic repair of a text settles. -/
structure Settles (v : Validator) (html : List Char) : Prop where
  /-- repairing the outcome does nothing -/
  again : v.repaired (v.repaired html).fixed = .unchanged (v.repaired html).fixed
  /-- no rule that was resolved finds anything -/
  resolved : ∀ id ∈ (v.repaired html).resolvedRules,
    (v.validate (.ofSource (v.repaired html).fixed none none)).countRule id = 0

variable {scorer : Scorer} {html : List Char}

/-- Automatic repair of a text that is read as it is written goes through all repairs once. -/
theorem repairing_repaired (hreads : (Document.parse html).KeepsReading) (scorer : Scorer) :
    Repairing html FixKind.order.reverse ((standard scorer).repaired html) := by
  have hstart := Repairing.unchanged hreads
  rw [repaired, autoFix_standard]
  split
  · have hfirst := hstart.pass (by decide : FixKind.order.Nodup) nofun scorer
    rw [List.append_nil] at hfirst
    dsimp only
    split
    · -- There is nothing left for the second pass.
      rw [pass_eq_self]
      · exact hfirst
      · intro kind _
        obtain ⟨outcome, hrun, hnone⟩ := Repair.run_spec kind (standard scorer).catalog.fold
          (standard scorer).catalog.defaultLang _
        rw [hrun, hnone.2 (hfirst.settled kind (List.mem_reverse.2 (mem_order kind)))]
    · exact hfirst
  · rename_i hdue
    have hsilent : ∀ kind : FixKind, kind.Silent Catalog.standard.fold (.parse html) := by
      intro kind
      by_contra hfires
      exact hdue (List.any_eq_true.2 ⟨kind, mem_order kind, isDue_iff.2 hfires⟩)
    exact ⟨hreads, fun kind _ => .inl (hsilent kind), fun _ _ => Iff.rfl,
      fun kind _ => hsilent kind, hstart.counts⟩

/-- Where texts are read as they are written, automatic repair leaves nothing to do. -/
theorem finished_of_keepsReading (hreads : (Document.parse html).KeepsReading) (scorer : Scorer)
    (kind : FixKind) : ((standard scorer).repaired html).Finished Catalog.standard.fold kind := by
  have hrepaired := repairing_repaired hreads scorer
  refine (hrepaired.settled kind (List.mem_reverse.2 (mem_order kind))).imp_right ?_
  intro hskips
  exact ⟨hskips, fun hmem => hskips.not_silent _ (hrepaired.resolved kind hmem)⟩

/-- What a result of validation counts for the rule of a repair. -/
theorem countRule_standard (kind : FixKind) :
    ((standard scorer).validate (.ofSource html none none)).countRule kind.ruleId = 0
      ↔ kind.Silent Catalog.standard.fold (.parse html) := by
  rw [← kind.id_rule Catalog.standard.fold,
    countRule_validate (describes_standard scorer) (rule_mem_standard kind), List.length_eq_zero_iff]
  exact kind.run_rule_eq_nil_iff _ _ none none

/-- A repair that is due and can be applied changes something. -/
theorem changed_repaired {kind : FixKind}
    (hfires : ¬kind.Silent Catalog.standard.fold (.parse html)) (hskips : ¬kind.Skips (.parse html)) :
    ((standard scorer).repaired html).changed := by
  have hdue := isDue_iff.2 hfires
  obtain ⟨outcome, hrun, hnone⟩ := Repair.run_spec kind (standard scorer).catalog.fold
    (standard scorer).catalog.defaultLang html
  obtain ⟨repair, rfl⟩ : ∃ repair, outcome = some repair :=
    Option.ne_none_iff_exists'.1 fun heq => (hnone.1 heq).elim hfires hskips
  rw [repaired, autoFix_standard, if_pos (List.any_eq_true.2 ⟨kind, mem_order kind, hdue⟩)]
  have hfirst : ((standard scorer).pass
      (fun r kind => isDue kind html || (r.changed && isDue kind r.fixed)) FixKind.order
      (.unchanged html)).changed :=
    changed_pass_of_due (mem_order kind) (by simp [hdue]) hrun
  dsimp only
  rw [if_pos hfirst]
  exact changed_pass hfirst

/-- Automatic repair settles exactly if the text is read as it is written, or else the outcome
happens to leave nothing to do. -/
theorem settles_iff (scorer : Scorer) (html : List Char) :
    (standard scorer).Settles html ↔ (Document.parse html).KeepsReading
      ∨ ∀ kind, ((standard scorer).repaired html).Finished Catalog.standard.fold kind := by
  constructor
  · intro hsettles
    refine .inr fun kind => ?_
    by_contra hleft
    obtain ⟨hfires, hskips⟩ := not_or.1 hleft
    by_cases hskip : kind.Skips (.parse ((standard scorer).repaired html).fixed)
    · have hresolved : kind.ruleId ∈ ((standard scorer).repaired html).resolvedRules := by
        by_contra hnew
        exact hskips ⟨hskip, hnew⟩
      exact hfires ((countRule_standard kind).1 (hsettles.resolved _ hresolved))
    · have hchanged : ((standard scorer).repaired _).changed := changed_repaired hfires hskip
      rw [hsettles.again] at hchanged
      cases hchanged
  · intro h
    have hfinished : ∀ kind, ((standard scorer).repaired html).Finished Catalog.standard.fold kind :=
      h.elim (fun hreads => finished_of_keepsReading hreads scorer) id
    constructor
    · exact autoFix_of_silent (v := standard scorer)
        (fun kind _ => (hfinished kind).imp_right And.left) _
    · intro id hid
      obtain ⟨kind, rfl⟩ := exists_kind_of_resolved hid
      exact (countRule_standard kind).2 ((hfinished kind).resolve_right fun h => h.2 hid)

/-- A link with a stray quote and a brace in its bare `rel` value, in front of an `html` tag. -/
def mangledLink : List Char := "<a href=//x.io target=_blank rel=a\"=\x7b><html>".toList

/-- The language is set and then swallowed: putting the `rel` value in quotes turns what follows its
stray quote into a braced expression that never ends, and the `html` tag lies in it. -/
theorem exists_unsettled : ¬(standard (.ofConfig {})).Settles mangledLink := by
  intro h
  have hresolved : "structure/html-lang"
      ∈ ((standard (.ofConfig {})).repaired mangledLink).resolvedRules := by
    rw [repaired, autoFix_standard]
    decide +kernel
  have hsilent := (countRule_standard .insertLang).1 (h.resolved _ hresolved)
  have hdue : isDue .insertLang ((standard (.ofConfig {})).repaired mangledLink).fixed := by
    rw [repaired, autoFix_standard]
    decide +kernel
  exact isDue_iff.1 hdue hsilent

end Validator

end MarkupGate
