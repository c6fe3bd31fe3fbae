import MarkupGate.Proofs.Catalog

/-!
# Passes of automatic repair

Automatic repair goes through the repairs twice. Each pass tries the repairs that are due, one after
another, and each try changes nothing or applies one repair. What a pass leads to is therefore settled
by what single repairs do.

* `Validator.attempt_cases`: what a try does.
* `pass_invariant`, `autoFix_invariant`: what every applied repair keeps is kept.
* `changed_pass_of_due`, `pass_eq_self`: when a pass changes something, and when it does not.
* `exists_active_of_resolved`: only rules that the catalog has are named as resolved.
-/

namespace MarkupGate

namespace Validator

variable {v : Validator} {r : FixResult} {kind : FixKind} {html : List Char}

/-! ## Passes -/

/-- Trying a repair changes nothing or applies it. -/
theorem attempt_cases (v : Validator) (r : FixResult) (kind : FixKind) :
    v.attempt r kind = r
      ∨ ∃ repair, Repair.run kind v.catalog.fold v.catalog.defaultLang r.fixed = .ok (some repair)
        ∧ v.attempt r kind = r.apply kind repair := by
  rw [attempt]
  split
  · rename_i repair hrun
    exact .inr ⟨repair, hrun, rfl⟩
  · exact .inl rfl
  · exact .inl rfl

/-- Trying the repairs that are due, one after another. -/
def pass (v : Validator) (due : FixResult → FixKind → Bool) (kinds : List FixKind) (r : FixResult) :
    FixResult :=
  kinds.foldl (fun r kind => if due r kind then v.attempt r kind else r) r

/-- The first pass tries what was found, and what is found once something has changed. -/
def firstDue (v : Validator) (result : ValidationResult) (r : FixResult) (kind : FixKind) : Bool :=
  result.hasRule kind.ruleId || (r.changed && v.stillFires kind r.fixed)

theorem firstPass_eq (v : Validator) (result : ValidationResult) (html : List Char) :
    v.firstPass result html = v.pass (v.firstDue result) v.activeFixes (.unchanged html) := rfl

theorem settle_eq (v : Validator) (r : FixResult) :
    v.settle r = v.pass (fun r kind => v.stillFires kind r.fixed) v.activeFixes r := rfl

variable {due : FixResult → FixKind → Bool} {kinds : List FixKind}

/-- A pass keeps whatever every repair that it may apply keeps. -/
theorem pass_invariant_of_mem (P : FixResult → Prop) (hstep : ∀ r, ∀ kind ∈ kinds, ∀ repair,
    P r → Repair.run kind v.catalog.fold v.catalog.defaultLang r.fixed = .ok (some repair) →
    P (r.apply kind repair)) (hr : P r) : P (v.pass due kinds r) := by
  induction kinds generalizing r with
  | nil => exact hr
  | cons kind kinds ih =>
    refine ih (fun r k hk => hstep r k (List.mem_cons_of_mem kind hk)) ?_
    dsimp only
    split
    · rcases v.attempt_cases r kind with hsame | ⟨repair, hrun, happly⟩
      · rwa [hsame]
      · rw [happly]
        exact hstep r kind (by simp) repair hr hrun
    · exact hr

/-- A pass keeps whatever every applied repair keeps. -/
theorem pass_invariant (P : FixResult → Prop) (hstep : ∀ r kind repair,
    P r → Repair.run kind v.catalog.fold v.catalog.defaultLang r.fixed = .ok (some repair) →
    P (r.apply kind repair)) (hr : P r) : P (v.pass due kinds r) :=
  pass_invariant_of_mem P (fun r kind _ => hstep r kind) hr

theorem changed_apply (r : FixResult) (kind : FixKind) (repair : Repair) :
    (r.apply kind repair).changed := by
  simp [FixResult.changed, FixResult.apply]

theorem changed_pass (hr : r.changed) : (v.pass due kinds r).changed :=
  pass_invariant (fun r => r.changed) (fun r kind repair _ _ => changed_apply r kind repair) hr

/-- Unless something is changed, a pass leaves everything as it was. -/
theorem pass_eq_or_changed (v : Validator) (due : FixResult → FixKind → Bool)
    (kinds : List FixKind) (r : FixResult) :
    v.pass due kinds r = r ∨ (v.pass due kinds r).changed :=
  pass_invariant (fun r' => r' = r ∨ r'.changed)
    (fun r kind repair _ _ => .inr (changed_apply r kind repair)) (.inl rfl)

/-- A repair that is not applied leaves everything as it is. -/
theorem attempt_of_none
    (h : Repair.run kind v.catalog.fold v.catalog.defaultLang r.fixed = .ok none) :
    v.attempt r kind = r := by
  rw [attempt, h]

/-- A repair that can be applied is applied. -/
theorem attempt_of_some {repair : Repair}
    (h : Repair.run kind v.catalog.fold v.catalog.defaultLang r.fixed = .ok (some repair)) :
    v.attempt r kind = r.apply kind repair := by
  rw [attempt, h]

/-- Where no repair is applied, a pass does nothing. -/
theorem pass_eq_self (h : ∀ kind ∈ kinds,
    Repair.run kind v.catalog.fold v.catalog.defaultLang r.fixed = .ok none) :
    v.pass due kinds r = r := by
  induction kinds with
  | nil => rfl
  | cons kind kinds ih =>
    have hstep : (if due r kind then v.attempt r kind else r) = r := by
      rw [attempt_of_none (h kind (by simp)), ite_self]
    rw [pass, List.foldl_cons, hstep]
    exact ih fun k hk => h k (List.mem_cons_of_mem _ hk)

/-- A repair that is due and can be applied changes something, if nothing before it does. -/
theorem changed_pass_of_due (hmem : kind ∈ kinds) (hdue : due r kind) {repair : Repair}
    (hrun : Repair.run kind v.catalog.fold v.catalog.defaultLang r.fixed = .ok (some repair)) :
    (v.pass due kinds r).changed := by
  obtain ⟨before, behind, rfl⟩ := List.append_of_mem hmem
  have hsplit : v.pass due (before ++ kind :: behind) r
      = v.pass due (kind :: behind) (v.pass due before r) := List.foldl_append
  rw [hsplit]
  rcases v.pass_eq_or_changed due before r with hsame | hchanged
  · rw [hsame, pass, List.foldl_cons, if_pos hdue, attempt_of_some hrun]
    exact changed_pass (changed_apply r kind repair)
  · exact changed_pass hchanged

/-- Whatever every repair of the catalog keeps holds of what automatic repair leads to. -/
theorem autoFix_invariant (P : FixResult → Prop) (hstep : ∀ r, ∀ kind ∈ v.activeFixes, ∀ repair,
    P r → Repair.run kind v.catalog.fold v.catalog.defaultLang r.fixed = .ok (some repair) →
    P (r.apply kind repair)) (hhtml : P (.unchanged html)) (result : ValidationResult) :
    P (v.autoFix html result) := by
  have hfirst : P (v.firstPass result html) := pass_invariant_of_mem P hstep hhtml
  rw [autoFix]
  split
  · exact hhtml
  · dsimp only
    split
    · exact pass_invariant_of_mem P hstep hfirst
    · exact hfirst

/-- Only rules of repairs that the catalog has are named as resolved. -/
theorem exists_active_of_resolved {result : ValidationResult} {id : String}
    (h : id ∈ (v.autoFix html result).resolvedRules) : ∃ kind ∈ v.activeFixes, id = kind.ruleId := by
  refine autoFix_invariant
    (fun r => ∀ id ∈ r.resolvedRules, ∃ kind ∈ v.activeFixes, id = kind.ruleId)
    (fun r kind hkind repair hr _ id hid => ?_) nofun result id h
  rw [FixResult.apply] at hid
  split at hid
  · exact hr id hid
  · rcases List.mem_append.1 hid with hid | hid
    · exact hr id hid
    · exact ⟨kind, hkind, List.mem_singleton.1 hid⟩

theorem exists_kind_of_resolved {result : ValidationResult} {id : String}
    (h : id ∈ (v.autoFix html result).resolvedRules) : ∃ kind : FixKind, id = kind.ruleId := by
  obtain ⟨kind, -, hid⟩ := exists_active_of_resolved h
  exact ⟨kind, hid⟩

/-- A repair that the catalog has belongs to a rule that it has. -/
theorem exists_rule_of_active (h : kind ∈ v.activeFixes) :
    ∃ rule ∈ v.catalog.rules, rule.id = kind.ruleId ∧ rule.info.fix = some kind := by
  have hfix : v.catalog.fixFor? kind.ruleId = some kind := by
    simpa using (List.mem_filter.1 h).2
  obtain ⟨rule, hrule, hkind⟩ := Option.bind_eq_some_iff.1 hfix
  obtain ⟨hmem, hid⟩ := Catalog.rule?_eq_some.1 hrule
  exact ⟨rule, hmem, hid, hkind⟩

end Validator

end MarkupGate
