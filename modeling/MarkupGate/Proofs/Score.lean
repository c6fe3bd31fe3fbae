import Mathlib
import MarkupGate.Score

/-!
# What scores depend on

The weights of findings are added up in a counter that stops at its largest value, and what is left
of a hundred points stops at zero. Neither stop is ever seen in how scores go together: a score
depends on the sum of the weights alone.

* `Scorer.deduction_eq`: findings cost the sum of their weights, as far as it is counted.
* `Scorer.score_perm`: the order of findings does not matter.
* `Scorer.points_append`: two lists of findings cost together what they cost each.
* `Scorer.score_only_falls`: a finding more takes its weight wherever it is put in, and nothing gets
  better by it, in whatever order the cut-offs stand.
-/

namespace MarkupGate

/-- Only an error can fail a page outright. -/
theorem Severity.tier_of_isAutoFail {s : Severity} (h : s.isAutoFail) : s.tier = .error := by
  simp only [isAutoFail, decide_eq_true_eq] at h
  rw [h]

namespace Scorer

variable {fs gs : List Finding}

/-- What findings cost together is the sum of their weights, as far as it is counted. -/
theorem deduction_eq (fs : List Finding) :
    deduction fs = min (fs.map fun f => f.severity.weight).sum maxDeduction := by
  have hfold : ∀ (fs : List Finding) (sum : Nat), sum ≤ maxDeduction →
      fs.foldl (fun sum f => min (sum + f.severity.weight) maxDeduction) sum
        = min (sum + (fs.map fun f => f.severity.weight).sum) maxDeduction := by
    intro fs
    induction fs with
    | nil =>
      intro sum hsum
      simp [hsum]
    | cons f fs ih =>
      intro sum hsum
      rw [List.foldl_cons, ih _ (Nat.min_le_right _ _), List.map_cons, List.sum_cons]
      omega
  rw [deduction, hfold fs 0 (Nat.zero_le _), Nat.zero_add]

theorem points_le (fs : List Finding) : points fs ≤ 100 := Nat.sub_le 100 _

/-- Findings in another order score the same. -/
theorem score_perm (s : Scorer) (h : fs.Perm gs) : s.score fs = s.score gs := by
  have hpoints : points fs = points gs := by
    rw [points, points, deduction_eq, deduction_eq, (h.map _).sum_eq]
  have hfail : (fs.any fun f => f.severity.isAutoFail) = gs.any fun f => f.severity.isAutoFail :=
    h.any_eq
  rw [score, score, hpoints, hfail]

/-- What two lists of findings take from a hundred points they take together, down to zero. The
counter stops far above a hundred, so that it makes no difference where it stops. -/
theorem points_append (fs gs : List Finding) :
    (points (fs ++ gs) : ℤ) = max 0 (points fs + points gs - 100) := by
  simp only [points, deduction_eq, List.map_append, List.sum_append, maxDeduction]
  omega

/-! ## More findings -/

/-- What a score still has to lose is at most a hundred points, far below where the counter stops. -/
theorem points_insert (fs gs : List Finding) (f : Finding) :
    (points (fs ++ f :: gs) : ℤ) = max 0 (points (fs ++ gs) - f.severity.weight) := by
  simp only [points, deduction_eq, List.map_append, List.map_cons, List.sum_append, List.sum_cons,
    maxDeduction]
  omega

/-- Of two scores the lower one has no better grade: it reaches no cut-off that the higher one
misses, so the first that it reaches is no earlier one. -/
theorem rank_grade_le (s : Scorer) {m n : Nat} (h : m ≤ n) : (s.grade n).rank ≤ (s.grade m).rank := by
  have hreach : ∀ cutoff, cutoff ≤ m → cutoff ≤ n := fun _ hm => Nat.le_trans hm h
  have ha := hreach s.cutoffA
  have hb := hreach s.cutoffB
  have hc := hreach s.cutoffC
  have hd := hreach s.cutoffD
  unfold grade
  split_ifs <;> simp_all [Grade.rank]

/-- A critical error fails the page wherever it stands among the findings. -/
theorem passed_eq_false (s : Scorer) {f : Finding} (hf : f ∈ fs) (h : f.severity.isAutoFail) :
    (s.score fs).passed = false := by
  have hany : (fs.any fun f => f.severity.isAutoFail) = true := List.any_eq_true.2 ⟨f, hf, h⟩
  simp [score, hany]

/-- Findings among which there are others score no better than these. -/
theorem score_subperm (s : Scorer) (h : fs.Subperm gs) :
    (s.score gs).points ≤ (s.score fs).points
      ∧ (s.score fs).grade.rank ≤ (s.score gs).grade.rank
      ∧ ((s.score gs).passed → (s.score fs).passed) := by
  obtain ⟨hs, hperm, hsub⟩ := h
  have hsum : (hs.map fun f => f.severity.weight).sum ≤ (gs.map fun f => f.severity.weight).sum :=
    (hsub.map _).sum_le_sum fun _ _ => Nat.zero_le _
  have hpoints : points gs ≤ points fs := by
    have hfs : points hs = points fs := congrArg Score.points (s.score_perm hperm)
    rw [← hfs, points, points, deduction_eq, deduction_eq]
    omega
  refine ⟨hpoints, s.rank_grade_le hpoints, fun hpassed => ?_⟩
  simp only [score, Bool.and_eq_true, decide_eq_true_eq, Bool.not_eq_true', List.any_eq_false] at *
  exact ⟨Nat.le_trans hpassed.1 hpoints, fun f hf => hpassed.2 f (hsub.subset (hperm.mem_iff.2 hf))⟩

/-- Whatever the threshold and the cut-offs are, a finding more takes its weight from the score wherever
it is put in, down to zero; neither the grade nor the verdict gets better by it; a critical error
anywhere fails the page; and the order of the findings does not matter. However long a list is, it
scores no better than any part of it. -/
theorem score_only_falls (s : Scorer) (fs gs : List Finding) :
    (∀ f : Finding,
        ((s.score (fs ++ f :: gs)).points : ℤ)
            = max 0 ((s.score (fs ++ gs)).points - f.severity.weight)
          ∧ (s.score (fs ++ gs)).grade.rank ≤ (s.score (fs ++ f :: gs)).grade.rank
          ∧ ((s.score (fs ++ f :: gs)).passed → (s.score (fs ++ gs)).passed))
      ∧ (∀ f ∈ fs, f.severity = ⟨.error, .critical⟩ → (s.score fs).passed = false)
      ∧ (fs.Perm gs → s.score fs = s.score gs)
      ∧ (fs.Subperm gs → (s.score gs).points ≤ (s.score fs).points) := by
  refine ⟨fun f => ⟨points_insert fs gs f, ?_⟩, fun f hf hcritical => ?_, s.score_perm,
    fun h => (s.score_subperm h).1⟩
  · have hinsert : (fs ++ gs).Sublist (fs ++ f :: gs) :=
      (List.Sublist.refl fs).append (List.sublist_cons_self f gs)
    exact (s.score_subperm hinsert.subperm).2
  · exact s.passed_eq_false hf (by simp [Severity.isAutoFail, hcritical])

/-- A scorer whose cut-offs are in no order, so that it gives no B. -/
def crookedScorer : Scorer := ⟨70, 95, 99, 60, 80⟩

/-- A critical error takes fifteen points from a page with another finding, and the verdict; the other
way round the two score the same. -/
theorem score_only_falls_crookedScorer :
    let hidden := Finding.ofRule .imgLazyLoading "image loads eagerly" (some 7)
    let critical := Finding.ofRule .unsafeSink "eval" none
    crookedScorer.score [hidden] = ⟨98, .a, true⟩
      ∧ ((crookedScorer.score [critical, hidden]).points : ℤ)
        = max 0 ((crookedScorer.score [hidden]).points - 15)
      ∧ (crookedScorer.score [critical, hidden]).passed = false
      ∧ crookedScorer.score [critical, hidden] = crookedScorer.score [hidden, critical]
      ∧ (crookedScorer.score [critical, hidden]).points ≤ (crookedScorer.score [hidden]).points
      ∧ crookedScorer.score [hidden, critical] = ⟨83, .c, false⟩ := by
  intro hidden critical
  have hlaws := crookedScorer.score_only_falls [critical, hidden] [hidden, critical]
  refine ⟨by decide, ((crookedScorer.score_only_falls [] [hidden]).1 critical).1, ?_, ?_, ?_, by decide⟩
  · exact hlaws.2.1 critical (by simp) rfl
  · exact hlaws.2.2.1 (List.Perm.swap hidden critical [])
  · have hpart : [hidden].Subperm [critical, hidden] := (List.sublist_cons_self critical _).subperm
    exact (crookedScorer.score_only_falls [hidden] [critical, hidden]).2.2.2 hpart

end Scorer

end MarkupGate
