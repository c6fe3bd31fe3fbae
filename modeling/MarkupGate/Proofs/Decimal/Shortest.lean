import Mathlib
import MarkupGate.Proofs.Decimal.Exact

/-!
# Shortest decimals read back

The doubles from zero to one, written in their shortest decimal. A decimal that the search finds
reads back because that is what it is searched for, and the decimal written where the search finds
none is exact. Below one every such decimal has digits behind its point; zero, zero with a minus sign
and one are themselves.

* `unit_cases`: the doubles from zero to one.
* `shortestText_cases`: what is written for them, and that it reads back.
-/

namespace MarkupGate

open Float.Model Float.Model.UnpackedFloat

variable {x y : Float} {m k : Nat} {hm : 0 < m}

/-! ## The doubles from zero to one -/

/-- A double is known by its parts. -/
theorem eq_of_parts (h : x.toModel.unpack = y.toModel.unpack) : x = y := calc
  x = ⟨Float.Model.pack x.toModel.unpack⟩ := (Float.ofBits_toBits x).symm
  _ = ⟨Float.Model.pack y.toModel.unpack⟩ := by rw [h]
  _ = y := Float.ofBits_toBits y

theorem parts_zero : (0.0 : Float).toModel.unpack = .zero .positive := rfl

theorem parts_neg_zero : (-0.0 : Float).toModel.unpack = .zero .negative := rfl

theorem parts_one : (1.0 : Float).toModel.unpack = .finite .positive (2 ^ 52) (-52) (by decide) :=
  rfl

/-- A double from zero to one is zero or one, or its last bit lies far behind the point. -/
theorem unit_cases (h0 : 0.0 ≤ x) (h1 : x ≤ 1.0) : x = 0.0 ∨ x = -0.0 ∨ x = 1.0
    ∨ ∃ m k hm, x.toModel.unpack = .finite .positive m (-(k : Nat)) hm ∧ 53 ≤ k := by
  have h0 : UnpackedFloat.le (0.0 : Float).toModel.unpack x.toModel.unpack = true :=
    of_decide_eq_true h0
  have h1 : UnpackedFloat.le x.toModel.unpack (1.0 : Float).toModel.unpack = true :=
    of_decide_eq_true h1
  rw [parts_zero] at h0
  rw [parts_one] at h1
  cases hx : x.toModel.unpack with
  | notANumber =>
    rw [hx] at h0
    cases h0
  | infinity s =>
    rw [hx] at h0 h1
    cases s with
    | positive => cases h1
    | negative => cases h0
  | zero s =>
    cases s with
    | positive => exact .inl (eq_of_parts (hx.trans parts_zero.symm))
    | negative => exact .inr (.inl (eq_of_parts (hx.trans parts_neg_zero.symm)))
  | finite s m e hm =>
    rw [hx] at h0 h1
    cases s with
    | negative => cases h0
    | positive =>
      have hcanonical := canonical_of_toModel hx
      have hfull := hcanonical.full
      have hle : ((compare e (-52)).then (compare m (2 ^ 52))).isLE = true := h1
      rcases lt_trichotomy e (-52) with hlt | heq | hgt
      · obtain ⟨k, rfl⟩ : ∃ k : Nat, e = -k := ⟨(-e).toNat, by omega⟩
        exact .inr (.inr (.inr ⟨m, k, hm, rfl, by omega⟩))
      · subst heq
        have hm52 : m = 2 ^ 52 := by
          have hge : 2 ^ 52 ≤ m := hfull.resolve_right (by decide)
          have hcompare : (compare m (2 ^ 52)).isLE = true := hle
          exact le_antisymm (Nat.isLE_compare.mp hcompare) hge
        subst hm52
        exact .inr (.inr (.inl (eq_of_parts (hx.trans parts_one.symm))))
      · rw [compare_gt_iff_gt.mpr hgt] at hle
        cases hle

/-! ## The search -/

theorem abs_of_parts (hx : x.toModel.unpack = .finite .positive m (-k) hm) : x.abs = x := by
  have habs : x.toModel.unpack.abs = x.toModel.unpack := by
    rw [hx]
    rfl
  calc x.abs = ⟨Float.Model.pack x.toModel.unpack.abs⟩ := rfl
    _ = ⟨Float.Model.pack x.toModel.unpack⟩ := by rw [habs]
    _ = x := Float.ofBits_toBits x

theorem parts_nearestFloat_zero : (nearestFloat 0 0).toModel.unpack = .zero .positive := rfl

theorem nearestFloat_one : nearestFloat 1 0 = 1.0 := by
  rw [← Float.toBits_inj]
  decide +kernel

/-- On a grid of tens or finer, a decimal that reads as a double between zero and one has digits
behind its point: without any it would be zero or one. -/
theorem exponent_neg_of_mem_neighbours (hx : x.toModel.unpack = .finite .positive m (-k) hm)
    (hk : 53 ≤ k) {exponent : Int} (hexponent : exponent ≤ 0) {d : DecimalNumber}
    (hd : d ∈ neighbours m (2 ^ k) exponent) (hreads : nearestFloat d.coefficient d.exponent = x) :
    d.exponent < 0 := by
  have hlt : m < 2 ^ k :=
    lt_of_lt_of_le (canonical_of_toModel hx).lt (Nat.pow_le_pow_right (by decide) hk)
  have hgrid : d.exponent = exponent := by
    simp only [neighbours] at hd
    split_ifs at hd
    · rcases List.mem_pair.mp hd with rfl | rfl
      · rfl
      · rfl
    · rcases List.mem_pair.mp hd with rfl | rfl
      · rfl
      · rfl
  rw [hgrid]
  apply lt_of_le_of_ne hexponent
  rintro rfl
  have hbelow : m * Nat.pow 10 (-(0 : Int)).toNat / (2 ^ k * Nat.pow 10 (0 : Int).toNat) = 0 := by
    change m * 1 / (2 ^ k * 1) = 0
    rw [mul_one, mul_one]
    exact Nat.div_eq_of_lt hlt
  have hd : d = ⟨0, 0⟩ ∨ d = ⟨1, 0⟩ := by
    simp only [neighbours, hbelow] at hd
    split_ifs at hd
    · exact List.mem_pair.mp hd
    · exact (List.mem_pair.mp hd).symm
  rcases hd with rfl | rfl
  · rw [← hreads, parts_nearestFloat_zero] at hx
    cases hx
  · rw [← hreads, nearestFloat_one, parts_one] at hx
    injection hx with hsign hmantissa hlast
    omega

/-- The decimal that is written for a double below one reads as the double, and it has digits behind
its point. -/
theorem shortestDecimal_reads (hx : x.toModel.unpack = .finite .positive m (-k) hm) (hk : 53 ≤ k)
    {d : DecimalNumber} (hd : shortestDecimal m (-k) x.toBits = d) :
    d.exponent < 0 ∧ nearestFloat d.coefficient d.exponent = x := by
  have hlt : m < 2 ^ k :=
    lt_of_lt_of_le (canonical_of_toModel hx).lt (Nat.pow_le_pow_right (by decide) hk)
  have hnum : m * Nat.pow 2 (-(k : Int)).toNat = m := by
    have hzero : (-(k : Int)).toNat = 0 := by omega
    rw [hzero]
    exact Nat.mul_one m
  have hden : Nat.pow 2 (- -(k : Int)).toNat = 2 ^ k := by
    rw [neg_neg, Int.toNat_natCast]
    rfl
  have hfive : Nat.pow 5 (- -(k : Int)).toNat = 5 ^ k := by
    rw [neg_neg, Int.toNat_natCast]
    rfl
  have hleading : leadingExponent m (2 ^ k) + 1 ≤ 0 := by
    have hpos : 0 < (decimalDigits ((2 ^ k - 1) / m)).length := Nat.length_toDigits_pos
    rw [leadingExponent, if_neg (by omega)]
    omega
  simp only [shortestDecimal, hnum, hden, hfive] at hd
  generalize hfound : List.find? _ _ = found at hd
  cases found with
  | some d' =>
    cases hd
    -- The search tests for each decimal whether it reads back.
    have hreads : nearestFloat d'.coefficient d'.exponent = x := by
      have h := List.find?_some hfound
      simpa [DecimalNumber.readsBack, Float.toBits_inj] using h
    obtain ⟨n, -, hmem⟩ := List.mem_flatMap.mp (List.mem_of_find?_eq_some hfound)
    exact ⟨exponent_neg_of_mem_neighbours hx hk (by omega) hmem hreads, hreads⟩
  | none =>
    cases hd
    have hmin : min (-(k : Int)) 0 = -k := by omega
    simp only [Option.getD_none, hmin]
    exact ⟨by omega, nearestFloat_exact hx (by omega) hlt.le⟩

/-- What is written for a double from zero to one: a decimal with digits behind its point that reads
as the double, or zero with a minus sign. -/
theorem shortestText_cases (h0 : 0.0 ≤ x) (h1 : x ≤ 1.0) :
    (x = -0.0 ∧ shortestText ".0" x = ['-', '0', '.', '0'])
    ∨ ∃ c places : Nat, 0 < places ∧ shortestText ".0" x = pointText places c
      ∧ nearestFloat c (-places) = x := by
  rcases unit_cases h0 h1 with rfl | rfl | rfl | ⟨m, k, hm, hx, hk⟩
  · refine .inr ⟨0, 1, by decide, by decide +kernel, ?_⟩
    rw [← Float.toBits_inj]
    decide +kernel
  · exact .inl ⟨rfl, by decide +kernel⟩
  · refine .inr ⟨10, 1, by decide, by decide +kernel, ?_⟩
    rw [← Float.toBits_inj]
    decide +kernel
  · obtain ⟨d, hd⟩ : ∃ d, shortestDecimal m (-k) x.toBits = d := ⟨_, rfl⟩
    obtain ⟨hneg, hreads⟩ := shortestDecimal_reads hx hk hd
    have hvalue : BinaryValue.ofFloat x = .finite false m (-k) := by
      rw [BinaryValue.ofFloat_eq, hx]
      rfl
    refine .inr ⟨d.coefficient, d.exponent.natAbs, by omega, ?_, ?_⟩
    · simp only [shortestText, hvalue, shortestFinite, abs_of_parts hx, hd, DecimalNumber.text]
      rw [if_neg hm.ne', if_pos hneg, if_pos hneg, if_neg (by decide), List.nil_append,
        List.append_nil]
    · rw [← hreads]
      congr 1
      omega

end MarkupGate
