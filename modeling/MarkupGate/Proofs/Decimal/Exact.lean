import Mathlib
import MarkupGate.Decimal.Shortest

/-!
# Decimals that are exact

A double below one is a number times a negative power of two, and so it is also a decimal: `m` times
two to the `-k` is `m` times five to the `k`, times ten to the `-k`. Reading this decimal divides
without a remainder, whatever number of bits the division asks for, and rounding changes nothing: the
double is found again.

* `BinaryValue.ofFloat_eq`: the exact value of a double is that of its parts.
* `ofScientific_exact`: an exact decimal reads as the double.
-/

namespace MarkupGate

open Float.Model Float.Model.UnpackedFloat

/-! ## The parts of a double -/

/-- What it means that a mantissa and an exponent are those of a double: the mantissa has at most 53
bits, and exactly 53 unless the exponent is the least one. -/
structure Canonical (m : Nat) (e : Int) : Prop where
  pos : 0 < m
  lt : m < 2 ^ 53
  least : -1074 ≤ e
  full : 2 ^ 52 ≤ m ∨ e = -1074

section Bits

variable (b : BitVec Format.binary64.numBits)

theorem toNat_unpackMantissa :
    (unpackMantissa b).toNat = b.toNat % 2 ^ 52 := by
  rw [unpackMantissa_def, BitVec.extractLsb'_toNat]
  rfl

theorem toNat_unpackExponent :
    (unpackExponent b).toNat = b.toNat >>> 52 % 2048 := by
  rw [unpackExponent_def, BitVec.extractLsb'_toNat]
  rfl

theorem ofBitVec_unpackSign :
    (Sign.ofBitVec (unpackSign b) == .negative)
      = decide (b.toNat >>> 63 % 2 = 1) := by
  have h : (unpackSign b).toNat = b.toNat >>> 63 % 2 := by
    rw [unpackSign_def, BitVec.extractLsb'_toNat]
    rfl
  rw [← h]
  generalize unpackSign b = sign
  rcases BitVec.eq_zero_or_eq_one sign with rfl | rfl
  · rfl
  · rfl

theorem unpackMantissa_eq_zero_iff :
    unpackMantissa b = 0#_ ↔ b.toNat % 2 ^ 52 = 0 := by
  rw [← BitVec.toNat_inj, toNat_unpackMantissa]
  rfl

theorem unpackExponent_eq_zero_iff :
    unpackExponent b = 0#_ ↔ b.toNat >>> 52 % 2048 = 0 := by
  rw [← BitVec.toNat_inj, toNat_unpackExponent]
  rfl

theorem unpackExponent_eq_ones_iff :
    unpackExponent b = -1#_ ↔ b.toNat >>> 52 % 2048 = 2047 := by
  rw [← BitVec.toNat_inj, toNat_unpackExponent]
  rfl

theorem toNat_implicit_append :
    (1#1 ++ unpackMantissa b).toNat = 2 ^ 52 + b.toNat % 2 ^ 52 := by
  rw [BitVec.toNat_append, ← Nat.shiftLeft_add_eq_or_of_lt (BitVec.isLt _), toNat_unpackMantissa]
  rfl

end Bits

/-- The exact value of a double in parts. -/
def BinaryValue.ofParts : Float.Model.UnpackedFloat → BinaryValue
  | .notANumber => .nan
  | .infinity s => .infinite (s == .negative)
  | .zero s => .finite (s == .negative) 0 (-1074)
  | .finite s m e _ => .finite (s == .negative) m e

/-- The exact value of some bits is that of their parts. -/
theorem BinaryValue.ofBits_eq (b : UInt64) :
    BinaryValue.ofBits b.toNat
      = .ofParts (Float.Model.UnpackedFloat.unpack Format.binary64 b.toBitVec) := by
  have hsign := ofBitVec_unpackSign b.toBitVec
  have hmantissa := unpackMantissa_eq_zero_iff b.toBitVec
  have hones := unpackExponent_eq_ones_iff b.toBitVec
  have hzero := unpackExponent_eq_zero_iff b.toBitVec
  have hvalue := toNat_unpackExponent b.toBitVec
  have himplicit := toNat_implicit_append b.toBitVec
  have hlow := toNat_unpackMantissa b.toBitVec
  simp only [UInt64.toNat_toBitVec] at *
  unfold BinaryValue.ofBits Float.Model.UnpackedFloat.unpack
  simp only [hones, hzero, hmantissa, Nat.one_shiftLeft]
  have hbias : Format.binary64.exponentBias = 1023 := rfl
  split_ifs with hlast hfraction hfirst hfraction
  · exact congrArg infinite hsign.symm
  · rfl
  · simp only [ofParts, hsign, hfraction]
  · simp only [ofParts, hsign, hlow, hvalue, hfirst, hbias]
    rfl
  · simp only [ofParts, hsign, himplicit, hvalue, hbias]
    rfl

/-- The exact value of a double is that of its parts. -/
theorem BinaryValue.ofFloat_eq (x : Float) : BinaryValue.ofFloat x = .ofParts x.toModel.unpack :=
  ofBits_eq x.toBits

/-- A finite double has a mantissa and an exponent of the right size. -/
theorem canonical_of_unpack {b : UInt64} {s : Sign} {m : Nat} {e : Int} {hm : 0 < m}
    (h : Float.Model.UnpackedFloat.unpack Format.binary64 b.toBitVec = .finite s m e hm) :
    Canonical m e := by
  have hmantissa := unpackMantissa_eq_zero_iff b.toBitVec
  have hzero := unpackExponent_eq_zero_iff b.toBitVec
  have hvalue := toNat_unpackExponent b.toBitVec
  have himplicit := toNat_implicit_append b.toBitVec
  have hlow := toNat_unpackMantissa b.toBitVec
  have hbias : Format.binary64.exponentBias = 1023 := rfl
  have hlt : b.toBitVec.toNat % 2 ^ 52 < 2 ^ 52 := Nat.mod_lt _ (by decide)
  unfold Float.Model.UnpackedFloat.unpack at h
  simp only at h
  split_ifs at h with hlast hfraction hfirst hfraction
  -- The numbers with the least exponent have no leading bit, all others have one.
  · cases h
    rw [hzero] at hfirst
    rw [hvalue, hfirst, hlow, hbias]
    exact ⟨hlow ▸ hm, by omega, by decide, .inr (by decide)⟩
  · cases h
    rw [hzero] at hfirst
    rw [hvalue, himplicit, hbias]
    refine ⟨by omega, by omega, ?_, .inl (by omega)⟩
    have hpos := Nat.pos_of_ne_zero hfirst
    change -1074 ≤ ((b.toBitVec.toNat >>> 52 % 2048 : Nat) : Int) - (1023 + 52)
    omega

/-! ## Division without a remainder -/

theorem log2_mul_two_pow {m : Nat} (hm : 0 < m) (s : Nat) : (m * 2 ^ s).log2 = m.log2 + s := by
  induction s with
  | zero => simp
  | succ s ih =>
    have hne : m * 2 ^ s ≠ 0 := by positivity
    rw [pow_succ, ← mul_assoc, mul_comm, Nat.log2_two_mul hne, ih]
    rfl

theorem log2_mul_le {m n : Nat} (hm : 0 < m) (hn : 0 < n) : (m * n).log2 ≤ m.log2 + n.log2 + 1 := by
  have hlt : (m * n).log2 < m.log2 + n.log2 + 2 := by
    rw [Nat.log2_lt (by positivity)]
    have h := Nat.mul_lt_mul'' (Nat.lt_log2_self (n := m)) (Nat.lt_log2_self (n := n))
    calc m * n < 2 ^ (m.log2 + 1) * 2 ^ (n.log2 + 1) := h
      _ = 2 ^ (m.log2 + n.log2 + 2) := by rw [← pow_add]; congr 1; omega
  omega

theorem targetExponent_binary64 (e : Int) :
    Format.binary64.targetExponent e = max (e - 53) (-1074) := rfl

theorem ten_pow (k : Nat) : 10 ^ k = 5 ^ k * 2 ^ k := Nat.mul_pow 5 2 k

/-- The bits of a mantissa say which exponent it is rounded to. -/
theorem Canonical.targetExponent {m : Nat} {e : Int} (h : Canonical m e) (s : Nat) :
    Format.binary64.targetExponent (totalExponent (m * 2 ^ s) (e - s)) = e := by
  have hlt : m.log2 < 53 := (Nat.log2_lt h.pos.ne').mpr h.lt
  have hleast := h.least
  rw [targetExponent_binary64, totalExponent, log2_mul_two_pow h.pos]
  rcases h.full with hfull | hfull
  · have hge : 52 ≤ m.log2 := (Nat.le_log2 h.pos.ne').mpr hfull
    omega
  · omega

/-- Shifting zeros out of a mantissa loses nothing. -/
theorem shiftRight_exact (m s : Nat) :
    ExtendedMantissa.ofMantissaAndAccuracy (m * 2 ^ s) .exact >>> s = ⟨m, false, false⟩ := by
  change s.repeat ExtendedMantissa.shiftRightOne _ = _
  -- The last shift comes first in the recursion: its zero is one of the mantissa that is left.
  induction s generalizing m with
  | zero => simp [Nat.repeat, ExtendedMantissa.ofMantissaAndAccuracy]
  | succ s ih =>
    have hassoc : m * 2 ^ (s + 1) = (m * 2) * 2 ^ s := by rw [pow_succ]; ring
    rw [Nat.repeat, hassoc, ih]
    simp [ExtendedMantissa.shiftRightOne]

theorem Canonical.shiftToTargetExponent {m : Nat} {e : Int} (h : Canonical m e) (s : Nat) :
    shiftToTargetExponent Format.binary64 (m * 2 ^ s) (e - s) .exact
      = (⟨m, false, false⟩, e) := by
  have hshift : (e - (e - s)).toNat = s := by omega
  simp only [Float.Model.UnpackedFloat.shiftToTargetExponent, h.targetExponent s, shiftToExponent,
    hshift, shiftRight_exact, Prod.mk.injEq, true_and]
  omega

/-- Rounding a mantissa of the right size changes nothing, whatever zeros stand behind it. -/
theorem Canonical.roundWithAccuracy {m : Nat} {e : Int} (h : Canonical m e) (sign : Sign) (s : Nat) :
    roundWithAccuracy Format.binary64 sign (m * 2 ^ s) (e - s) .exact
      = .finite sign m e h.pos := by
  have hagain := h.shiftToTargetExponent 0
  simp only [pow_zero, mul_one, Nat.cast_zero, sub_zero] at hagain
  have hrounded : (ExtendedMantissa.mk m false false).roundedMantissa = m := rfl
  simp only [Float.Model.UnpackedFloat.roundWithAccuracy, h.shiftToTargetExponent s, hrounded,
    hagain]
  exact dif_neg h.pos.ne'

/-- The decimal that is a double divides without a remainder into the mantissa of the double, with
zeros behind it. -/
theorem Canonical.divCore {m k : Nat} (h : Canonical m (-k)) :
    ∃ s : Nat, divCore Format.binary64 (m * 5 ^ k) 0 (10 ^ k) 0
      = (m * 2 ^ s, (-k : Int) - s, .exact) := by
  -- The division asks for enough bits, at least down to the last bit of the double.
  have htarget : min (0 - 0) (Format.binary64.targetExponent
      (totalExponent (m * 5 ^ k) 0 - totalExponent (10 ^ k) 0)) ≤ -(k : Int) := by
    have hlt : m.log2 < 53 := (Nat.log2_lt h.pos.ne').mpr h.lt
    have hleast := h.least
    have hlog : (10 ^ k).log2 = (5 ^ k).log2 + k := by
      rw [ten_pow, log2_mul_two_pow (by positivity)]
    have hmul := log2_mul_le h.pos (n := 5 ^ k) (by positivity)
    rw [targetExponent_binary64, totalExponent, totalExponent, hlog]
    omega
  generalize htdef : min (0 - 0) (Format.binary64.targetExponent
      (totalExponent (m * 5 ^ k) 0 - totalExponent (10 ^ k) 0)) = t at htarget
  obtain ⟨s, hs⟩ : ∃ s : Nat, t = -k - s := ⟨(-k - t).toNat, by omega⟩
  have hshift : (0 - 0 - t).toNat = k + s := by omega
  have hnum : (m * 5 ^ k) <<< (k + s) = (m * 2 ^ s) * 10 ^ k := by
    rw [Nat.shiftLeft_eq, ten_pow, pow_add]
    ring
  refine ⟨s, ?_⟩
  simp only [Float.Model.UnpackedFloat.divCore, htdef, hshift, hnum]
  rw [Nat.mul_div_cancel _ (by positivity), Nat.mul_mod_left, hs]
  rfl

/-! ## Reading the decimal -/

variable {x : Float} {m k : Nat} {hm : 0 < m}

theorem canonical_of_toModel {s : Sign} {e : Int} (hx : x.toModel.unpack = .finite s m e hm) :
    Canonical m e :=
  canonical_of_unpack (b := x.toBits) hx

/-- An exact decimal reads as the double, as far as the reader has no tables for it. -/
theorem ofScientific_exact (hx : x.toModel.unpack = .finite .positive m (-k) hm) (hk : 22 < k) :
    Float.ofScientific (m * 5 ^ k) true k = x := by
  have hcanonical := canonical_of_toModel hx
  have hleast := hcanonical.least
  obtain ⟨s, hdiv⟩ := hcanonical.divCore
  have hne : m * 5 ^ k ≠ 0 := by positivity
  have hparts : Float.Model.UnpackedFloat.ofScientific Format.binary64 (m * 5 ^ k) (-k)
      = .finite .positive m (-k) hm := by
    have htwo : (2 : Int) ^ Format.binary64.exponentBits = 2048 := by decide
    have hneg : (- -(k : Int)).toNat = k := by omega
    unfold Float.Model.UnpackedFloat.ofScientific
    rw [dif_neg hne, htwo, if_neg (by omega), if_neg (by omega), if_neg (by omega)]
    simp only [Float.Model.UnpackedFloat.div, hneg, hdiv]
    exact hcanonical.roundWithAccuracy _ s
  have hslow : ¬ (m * 5 ^ k < 2 ^ 53 ∧ k ≤ 22) := by omega
  have hback : Float.ofModel (Float.Model.pack x.toModel.unpack) = x := Float.ofBits_toBits x
  unfold Float.ofScientific
  rw [dif_neg hslow, ← hback, hx]
  simp only [Float.Model.ofScientific, Int.negOfNat_eq, if_true, Int.ofNat_eq_natCast, hparts]

/-- The decimal point of an exact decimal is not far from its first digit. -/
theorem magnitude_exact (h : Canonical m (-k)) (hle : m ≤ 2 ^ k) :
    -350 ≤ -(k : Int) + (decimalDigits (m * 5 ^ k)).length
      ∧ -(k : Int) + (decimalDigits (m * 5 ^ k)).length ≤ 350 := by
  have hleast := h.least
  have hpos := h.pos
  constructor
  · by_contra hlt
    have hlen : (decimalDigits (m * 5 ^ k)).length ≤ k - 350 := by omega
    unfold decimalDigits at hlen
    rw [Nat.length_toDigits_le_iff (by decide) (by omega)] at hlen
    -- So few digits would not even hold the power of five.
    have htwo : 2 ^ k ≤ 10 ^ 350 := calc
      2 ^ k ≤ 2 ^ 1074 := Nat.pow_le_pow_right (by decide) (by omega)
      _ ≤ 10 ^ 350 := by decide +kernel
    have hfive : 5 ^ k < 10 ^ (k - 350) := lt_of_le_of_lt (Nat.le_mul_of_pos_left _ hpos) hlen
    have hten : 10 ^ k < 10 ^ k := calc
      10 ^ k = 5 ^ k * 2 ^ k := ten_pow k
      _ < 10 ^ (k - 350) * 2 ^ k := Nat.mul_lt_mul_of_pos_right hfive (by positivity)
      _ ≤ 10 ^ (k - 350) * 10 ^ 350 := Nat.mul_le_mul_left _ htwo
      _ = 10 ^ k := by rw [← pow_add]; congr 1; omega
    exact lt_irrefl _ hten
  · have hlen : (decimalDigits (m * 5 ^ k)).length ≤ k + 1 := by
      unfold decimalDigits
      rw [Nat.length_toDigits_le_iff (by decide) (by omega)]
      calc m * 5 ^ k ≤ 2 ^ k * 5 ^ k := Nat.mul_le_mul_right _ hle
        _ = 10 ^ k := by rw [ten_pow, mul_comm]
        _ < 10 ^ (k + 1) := Nat.pow_lt_pow_right (by decide) (by omega)
    omega

/-- An exact decimal below one reads as the double. -/
theorem nearestFloat_exact (hx : x.toModel.unpack = .finite .positive m (-k) hm) (hk : 22 < k)
    (hle : m ≤ 2 ^ k) : nearestFloat (m * 5 ^ k) (-k) = x := by
  have hmagnitude := magnitude_exact (canonical_of_toModel hx) hle
  have hne : m * 5 ^ k ≠ 0 := by positivity
  have hnegative : decide (-(k : Int) < 0) = true := decide_eq_true (by omega)
  have habs : (-(k : Int)).natAbs = k := by omega
  simp only [nearestFloat]
  rw [if_neg (by omega), if_neg (by omega), hnegative, habs, ofScientific_exact hx hk]

end MarkupGate
