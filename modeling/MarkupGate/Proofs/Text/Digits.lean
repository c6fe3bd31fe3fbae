import Mathlib
import MarkupGate.Decimal.Fixed

/-!
# Digits are read back

The decimal digits of a number have the number for their value and no zero in front. A decimal with
fixed places is the digits of its whole part and exactly as many digits behind the point, which
together spell the number that was scaled.

* `decimalValue_decimalDigits`, `head?_decimalDigits`: the digits of a number.
* `pointText_eq`: the digits of a decimal with fixed places.
-/

namespace MarkupGate

theorem decimalValue_eq (s : List Char) : decimalValue s = Nat.ofDigitChars 10 s 0 :=
  Nat.ofDigitChars_eq_foldl.symm

/-- The value of two runs of digits together. -/
theorem decimalValue_append (s t : List Char) :
    decimalValue (s ++ t) = decimalValue s * 10 ^ t.length + decimalValue t := by
  rw [decimalValue_eq, decimalValue_eq, decimalValue_eq, Nat.ofDigitChars_append,
    Nat.ofDigitChars_eq_ofDigitChars_zero, mul_comm]

theorem decimalValue_decimalDigits (n : Nat) : decimalValue (decimalDigits n) = n := by
  rw [decimalValue_eq, decimalDigits, Nat.ofDigitChars_ten_toDigits]

theorem decimalValue_replicate_zero (n : Nat) : decimalValue (List.replicate n '0') = 0 := by
  rw [decimalValue_eq, Nat.ofDigitChars_replicate_zero, mul_zero]

theorem isDigit_of_mem_decimalDigits {n : Nat} {c : Char} (h : c ∈ decimalDigits n) : c.isDigit :=
  Nat.isDigit_of_mem_toDigits (by decide) (by decide) h

theorem decimalDigits_ne_nil (n : Nat) : decimalDigits n ≠ [] := Nat.toDigits_ne_nil

/-- Only zero itself is written with a zero in front. -/
theorem head?_decimalDigits {n : Nat} (h : (decimalDigits n).head? = some '0') : n = 0 := by
  induction n using Nat.strong_induction_on with
  | _ n ih =>
    unfold decimalDigits at h ih
    by_cases hn : n < 10
    · rw [Nat.toDigits_of_lt_base hn] at h
      have hdigit : ∀ n < 10, [Nat.digitChar n].head? = some '0' → n = 0 := by decide
      exact hdigit n hn h
    · have hne : Nat.toDigits 10 (n / 10) ≠ [] := Nat.toDigits_ne_nil
      rw [Nat.toDigits_of_base_le (by decide) (by omega), List.head?_append_of_ne_nil _ hne] at h
      have hzero := ih (n / 10) (by omega) h
      omega

/-- The digits of a decimal with fixed places. -/
theorem pointText_eq {places : Nat} (hplaces : 0 < places) (scaled : Nat) :
    ∃ fraction, pointText places scaled
        = decimalDigits (scaled / 10 ^ places) ++ '.' :: fraction
      ∧ fraction.length = places ∧ (∀ c ∈ fraction, c.isDigit)
      ∧ decimalValue (decimalDigits (scaled / 10 ^ places) ++ fraction) = scaled := by
  set digits := decimalDigits (scaled % 10 ^ places) with hdigits
  have hlt : scaled % 10 ^ places < 10 ^ places := Nat.mod_lt _ (by positivity)
  have hlen : digits.length ≤ places := by
    rw [hdigits, decimalDigits, Nat.length_toDigits_le_iff (by decide) hplaces]
    exact hlt
  refine ⟨List.replicate (places - digits.length) '0' ++ digits, ?_, ?_, ?_, ?_⟩
  · simp only [pointText, if_neg hplaces.ne', hdigits, Nat.pow_eq, List.append_assoc,
      List.cons_append]
  · rw [List.length_append, List.length_replicate]
    omega
  · intro c hc
    rcases List.mem_append.mp hc with hc | hc
    · rw [List.eq_of_mem_replicate hc]
      decide
    · exact isDigit_of_mem_decimalDigits hc
  · rw [decimalValue_append, decimalValue_append, decimalValue_replicate_zero, hdigits,
      decimalValue_decimalDigits, decimalValue_decimalDigits, ← hdigits, List.length_append,
      List.length_replicate, Nat.sub_add_cancel hlen, zero_mul, zero_add]
    exact Nat.div_add_mod' scaled (10 ^ places)

end MarkupGate
