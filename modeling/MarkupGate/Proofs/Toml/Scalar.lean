import Mathlib
import MarkupGate.Proofs.Decimal.Shortest
import MarkupGate.Proofs.Text.Digits
import MarkupGate.Proofs.Text.Words
import MarkupGate.Toml.Reader

/-!
# Numbers are read back

The numbers that are written are words: a run of digits, or two of them with a point between, in one
case behind a minus sign. A word without colons and with fewer than two minus signs is no date and no
time, and its digits say the rest.

* `IsWord`: what it means that a word has a value, and `IsWord.readScalar` what follows for a text
  that goes on in the next line.
* `isWord_decimalDigits`, `isWord_shortestText`: the words of numbers.
-/

namespace MarkupGate

namespace Toml

variable {c d : Char} {s word rest : List Char} {v : Toml}

/-! ## Words -/

/-- What it means that a word has a value. -/
structure IsWord (word : List Char) (v : Toml) : Prop where
  ne_nil : word ≠ []
  chars : ∀ c ∈ word, isWordChar c
  value : wordValue? word = some v

/-- A word ends with its line. -/
theorem splitWord_append (hword : ∀ c ∈ word, isWordChar c) (rest : List Char) :
    splitWord (word ++ '\n' :: rest) = (word, '\n' :: rest) := by
  have hspan : (word ++ '\n' :: rest).span isWordChar = (word, '\n' :: rest) := by
    rw [List.span_eq_takeWhile_dropWhile, List.takeWhile_append_of_pos hword,
      List.dropWhile_append_of_pos hword]
    simp [isWordChar]
  simp only [splitWord, hspan]
  rfl

/-- A word at the end of a line is read as its value. -/
theorem IsWord.readScalar (h : IsWord word v) (rest : List Char) :
    readScalar (word ++ '\n' :: rest) = some (v, '\n' :: rest) := by
  have hread : readWord (word ++ '\n' :: rest) = some (v, '\n' :: rest) := by
    simp only [readWord, splitWord_append h.chars, h.value, Option.map_some]
  cases word with
  | nil => exact absurd rfl h.ne_nil
  | cons c s =>
    have hc := h.chars c List.mem_cons_self
    rw [List.cons_append] at hread ⊢
    unfold Toml.readScalar
    split
    · rename_i heq
      cases heq
      cases hc
    · rename_i heq
      cases heq
      cases hc
    · exact hread

/-! ## What is no date -/

theorem isDate_eq_false (h : '-' ∉ word) : isDate word = false := by
  have hsplit : splitAll (fun c => decide (c = '-')) word = [word] := by
    apply splitAll_of_forall
    intro c hc
    rw [decide_eq_false_iff_not]
    rintro rfl
    exact h hc
  simp only [isDate, hsplit]

theorem isTime_eq_false (h : ':' ∉ word) : isTime word = false := by
  have hsplit : splitAll (fun c => decide (c = ':')) (word.take 8) = [word.take 8] := by
    apply splitAll_of_forall
    intro c hc
    rw [decide_eq_false_iff_not]
    rintro rfl
    exact h (List.mem_of_mem_take hc)
  simp only [isTime, hsplit]

theorem isMoment_eq_false (hdate : '-' ∉ word) (htime : ':' ∉ word) : isMoment word = false := by
  have hday : isDate (word.take 10) = false :=
    isDate_eq_false fun h => hdate (List.mem_of_mem_take h)
  simp only [isMoment, isDate_eq_false hdate, isTime_eq_false htime, hday, Bool.false_and,
    Bool.or_false]

/-! ## Digits -/

theorem ne_of_isDigit (hc : c.isDigit) (hd : ¬ d.isDigit) : c ≠ d := by
  rintro rfl
  exact hd hc

theorem isWordChar_of_isDigit (h : c.isDigit) : isWordChar c := by
  simp [isWordChar, Char.isAlphanum, h]

/-- A run of digits has no underscores to take out. -/
theorem ungroup?_of_digits (hne : s ≠ []) (hs : ∀ c ∈ s, c.isDigit) :
    ungroup? Char.isDigit s = some s := by
  have hsplit : splitAll (fun c => decide (c = '_')) s = [s] := by
    apply splitAll_of_forall
    intro c hc
    exact decide_eq_false (ne_of_isDigit (hs c hc) (by decide))
  have hall : s.all Char.isDigit = true := List.all_eq_true.mpr hs
  simp [ungroup?, hsplit, hne, hall]

theorem wholeDigits?_decimalDigits (n : Nat) :
    wholeDigits? (decimalDigits n) = some (decimalDigits n) := by
  have hgroup := ungroup?_of_digits (decimalDigits_ne_nil n) fun _ => isDigit_of_mem_decimalDigits
  rw [wholeDigits?, hgroup, Option.bind_some, if_neg]
  rintro ⟨hzero, hlen⟩
  rw [head?_decimalDigits hzero] at hlen
  exact hlen rfl

theorem isGroupedDigit_of_isDigit (h : c.isDigit) : isGroupedDigit c := by
  simp [isGroupedDigit, h]

theorem splitSign_of_isDigit (h : c.isDigit) : splitSign (c :: s) = (false, c :: s) := by
  unfold splitSign
  split
  · rename_i heq
    exact absurd (List.cons.inj heq).1 (ne_of_isDigit h (by decide))
  · rename_i heq
    exact absurd (List.cons.inj heq).1 (ne_of_isDigit h (by decide))
  · rfl

/-- A word that begins with a digit and is no date is a number. -/
theorem wordValue?_of_isDigit (hc : c.isDigit) (hdate : '-' ∉ c :: s) (htime : ':' ∉ c :: s) :
    wordValue? (c :: s) = (floatWord? (c :: s)).or (integerWord? (c :: s)) := by
  have htrue : c :: s ≠ "true".toList := fun h =>
    ne_of_isDigit hc (by decide) (List.cons.inj h).1
  have hfalse : c :: s ≠ "false".toList := fun h =>
    ne_of_isDigit hc (by decide) (List.cons.inj h).1
  rw [wordValue?, if_neg htrue, if_neg hfalse, isMoment_eq_false hdate htime]
  rfl

/-- A word that begins with a digit is not infinite and has no sign. -/
theorem floatWord?_of_isDigit (hc : c.isDigit) : floatWord? (c :: s)
    = (decimalWord? (c :: s)).bind fun x => if x.isInf then none else some (.float x) := by
  have hinf : c :: s ≠ "inf".toList := fun h => ne_of_isDigit hc (by decide) (List.cons.inj h).1
  have hnan : c :: s ≠ "nan".toList := fun h => ne_of_isDigit hc (by decide) (List.cons.inj h).1
  simp only [floatWord?, splitSign_of_isDigit hc, if_neg hinf, if_neg hnan, Bool.not_false,
    Bool.and_true, Bool.false_eq_true, if_false]

/-! ## Integers -/

/-- A run of digits is a decimal number, not one to another base. -/
theorem integerWord?_of_digits (hs : ∀ d ∈ c :: s, d.isDigit) : integerWord? (c :: s)
    = (wholeDigits? (c :: s)).bind fun digits => integer? (decimalValue digits) := by
  have hbase {d : Char} {digits : List Char} (heq : c :: s = '0' :: d :: digits) : d.isDigit := by
    apply hs
    rw [heq]
    exact List.mem_cons_of_mem _ List.mem_cons_self
  unfold integerWord?
  split
  · rename_i heq
    cases hbase heq
  · rename_i heq
    cases hbase heq
  · rename_i heq
    cases hbase heq
  · rw [splitSign_of_isDigit (hs c List.mem_cons_self)]
    rfl

/-- An integer within the bound is read back. -/
theorem isWord_decimalDigits {n : Nat} (hn : n < bound63) :
    IsWord (decimalDigits n) (.integer n) := by
  have hdigits : ∀ c ∈ decimalDigits n, c.isDigit := fun _ => isDigit_of_mem_decimalDigits
  refine ⟨decimalDigits_ne_nil n, fun c hc => isWordChar_of_isDigit (hdigits c hc), ?_⟩
  have hwhole := wholeDigits?_decimalDigits n
  have hvalue := decimalValue_decimalDigits n
  cases hword : decimalDigits n with
  | nil => exact absurd hword (decimalDigits_ne_nil n)
  | cons c s =>
    rw [hword] at hdigits hwhole hvalue
    have hc := hdigits c List.mem_cons_self
    have hgrouped : ∀ d ∈ c :: s, isGroupedDigit d :=
      fun d hd => isGroupedDigit_of_isDigit (hdigits d hd)
    have hnone : decimalWord? (c :: s) = none := by
      have htake : (c :: s).takeWhile isGroupedDigit = c :: s :=
        List.takeWhile_eq_self_iff.mpr hgrouped
      have hdrop : (c :: s).dropWhile isGroupedDigit = [] :=
        List.dropWhile_eq_nil_iff.mpr hgrouped
      simp [decimalWord?, htake, hdrop, hwhole]
    have hinteger : integerWord? (c :: s) = some (.integer n) := by
      rw [integerWord?_of_digits hdigits, hwhole, Option.bind_some, hvalue, integer?]
      exact if_pos ⟨by omega, by exact_mod_cast hn⟩
    rw [wordValue?_of_isDigit hc, floatWord?_of_isDigit hc, hnone, hinteger]
    · rfl
    · exact fun h => ne_of_isDigit (hdigits _ h) (by decide) rfl
    · exact fun h => ne_of_isDigit (hdigits _ h) (by decide) rfl

/-! ## Decimals -/

/-- The digits before a point and those behind it are read as one number and its places. -/
theorem decimalWord?_point {n : Nat} {fraction : List Char} (hne : fraction ≠ [])
    (hfraction : ∀ c ∈ fraction, c.isDigit) :
    decimalWord? (decimalDigits n ++ '.' :: fraction)
      = some (nearestFloat (decimalValue (decimalDigits n ++ fraction)) (-fraction.length)) := by
  have hwhole : ∀ c ∈ decimalDigits n, isGroupedDigit c := fun c hc =>
    isGroupedDigit_of_isDigit (isDigit_of_mem_decimalDigits hc)
  have hgrouped : ∀ c ∈ fraction, isGroupedDigit c := fun c hc =>
    isGroupedDigit_of_isDigit (hfraction c hc)
  have htake : (decimalDigits n ++ '.' :: fraction).takeWhile isGroupedDigit = decimalDigits n := by
    rw [List.takeWhile_append_of_pos hwhole, List.takeWhile_cons_of_neg (by decide),
      List.append_nil]
  have hdrop : (decimalDigits n ++ '.' :: fraction).dropWhile isGroupedDigit = '.' :: fraction := by
    rw [List.dropWhile_append_of_pos hwhole, List.dropWhile_cons_of_neg (by decide)]
  have hplaces : fractionWord? ('.' :: fraction) = some (fraction, []) := by
    rw [fractionWord?, List.takeWhile_eq_self_iff.mpr hgrouped,
      List.dropWhile_eq_nil_iff.mpr hgrouped, ungroup?_of_digits hne hfraction]
    rfl
  simp [decimalWord?, htake, hdrop, hplaces, wholeDigits?_decimalDigits, exponentWord?]

/-- A double from zero to one is not infinite. -/
theorem isInf_of_unit {x : Float} (h0 : 0.0 ≤ x) (h1 : x ≤ 1.0) : x.isInf = false := by
  rcases unit_cases h0 h1 with rfl | rfl | rfl | ⟨m, k, hm, hx, -⟩
  · rfl
  · rfl
  · rfl
  · change x.toModel.unpack.isInf = false
    rw [hx]
    rfl

/-- Zero with a minus sign is read back. -/
theorem isWord_neg_zero : IsWord ['-', '0', '.', '0'] (.float (-0.0)) where
  ne_nil := by decide
  chars := by simp [isWordChar, Char.isAlphanum]
  value := by
    have hmoment : isMoment ['-', '0', '.', '0'] = false := by decide
    have hsize : decimalWord? (decimalDigits 0 ++ '.' :: ['0']) = some 0 := by
      have hzero : decimalValue (decimalDigits 0 ++ ['0']) = 0 := by
        rw [decimalValue_append, decimalValue_decimalDigits]
        rfl
      rw [decimalWord?_point (by decide) (by simp), hzero]
      simp [nearestFloat]
    have hdigits : decimalDigits 0 ++ '.' :: ['0'] = ['0', '.', '0'] := rfl
    rw [hdigits] at hsize
    have hfloat : floatWord? ['-', '0', '.', '0'] = some (.float (-0.0)) := by
      simp only [floatWord?, splitSign, hsize]
      rfl
    rw [wordValue?, if_neg (by decide), if_neg (by decide), hmoment, hfloat]
    rfl

/-- A double from zero to one is read back. -/
theorem isWord_shortestText {x : Float} (h0 : 0.0 ≤ x) (h1 : x ≤ 1.0) :
    IsWord (shortestText ".0" x) (.float x) := by
  rcases shortestText_cases h0 h1 with ⟨rfl, htext⟩ | ⟨scaled, places, hplaces, htext, hreads⟩
  · rw [htext]
    exact isWord_neg_zero
  · obtain ⟨fraction, hpoint, hlen, hfraction, hvalue⟩ := pointText_eq hplaces scaled
    rw [htext, hpoint]
    have hne : fraction ≠ [] := by
      rintro rfl
      exact hplaces.ne hlen
    have hword := decimalWord?_point (n := scaled / 10 ^ places) hne hfraction
    rw [hvalue, hlen, hreads] at hword
    generalize hwhole : decimalDigits (scaled / 10 ^ places) = whole at hword
    have hdigits : ∀ c ∈ whole, c.isDigit := fun c hc =>
      isDigit_of_mem_decimalDigits (hwhole ▸ hc)
    have hchars : ∀ c ∈ whole ++ '.' :: fraction, c.isDigit ∨ c = '.' := by
      intro c hc
      rcases List.mem_append.mp hc with hc | hc
      · exact .inl (hdigits c hc)
      · exact (List.mem_cons.mp hc).symm.imp_left (hfraction c)
    have hnot {d : Char} (hd : ¬ d.isDigit) (hpoint : d ≠ '.') : d ∉ whole ++ '.' :: fraction :=
      fun h => (hchars d h).elim hd hpoint
    refine ⟨by simp, ?_, ?_⟩
    · intro c hc
      rcases hchars c hc with h | rfl
      · exact isWordChar_of_isDigit h
      · decide
    · have hdate := hnot (d := '-') (by decide) (by decide)
      have htime := hnot (d := ':') (by decide) (by decide)
      cases whole with
      | nil => exact absurd hwhole (decimalDigits_ne_nil _)
      | cons c s =>
        have hc := hdigits c List.mem_cons_self
        rw [List.cons_append] at hword hdate htime ⊢
        rw [wordValue?_of_isDigit hc hdate htime, floatWord?_of_isDigit hc, hword,
          Option.bind_some, isInf_of_unit h0 h1]
        rfl

end Toml

end MarkupGate
