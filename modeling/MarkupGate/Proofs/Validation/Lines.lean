import MarkupGate.Proofs.Safety.Bytes
import MarkupGate.Proofs.Validation

/-!
# Lines of findings

The line of an offset is found by bisection among the places where lines begin. It is one more than the
number of line feed bytes before the offset, so it never falls as the offset grows and lies between the
first line and the last one. A number of 32 bits is enough for a text with fewer lines than there are
such numbers. Findings take their lines from the same index, hence they lie in the text as well.

* `countP_lineFeeds`: line feeds before an offset, counted as characters and as bytes.
* `LineIndex.numbers_ofText`: what the index of a text says.
* `Validator.lines_sound`: so do findings of a validation.
-/

namespace MarkupGate

/-! ## Line feeds as bytes -/

/-- The byte of a line feed occurs in no other character. -/
theorem count_utf8EncodeChar {c : Char} (hc : c ≠ '\n') : (String.utf8EncodeChar c).count 10 = 0 := by
  rw [List.count_eq_zero]
  intro hmem
  by_cases hascii : c.toNat < 128
  · obtain ⟨hbytes, hbyte⟩ := utf8EncodeChar_ascii hascii
    rw [hbytes, List.mem_singleton] at hmem
    have hval : c.val.toNat = '\n'.val.toNat := hbyte.symm.trans (congrArg UInt8.toNat hmem.symm)
    exact hc (Char.ext (UInt32.toNat_inj.1 hval))
  · exact absurd (le_of_mem_utf8EncodeChar (Nat.le_of_not_lt hascii) 10 hmem) (by decide)

/-- The line feeds before an offset are the bytes with their number before it. -/
theorem countP_lineFeeds (start n : Nat) (source : List Char) :
    (lineFeeds start source).countP (· < start + n)
      = ((source.flatMap String.utf8EncodeChar).take n).count 10 := by
  induction source generalizing start n with
  | nil => simp [lineFeeds]
  | cons c cs ih =>
    have hrest : (lineFeeds (start + c.utf8Size) cs).countP (· < start + n)
        = ((cs.flatMap String.utf8EncodeChar).take (n - c.utf8Size)).count 10 := by
      rw [← ih (start + c.utf8Size)]
      apply List.countP_congr
      intro x hx
      have := (mem_lineFeeds hx).1
      simp only [decide_eq_true_eq]
      omega
    rw [List.flatMap_cons, List.take_append, List.count_append, String.length_utf8EncodeChar, ← hrest,
      lineFeeds]
    by_cases hc : c = '\n'
    · have hbytes : String.utf8EncodeChar c = [10] := by
        rw [hc]
        rfl
      rw [if_pos hc, List.countP_cons, hbytes, Nat.add_comm]
      cases n <;> simp
    · have hnone : ((String.utf8EncodeChar c).take n).count 10 = 0 :=
        Nat.le_zero.1 (count_utf8EncodeChar hc ▸ (List.take_sublist n _).count_le 10)
      rw [if_neg hc, hnone, Nat.zero_add]

/-! ## Lines of offsets -/

namespace LineIndex

variable {source : List Char}

theorem lineCount_ofText (source : List Char) :
    (ofText source).lineCount = MarkupGate.lineCount source := by
  rw [lineCount_eq 0]
  simp [lineCount, ofText, Nat.add_comm]

/-- A line is one of those that there are. -/
theorem lineAt_bounds (source : List Char) (offset : Nat) :
    1 ≤ (ofText source).lineAt offset
      ∧ (ofText source).lineAt offset ≤ (ofText source).lineCount := by
  have := List.countP_le_length (p := fun n => decide (n < offset)) (l := lineFeeds 0 source)
  rw [lineAt_ofText, lineCount_ofText, lineCount_eq 0]
  omega

/-- A number of 32 bits is enough for a line of a text that has not too many of them. -/
theorem toNat_lineOf (h : (ofText source).lineCount < 2 ^ 32) (offset : Nat) :
    ((ofText source).lineOf offset).toNat = (ofText source).lineAt offset := by
  have := (lineAt_bounds source offset).2
  rw [lineOf, Nat.toUInt32, UInt32.toNat_ofNat']
  exact Nat.mod_eq_of_lt (by omega)

/-- What an index of lines says about a text. -/
structure Numbers (index : LineIndex) (source : List Char) : Prop where
  /-- the line of an offset is one more than the number of line feeds among the bytes before it -/
  lineOf_eq : ∀ offset, (index.lineOf offset).toNat
    = 1 + ((source.flatMap String.utf8EncodeChar).take (min offset (byteLength source))).count 10
  /-- lines do not fall -/
  monotone : ∀ m n, m ≤ n → index.lineOf m ≤ index.lineOf n
  /-- they lie between the first one and the last one -/
  bounds : ∀ offset, 1 ≤ (index.lineOf offset).toNat ∧ (index.lineOf offset).toNat ≤ index.lineCount
  /-- which is the line of everything past the end -/
  past_end : ∀ offset, byteLength source ≤ offset →
    (index.lineOf offset).toNat = index.lineCount

theorem numbers_ofText (h : (ofText source).lineCount < 2 ^ 32) : (ofText source).Numbers source where
  lineOf_eq offset := by
    have hlength : (source.flatMap String.utf8EncodeChar).length = byteLength source := by
      rw [← length_byteChars, byteChars]
      simp [charBytes, List.length_flatMap]
    have hcount := countP_lineFeeds 0 offset source
    rw [Nat.zero_add] at hcount
    rw [toNat_lineOf h, lineAt_ofText, hcount, ← hlength, List.take_eq_take_min]
  monotone m n hmn := by
    rw [UInt32.le_iff_toNat_le, toNat_lineOf h, toNat_lineOf h, lineAt_ofText, lineAt_ofText]
    refine Nat.add_le_add_left (List.countP_mono_left fun x _ hx => ?_) 1
    simp only [decide_eq_true_eq] at hx ⊢
    omega
  bounds offset := by
    rw [toNat_lineOf h]
    exact lineAt_bounds source offset
  past_end offset hpast := by
    rw [toNat_lineOf h, lineAt_ofText, lineCount_ofText, lineCount_eq 0, Nat.add_left_cancel_iff,
      List.countP_eq_length]
    intro x hx
    have := (mem_lineFeeds hx).2
    simp only [decide_eq_true_eq]
    omega

end LineIndex

/-! ## Lines of findings -/

/-- A finding of a validation that has a line has that of an offset, which is one of the lines of the
markup, whatever style sheet and script go with it. -/
theorem Validator.lines_sound {html : List Char}
    (h : (LineIndex.ofText html).lineCount < 2 ^ 32) :
    (LineIndex.ofText html).Numbers html
      ∧ ∀ config c, Catalog.ofConfig config = .ok c → ∀ scorer css js,
        ∀ f ∈ (Validator.validate ⟨c, scorer⟩ (.ofSource html css js)).findings,
        ∀ n, f.line = some n →
          (∃ offset, n = ((LineIndex.ofText html).lineOf offset).toNat)
            ∧ 1 ≤ n ∧ n ≤ (LineIndex.ofText html).lineCount := by
  refine ⟨LineIndex.numbers_ofText h, fun config c hc scorer css js f hf n hn => ?_⟩
  obtain ⟨-, -, shapes, -, hrules⟩ := Catalog.ofConfig_eq_ok hc
  rw [(Validator.findings_validate _ _).mem_iff, List.mem_flatMap] at hf
  obtain ⟨r, hr, hf⟩ := hf
  rw [show (Validator.mk c scorer).catalog.rules = c.rules from rfl, hrules] at hr
  obtain ⟨place?, hplace⟩ := Rule.isAt_of_mem_run (List.mem_filter.1 hr).1 hf
  have hline : place?.map (Document.parse html).line = some n := by
    rw [← hn, hplace]
    rfl
  obtain ⟨offset, -, rfl⟩ := Option.map_eq_some_iff.1 hline
  exact ⟨⟨offset, (LineIndex.toNat_lineOf h offset).symm⟩, LineIndex.lineAt_bounds html offset⟩

/-- A page with a character of two bytes, an image in its second line and empty lines at the end. -/
def imageBelowAccent : List Char := "é\n<img src=a>\n\n".toList

/-- The image lacks its alternative text. -/
theorem Validator.lines_sound_imageBelowAccent :
    let page := Page.ofSource imageBelowAccent none none
    let findings := (Validator.validate ⟨.standard, .ofConfig {}⟩ page).findings
    (LineIndex.ofText imageBelowAccent).lineCount < 2 ^ 32
      ∧ ((LineIndex.ofText imageBelowAccent).lineOf 3).toNat = 2
      ∧ Catalog.ofConfig {} = .ok .standard
      ∧ (∃ f ∈ findings, f.line = some 2)
      ∧ ∀ f ∈ findings, ∀ n, f.line = some n → 1 ≤ n ∧ n ≤ 4 := by
  have hcount : (LineIndex.ofText imageBelowAccent).lineCount < 2 ^ 32 := by decide +kernel
  obtain ⟨hnumbers, hfindings⟩ := Validator.lines_sound hcount
  refine ⟨hcount, ?_, Catalog.ofConfig_empty, ?_, fun f hf n hn => ?_⟩
  · rw [hnumbers.lineOf_eq]
    decide +kernel
  · have hfound : ∃ f ∈ Rule.imgAlt.run (.ofSource imageBelowAccent none none), f.line = some 2 := by
      decide +kernel
    obtain ⟨f, hf, hline⟩ := hfound
    have hrule : Rule.imgAlt ∈ Catalog.standard.rules := by simp [Catalog.standard, builtinRules]
    exact ⟨f, (Validator.findings_validate _ _).mem_iff.2 (List.mem_flatMap.2 ⟨_, hrule, hf⟩), hline⟩
  · exact (hfindings {} .standard Catalog.ofConfig_empty (.ofConfig {}) none none f hf n hn).2

end MarkupGate
