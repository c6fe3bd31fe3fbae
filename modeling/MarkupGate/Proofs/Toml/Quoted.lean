import Mathlib
import MarkupGate.Toml.Quoted

/-!
# Strings are read back

Whatever form a string is written in, and whatever it contains, reading gives it back and stops right
behind its closing quotes. All that is asked of the text that follows is that it does not begin with
another quote.

Between single or double quotes on one line this goes character by character. Between tripled quotes
the reader looks ahead: it stops at the first three quotes in a row, and up to two more may belong to
the text. So the text inside must have no run of three quotes, which the writer sees to either by its
choice of the form or with a backslash before every third quote of a run.

* `readBasic_escaped`, `readLiteral_direct`, `readMultiBasic_escaped`, `readMultiLiteral_direct`: the
  four forms.
* `readString_quoted`: a string in the form that the writer chooses is read back.
-/

namespace MarkupGate

namespace Toml

variable {c x q : Char} {s b rest : List Char}

/-- What it means that no quote follows. -/
def NoQuote (rest : List Char) : Prop := ∀ c ∈ rest.head?, c ≠ '"' ∧ c ≠ '\''

/-! ## Characters with a backslash -/

theorem ne_of_isPlainChar (h : isPlainChar c) : c ≠ '\n' ∧ c ≠ '\r' := by
  constructor
  · rintro rfl
    cases h
  · rintro rfl
    cases h

/-- Only ASCII characters cannot be written directly. -/
theorem toNat_lt_of_needsEscape (h : needsEscape c) : c.toNat < 128 := by
  by_contra hge
  have hspace : ' ' ≤ c := by
    change 32 ≤ c.toNat
    omega
  have hdel : c ≠ '\x7f' := by
    rintro rfl
    exact hge (by decide)
  simp [needsEscape, isPlainChar, hspace, hdel] at h

/-- The characters below the first one that takes more than seven bits can be written with four
digits. -/
theorem hexScalar?_digits (n : Fin 128) :
    hexScalar? ['0', '0', hexDigit (n / 16), (hexDigit (n % 16)).toUpper]
      = some (Char.ofNat n) := by
  revert n
  decide

/-- A character is written directly, or with a backslash and something that is read as the
character. What stands behind the backslash is no end of a line. -/
theorem escapeChar_cases (c : Char) :
    (escapeChar c = [c] ∧ isPlainChar c ∧ c ≠ '"' ∧ c ≠ '\\')
    ∨ ∃ e, escapeChar c = '\\' :: e ∧ (∀ rest, readEscape? (e ++ rest) = some (c, rest))
      ∧ ∀ rest, readLineEnd? (e ++ rest) = none := by
  unfold escapeChar
  split_ifs with hquote hbackslash hb ht hn hf hr hcontrol
  -- Seven characters have a sign of their own behind the backslash.
  iterate 7
    · subst_vars
      exact .inr ⟨_, rfl, fun _ => rfl, fun _ => rfl⟩
  · -- Only ASCII characters are left, so the digits say all.
    have hlt := toNat_lt_of_needsEscape hcontrol
    have hscalar := hexScalar?_digits ⟨c.toNat, hlt⟩
    rw [Char.ofNat_toNat] at hscalar
    refine .inr ⟨_, rfl, ?_, fun _ => rfl⟩
    intro rest
    change (hexScalar? _).map (·, rest) = _
    rw [hscalar]
    rfl
  · refine .inl ⟨rfl, ?_, hquote, hbackslash⟩
    simpa [needsEscape, hn] using hcontrol

/-! ## Strings on one line -/

theorem readBasic_quote (rest : List Char) : readBasic ('"' :: rest) = some ([], rest) := by
  rw [readBasic, if_pos rfl]

theorem readBasic_plain (hc : isPlainChar c) (hquote : c ≠ '"') (hbackslash : c ≠ '\\') :
    readBasic (c :: s) = prepend c (readBasic s) := by
  rw [readBasic, if_neg hquote, if_neg hbackslash, if_pos hc]

theorem readBasic_escape (h : readEscape? s = some (x, rest)) :
    readBasic ('\\' :: s) = prepend x (readBasic rest) := by
  rw [readBasic, if_neg (by decide), if_pos rfl]
  split
  · rename_i hnone
    rw [h] at hnone
    cases hnone
  · rename_i y more hsome
    rw [h] at hsome
    cases hsome
    rfl

/-- A text between double quotes on one line is read back. -/
theorem readBasic_escaped (s rest : List Char) :
    readBasic (s.flatMap escapeChar ++ '"' :: rest) = some (s, rest) := by
  induction s with
  | nil => exact readBasic_quote rest
  | cons c s ih =>
    rw [List.flatMap_cons, List.append_assoc]
    rcases escapeChar_cases c with ⟨hc, hplain, hquote, hbackslash⟩ | ⟨e, hc, hread, -⟩
    · rw [hc, List.singleton_append, readBasic_plain hplain hquote hbackslash, ih]
      rfl
    · rw [hc, List.cons_append, readBasic_escape (hread _), ih]
      rfl

/-- A text between single quotes on one line is read back if every character can stand there. -/
theorem readLiteral_direct (hs : ∀ c ∈ s, isPlainChar c ∧ c ≠ '\'') (rest : List Char) :
    readLiteral (s ++ '\'' :: rest) = some (s, rest) := by
  induction s with
  | nil => rw [List.nil_append, readLiteral, if_pos rfl]
  | cons c s ih =>
    obtain ⟨hplain, hquote⟩ := hs c List.mem_cons_self
    rw [List.cons_append, readLiteral, if_neg hquote, if_pos hplain,
      ih fun d hd => hs d (List.mem_cons_of_mem _ hd)]
    rfl

/-! ## Runs of quotes -/

/-- The number of quotes at the beginning of a text. -/
def quoteRun (q : Char) (s : List Char) : Nat := (s.takeWhile fun c => c = q).length

@[simp]
theorem quoteRun_self (q : Char) (s : List Char) : quoteRun q (q :: s) = quoteRun q s + 1 := by
  simp [quoteRun]

theorem quoteRun_of_ne (h : c ≠ q) (s : List Char) : quoteRun q (c :: s) = 0 := by
  simp [quoteRun, h]

theorem quoteRun_of_head? (h : ∀ c ∈ s.head?, c ≠ q) : quoteRun q s = 0 := by
  cases s with
  | nil => rfl
  | cons c s => exact quoteRun_of_ne (h c rfl) s

theorem quoteRun_replicate (k : Nat) (q : Char) (s : List Char) :
    quoteRun q (List.replicate k q ++ s) = k + quoteRun q s := by
  induction k with
  | zero => simp
  | succ k ih =>
    rw [List.replicate_succ, List.cons_append, quoteRun_self, ih]
    omega

/-- A text begins with its run of quotes; either that is all, or something else follows. -/
theorem eq_replicate_quoteRun (q : Char) (s : List Char) :
    s = List.replicate (quoteRun q s) q
    ∨ ∃ c more, c ≠ q ∧ s = List.replicate (quoteRun q s) q ++ c :: more := by
  induction s with
  | nil => exact .inl rfl
  | cons c s ih =>
    by_cases hc : c = q
    · subst hc
      rw [quoteRun_self, List.replicate_succ]
      rcases ih with h | ⟨d, more, hd, h⟩
      · exact .inl (congrArg (c :: ·) h)
      · exact .inr ⟨d, more, hd, congrArg (c :: ·) h⟩
    · rw [quoteRun_of_ne hc]
      exact .inr ⟨c, s, hc, rfl⟩

/-- Where nothing but up to two quotes is left of a text, its end is recognized. -/
theorem readClosing?_replicate {k : Nat} (hk : k ≤ 2) (hrest : ∀ c ∈ rest.head?, c ≠ q) :
    readClosing? q (List.replicate k q ++ q :: q :: q :: rest)
      = some (List.replicate k q, rest) := by
  have hrun : ((List.replicate k q ++ q :: q :: q :: rest).takeWhile fun c => c = q).length
      = k + 3 := by
    change quoteRun q _ = _
    rw [quoteRun_replicate, quoteRun_self, quoteRun_self, quoteRun_self, quoteRun_of_head? hrest]
  have hdrop : (List.replicate k q ++ q :: q :: q :: rest).drop (k + 3) = rest := by
    rw [List.drop_append, List.drop_eq_nil_of_le (by simp), List.length_replicate,
      Nat.add_sub_cancel_left]
    rfl
  have hmin : min (k + 3) 5 = k + 3 := by omega
  simp only [readClosing?, hrun, hmin, hdrop, Nat.add_sub_cancel]
  rw [if_neg (by omega)]

/-- Where fewer than three quotes stand, there is no end. -/
theorem readClosing?_eq_none (h : quoteRun q s < 3) : readClosing? q s = none := by
  simp only [readClosing?]
  exact if_pos h

/-- A body whose first run of quotes is short either is that run and ends, or goes on. -/
theorem closing_cases (hrun : quoteRun q b ≤ 2) (hrest : ∀ c ∈ rest.head?, c ≠ q) :
    (b = List.replicate (quoteRun q b) q
      ∧ readClosing? q (b ++ q :: q :: q :: rest) = some (b, rest))
    ∨ (b ≠ [] ∧ readClosing? q (b ++ q :: q :: q :: rest) = none) := by
  rcases eq_replicate_quoteRun q b with h | ⟨c, more, hc, h⟩
  · refine .inl ⟨h, ?_⟩
    rw [h]
    exact readClosing?_replicate hrun hrest
  · refine .inr ⟨?_, ?_⟩
    · rw [h]
      simp
    · apply readClosing?_eq_none
      rw [h, List.append_assoc, quoteRun_replicate, List.cons_append, quoteRun_of_ne hc]
      omega

/-! ## Strings on several lines -/

/-- What it means that a character may stand in a text of several lines. -/
def IsLineChar (c : Char) : Prop := isPlainChar c ∨ c = '\n'

theorem IsLineChar.ne_return (h : IsLineChar c) : c ≠ '\r' := by
  rcases h with h | rfl
  · exact (ne_of_isPlainChar h).2
  · decide

theorem readMultiBasic_closing {found : List Char × List Char}
    (h : readClosing? '"' s = some found) : readMultiBasic s = some found := by
  rw [readMultiBasic.eq_def, h]

theorem readMultiBasic_char (h : readClosing? '"' (c :: s) = none) (hbackslash : c ≠ '\\')
    (hc : IsLineChar c) : readMultiBasic (c :: s) = prepend c (readMultiBasic s) := by
  have hreturn := hc.ne_return
  rw [readMultiBasic, h]
  · exact if_pos (by simpa [IsLineChar] using hc)
  · exact hbackslash
  · exact fun _ h _ => hreturn h

theorem readMultiBasic_escape (h : readClosing? '"' ('\\' :: s) = none)
    (hline : readLineEnd? s = none) (hread : readEscape? s = some (x, rest)) :
    readMultiBasic ('\\' :: s) = prepend x (readMultiBasic rest) := by
  rw [readMultiBasic, h]
  dsimp only
  split
  · rename_i hsome
    rw [hline] at hsome
    cases hsome
  · split
    · rename_i hnone
      rw [hread] at hnone
      cases hnone
    · rename_i y more hsome
      rw [hread] at hsome
      cases hsome
      rfl

theorem readMultiLiteral_closing {found : List Char × List Char}
    (h : readClosing? '\'' s = some found) : readMultiLiteral s = some found := by
  rw [readMultiLiteral.eq_def, h]

theorem readMultiLiteral_char (h : readClosing? '\'' (c :: s) = none) (hc : IsLineChar c) :
    readMultiLiteral (c :: s) = prepend c (readMultiLiteral s) := by
  have hreturn := hc.ne_return
  rw [readMultiLiteral, h]
  · exact if_pos (by simpa [IsLineChar] using hc)
  · exact fun _ h _ => hreturn h

/-- A text in which three quotes in a row do not occur begins with at most two. -/
theorem quoteRun_le_two (h : hasInfix [q, q, q] s = false) : quoteRun q s ≤ 2 := by
  by_contra hrun
  have hprefix : [q, q, q].isPrefixOf s := by
    rcases eq_replicate_quoteRun q s with hs | ⟨c, more, -, hs⟩
    all_goals
      obtain ⟨k, hk⟩ : ∃ k, quoteRun q s = k + 3 := ⟨quoteRun q s - 3, by omega⟩
      rw [hs, hk]
      simp [List.replicate_succ, List.isPrefixOf]
  cases s with
  | nil => simp at hprefix
  | cons c s => simp [hasInfix, breakOn?, hprefix] at h

theorem hasInfix_of_cons {pattern : List Char} (h : hasInfix pattern (c :: s) = false) :
    hasInfix pattern s = false := by
  unfold hasInfix breakOn? at h
  split_ifs at h
  · cases h
  · simpa [hasInfix] using h

/-- A text between tripled single quotes is read back if every character can stand there and no
three quotes come together. -/
theorem readMultiLiteral_direct (hs : ∀ c ∈ s, IsLineChar c)
    (hfree : hasInfix ['\'', '\'', '\''] s = false) (hrest : NoQuote rest) :
    readMultiLiteral (s ++ '\'' :: '\'' :: '\'' :: rest) = some (s, rest) := by
  induction s with
  | nil =>
    apply readMultiLiteral_closing
    exact readClosing?_replicate (Nat.zero_le 2) fun c hc => (hrest c hc).2
  | cons c s ih =>
    rcases closing_cases (quoteRun_le_two hfree) fun c hc => (hrest c hc).2 with
      ⟨-, hclosing⟩ | ⟨-, hnone⟩
    · exact readMultiLiteral_closing hclosing
    · have htail := ih (fun d hd => hs d (List.mem_cons_of_mem _ hd)) (hasInfix_of_cons hfree)
      rw [List.cons_append] at hnone ⊢
      rw [readMultiLiteral_char hnone (hs c List.mem_cons_self), htail]
      rfl

/-- What is written for a character between double quotes does not begin with a quote, nor with a
line break. -/
theorem escapeChar_head (c : Char) :
    ∃ d e, escapeChar c = d :: e ∧ d ≠ '"' ∧ d ≠ '\n' ∧ d ≠ '\r' := by
  rcases escapeChar_cases c with ⟨hc, hplain, hquote, -⟩ | ⟨e, hc, -⟩
  · exact ⟨c, [], hc, hquote, ne_of_isPlainChar hplain⟩
  · exact ⟨'\\', e, hc, by decide⟩

/-- With the quotes just written, no run of quotes is longer than two. -/
theorem quoteRun_escapeLines {k : Nat} (hk : k ≤ 2) (s : List Char) :
    k + quoteRun '"' (escapeLines k s) ≤ 2 := by
  induction s generalizing k with
  | nil => exact hk
  | cons c s ih =>
    unfold escapeLines
    split_ifs with hquote hfull hline
    · rw [quoteRun_of_ne (by decide)]
      exact hk
    · rw [quoteRun_self]
      have := ih (k := k + 1) (by omega)
      omega
    · rw [quoteRun_of_ne (by decide)]
      exact hk
    · obtain ⟨d, e, he, hd, -⟩ := escapeChar_head c
      rw [he, List.cons_append, quoteRun_of_ne hd]
      exact hk

/-- Where nothing but quotes is written, the text is nothing but quotes. -/
theorem escapeLines_eq_self {k n : Nat} (h : escapeLines k s = List.replicate n '"') :
    escapeLines k s = s := by
  induction s generalizing k n with
  | nil => rfl
  | cons c s ih =>
    have hfirst {d : Char} {more : List Char} (h : d :: more = List.replicate n '"') :
        d = '"' ∧ more = List.replicate (n - 1) '"' := by
      cases n with
      | zero => cases h
      | succ n => simpa [List.replicate_succ] using h
    unfold escapeLines at h ⊢
    split_ifs at h ⊢ with hquote hfull hline
    · exact absurd (hfirst h).1 (by decide)
    · rw [hquote, ih (hfirst h).2]
    · exact absurd (hfirst h).1 (by decide)
    · obtain ⟨d, e, he, hd, -⟩ := escapeChar_head c
      rw [he] at h
      exact absurd (hfirst h).1 hd

/-- A text between tripled double quotes is read back. -/
theorem readMultiBasic_escaped {k : Nat} (hk : k ≤ 2) (s : List Char) (hrest : NoQuote rest) :
    readMultiBasic (escapeLines k s ++ '"' :: '"' :: '"' :: rest) = some (s, rest) := by
  induction s generalizing k with
  | nil =>
    apply readMultiBasic_closing
    exact readClosing?_replicate (Nat.zero_le 2) fun c hc => (hrest c hc).1
  | cons c s ih =>
    have hrun := quoteRun_escapeLines hk (c :: s)
    -- The reader stops here only if nothing but quotes is left, and then it keeps them.
    rcases closing_cases (b := escapeLines k (c :: s)) (by omega) fun c hc => (hrest c hc).1 with
      ⟨hall, hclosing⟩ | ⟨-, hnone⟩
    · rw [escapeLines_eq_self hall] at hclosing ⊢
      exact readMultiBasic_closing hclosing
    · unfold escapeLines at hnone ⊢
      split_ifs at hnone ⊢ with hquote hfull hline
      · rw [List.cons_append, List.cons_append] at hnone ⊢
        rw [readMultiBasic_escape hnone rfl rfl, ih (by decide), hquote]
        rfl
      · rw [List.cons_append] at hnone ⊢
        rw [readMultiBasic_char hnone (by decide) (.inl rfl), ih (by omega), hquote]
        rfl
      · rw [List.cons_append] at hnone ⊢
        rw [readMultiBasic_char hnone (by decide) (.inr rfl), ih (by decide), hline]
        rfl
      · rw [List.append_assoc] at hnone ⊢
        rcases escapeChar_cases c with ⟨hc, hplain, -, hbackslash⟩ | ⟨e, hc, hread, hend⟩
        · rw [hc, List.singleton_append] at hnone ⊢
          rw [readMultiBasic_char hnone hbackslash (.inl hplain), ih (by decide)]
          rfl
        · rw [hc, List.cons_append] at hnone ⊢
          rw [readMultiBasic_escape hnone (hend _) (hread _), ih (by decide)]
          rfl

/-- What is written for a text begins with a line break only if the text does. -/
theorem escapeLines_head {k : Nat} (hlines : '\n' ∉ s) :
    ∀ c ∈ (escapeLines k s).head?, c ≠ '\n' ∧ c ≠ '\r' := by
  cases s with
  | nil => nofun
  | cons c s =>
    unfold escapeLines
    split_ifs with hquote hfull hline
    · rintro d ⟨⟩
      decide
    · rintro d ⟨⟩
      decide
    · exact absurd (hline ▸ List.mem_cons_self) hlines
    · obtain ⟨d, e, he, -, hd⟩ := escapeChar_head c
      rw [he]
      rintro d ⟨⟩
      exact hd

/-! ## The form that is chosen -/

theorem dropLineBreak_of_head? (h : ∀ c ∈ s.head?, c ≠ '\n' ∧ c ≠ '\r') : dropLineBreak s = s := by
  unfold dropLineBreak
  split
  · exact absurd rfl (h '\n' rfl).1
  · exact absurd rfl (h '\r' rfl).2
  · rfl

/-- Behind the opening quotes the line break is dropped that the writer put there, and no other. -/
theorem dropLineBreak_breaks {form : StringForm} (hform : form = .multiBasic ∨ form = .multiLiteral)
    (hhead : '\n' ∉ s → ∀ c ∈ b.head?, c ≠ '\n' ∧ c ≠ '\r') (hq : q ≠ '\n' ∧ q ≠ '\r') :
    dropLineBreak ((if form.breaks s then ['\n'] else []) ++ (b ++ q :: rest)) = b ++ q :: rest := by
  have hbreaks : form.breaks s ↔ '\n' ∈ s := by simp [StringForm.breaks, hform]
  by_cases hlines : '\n' ∈ s
  · rw [if_pos (hbreaks.mpr hlines)]
    rfl
  · rw [if_neg fun h => hlines (hbreaks.mp h)]
    apply dropLineBreak_of_head?
    cases b with
    | nil =>
      rintro d ⟨⟩
      exact hq
    | cons c b => exact hhead hlines

/-- What it takes for a text to be written in a form. -/
def StringForm.Fits (s : List Char) : StringForm → Prop
  | .basic | .multiBasic => True
  | .literal => s ≠ [] ∧ ∀ c ∈ s, isPlainChar c ∧ c ≠ '\''
  | .multiLiteral => (∀ c ∈ s, IsLineChar c) ∧ hasInfix ['\'', '\'', '\''] s = false

/-- A text is written in a form that fits it. -/
theorem StringForm.fits_choose (s : List Char) : (choose s).Fits s := by
  have hline (h : s.any needsEscape = false) : ∀ c ∈ s, IsLineChar c := by
    intro c hc
    have := List.any_eq_false.mp h c hc
    by_cases hbreak : c = '\n'
    · exact .inr hbreak
    · exact .inl (by simpa [needsEscape, hbreak] using this)
  unfold choose
  dsimp only
  split_ifs with hbasic hliteral hmulti hmultiLiteral hlines
  · trivial
  · simp only [Bool.and_eq_true, Bool.not_eq_true', List.contains_eq_mem,
      decide_eq_false_iff_not] at hliteral
    obtain ⟨⟨hcontrol, hquote⟩, hbreak⟩ := hliteral
    refine ⟨?_, ?_⟩
    · rintro rfl
      exact hbasic rfl
    · intro c hc
      refine ⟨(hline hcontrol c hc).resolve_right ?_, ?_⟩
      · rintro rfl
        exact hbreak hc
      · rintro rfl
        exact hquote hc
  · trivial
  · simp only [Bool.and_eq_true, Bool.not_eq_true'] at hmultiLiteral
    exact ⟨hline hmultiLiteral.1, hmultiLiteral.2⟩
  · trivial
  · trivial

theorem readString_basic (h : ∀ more, s ≠ '"' :: '"' :: more) :
    readString ('"' :: s) = readBasic s := by
  unfold readString
  split
  · rename_i hs
    cases hs
    exact absurd rfl (h _)
  · rename_i hs
    cases hs
  · rename_i hs
    cases hs
    rfl
  · rename_i hs
    cases hs
  · rename_i hs _
    exact (hs s rfl).elim

theorem readString_literal (h : ∀ more, s ≠ '\'' :: '\'' :: more) :
    readString ('\'' :: s) = readLiteral s := by
  unfold readString
  split
  · rename_i hs
    cases hs
  · rename_i hs
    cases hs
    exact absurd rfl (h _)
  · rename_i hs
    cases hs
  · rename_i hs
    cases hs
    rfl
  · rename_i hs
    exact (hs s rfl).elim

/-- A string is read back in the form in which it is written. -/
theorem readString_quoted (s : List Char) (hrest : NoQuote rest) :
    readString (quoted s ++ rest) = some (s, rest) := by
  have hfits := StringForm.fits_choose s
  unfold quoted
  generalize StringForm.choose s = form at hfits
  simp only [List.append_assoc]
  cases form with
  | basic =>
    change readString ('"' :: (s.flatMap escapeChar ++ '"' :: rest)) = _
    rw [readString_basic, readBasic_escaped]
    -- No quote follows the closing one, and what is written for a character is no quote.
    intro more h
    cases s with
    | nil =>
      cases rest with
      | nil => cases h
      | cons c rest =>
        cases h
        exact (hrest '"' rfl).1 rfl
    | cons c s =>
      obtain ⟨d, e, he, hd, -⟩ := escapeChar_head c
      rw [List.flatMap_cons, he] at h
      exact hd (List.cons.inj h).1
  | literal =>
    obtain ⟨hne, hs⟩ := hfits
    change readString ('\'' :: (s ++ '\'' :: rest)) = _
    rw [readString_literal, readLiteral_direct hs]
    intro more h
    cases s with
    | nil => exact hne rfl
    | cons c s => exact (hs c List.mem_cons_self).2 (List.cons.inj h).1
  | multiBasic =>
    change readMultiBasic (dropLineBreak ((if StringForm.multiBasic.breaks s then ['\n'] else [])
      ++ (escapeLines 0 s ++ '"' :: '"' :: '"' :: rest))) = _
    rw [dropLineBreak_breaks (.inl rfl) _ (by decide), readMultiBasic_escaped (by decide) s hrest]
    exact escapeLines_head
  | multiLiteral =>
    obtain ⟨hs, hfree⟩ := hfits
    change readMultiLiteral (dropLineBreak ((if StringForm.multiLiteral.breaks s then ['\n'] else [])
      ++ (s ++ '\'' :: '\'' :: '\'' :: rest))) = _
    rw [dropLineBreak_breaks (.inr rfl) _ (by decide), readMultiLiteral_direct hs hfree hrest]
    intro hlines c hc
    have hmem := List.mem_of_mem_head? hc
    refine ⟨?_, (hs c hmem).ne_return⟩
    rintro rfl
    exact hlines hmem

end Toml

end MarkupGate
