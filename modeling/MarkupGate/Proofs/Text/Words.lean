import Mathlib
import MarkupGate.Text.Ascii
import MarkupGate.Text.Blank

/-!
# Words

Words with single spaces between them are read back as they are, and the case of letters does not
matter to where words begin and end.
-/

namespace MarkupGate

variable {s : List Char} {w : List Char} {ws : List (List Char)}

/-- Whether a text can be a word: it holds a character and no blank. -/
def Unbroken (w : List Char) : Prop := w ≠ [] ∧ ∀ c ∈ w, isBlankChar c = false

theorem splitAll_ne_nil (cut : Char → Bool) (s : List Char) : splitAll cut s ≠ [] := by
  cases s with
  | nil => simp [splitAll]
  | cons c cs =>
    rw [splitAll]
    split
    · simp
    · split <;> simp

/-- A first part without cuts is split off whole. -/
theorem splitAll_append {cut : Char → Bool} {part : List Char} (hpart : ∀ c ∈ part, cut c = false)
    {c : Char} (hc : cut c) (s : List Char) :
    splitAll cut (part ++ c :: s) = part :: splitAll cut s := by
  induction part with
  | nil => simp [splitAll, hc]
  | cons d ds ih =>
    simp [splitAll, hpart d (by simp), ih fun e he => hpart e (List.mem_cons_of_mem _ he)]

theorem splitAll_of_forall {cut : Char → Bool} {part : List Char}
    (hpart : ∀ c ∈ part, cut c = false) : splitAll cut part = [part] := by
  induction part with
  | nil => rfl
  | cons d ds ih =>
    simp [splitAll, hpart d (by simp), ih fun e he => hpart e (List.mem_cons_of_mem _ he)]

/-- The parts of a text hold its characters, and no cuts. -/
theorem mem_of_mem_splitAll {cut : Char → Bool} {part : List Char} (h : part ∈ splitAll cut s) :
    ∀ c ∈ part, cut c = false ∧ c ∈ s := by
  induction s generalizing part with
  | nil =>
    rw [List.mem_singleton.1 h]
    simp
  | cons d ds ih =>
    rw [splitAll] at h
    split at h
    · rcases List.mem_cons.1 h with rfl | h
      · simp
      · exact fun c hc => (ih h c hc).imp id (List.mem_cons_of_mem _)
    · rename_i hd
      split at h
      · rename_i hnil
        exact absurd hnil (splitAll_ne_nil cut ds)
      · rename_i first parts hparts
        rcases List.mem_cons.1 h with rfl | h
        · rintro c (- | ⟨-, hc⟩)
          · exact ⟨by simpa using hd, by simp⟩
          · exact (ih (by simp [hparts]) c hc).imp id (List.mem_cons_of_mem _)
        · exact fun c hc => (ih (by simp [hparts, h]) c hc).imp id (List.mem_cons_of_mem _)

/-- The words of a text are words. -/
theorem unbroken_of_mem_words (h : w ∈ words s) : Unbroken w ∧ ∀ c ∈ w, c ∈ s := by
  obtain ⟨hw, hne⟩ := List.mem_filter.1 h
  have := mem_of_mem_splitAll hw
  exact ⟨⟨by simpa using hne, fun c hc => (this c hc).1⟩, fun c hc => (this c hc).2⟩

/-- Every character at which a text is not cut is in one of its parts. -/
theorem exists_mem_splitAll {cut : Char → Bool} {c : Char} (hc : c ∈ s) (hcut : cut c = false) :
    ∃ part ∈ splitAll cut s, c ∈ part := by
  induction s with
  | nil => cases hc
  | cons d ds ih =>
    rw [splitAll]
    rcases List.mem_cons.1 hc with rfl | hc
    · rw [if_neg (by simp [hcut])]
      split
      · exact ⟨_, List.mem_cons_self, List.mem_cons_self⟩
      · exact ⟨_, List.mem_cons_self, List.mem_cons_self⟩
    · obtain ⟨part, hpart, hmem⟩ := ih hc
      split
      · exact ⟨part, List.mem_cons_of_mem _ hpart, hmem⟩
      · split
        · rename_i hnil
          exact absurd hnil (splitAll_ne_nil cut ds)
        · rename_i first parts hparts
          rw [hparts] at hpart
          rcases List.mem_cons.1 hpart with rfl | hpart
          · exact ⟨_, List.mem_cons_self, List.mem_cons_of_mem _ hmem⟩
          · exact ⟨part, List.mem_cons_of_mem _ hpart, hmem⟩

/-- The characters of a text that are no blanks are those of its words. -/
theorem mem_iff_exists_word {c : Char} (hblank : isBlankChar c = false) :
    c ∈ s ↔ ∃ w ∈ words s, c ∈ w := by
  constructor
  · intro hc
    obtain ⟨part, hpart, hmem⟩ := exists_mem_splitAll hc hblank
    refine ⟨part, List.mem_filter.2 ⟨hpart, ?_⟩, hmem⟩
    cases part with
    | nil => cases hmem
    | cons d ds => rfl
  · rintro ⟨w, hw, hc⟩
    exact (unbroken_of_mem_words hw).2 c hc

/-- Words with spaces between them are the words of what they make. -/
theorem words_intercalate (h : ∀ w ∈ ws, Unbroken w) : words ([' '].intercalate ws) = ws := by
  induction ws with
  | nil => rfl
  | cons w ws ih =>
    obtain ⟨hne, hw⟩ := h w (by simp)
    cases ws with
    | nil => simp [List.intercalate_singleton, words, splitAll_of_forall hw, hne]
    | cons v vs =>
      have ih := ih fun u hu => h u (List.mem_cons_of_mem _ hu)
      rw [words] at ih
      rw [List.intercalate_cons_cons, List.append_assoc, List.singleton_append, words,
        splitAll_append hw (by decide), List.filter_cons, ih]
      simp [hne]

theorem isBlankChar_toLower (c : Char) : isBlankChar c.toLower = isBlankChar c := by
  by_cases hupper : c.val ≥ 'A'.val ∧ c.val ≤ 'Z'.val
  · have hlow : 65 ≤ c.toNat ∧ c.toNat ≤ 90 := hupper
    have hsmall : c.toLower.toNat = c.toNat + 32 := by
      rw [Char.toLower, dif_pos hupper]
      change (c.val + 32).toNat = c.val.toNat + 32
      have : c.val.toNat ≤ 90 := hlow.2
      rw [UInt32.toNat_add]
      exact Nat.mod_eq_of_lt (by simp; omega)
    simp only [isBlankChar, hsmall]
    grind
  · rw [Char.toLower, dif_neg hupper]

theorem splitAll_map (cut : Char → Bool) (f : Char → Char) (hf : ∀ c, cut (f c) = cut c)
    (s : List Char) : splitAll cut (s.map f) = (splitAll cut s).map (List.map f) := by
  induction s with
  | nil => rfl
  | cons c cs ih =>
    rw [List.map_cons, splitAll, splitAll, hf, ih]
    split
    · rfl
    · cases splitAll cut cs <;> rfl

/-- The words of a text in small letters are its words in small letters. -/
theorem words_asciiLower (s : List Char) : words (asciiLower s) = (words s).map asciiLower := by
  rw [words, words, asciiLower, splitAll_map isBlankChar Char.toLower isBlankChar_toLower,
    List.filter_map]
  congr 1
  apply List.filter_congr
  intro w _
  simp

end MarkupGate
