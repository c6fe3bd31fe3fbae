import MarkupGate.Proofs.Markup.Respelling

/-!
# Where pieces end

Each piece is read off the front of a text, and how far it reaches depends on little of what comes
behind it. A list of pieces is `Spelled` if each of them is read in front of the others; these are
the lists that `lex` gives.

* `Piece.ReadsBefore.of_isDefinite`: comments, declarations and tags without opaque content are read
  in front of everything.
* `Piece.ReadsBefore.congr`: all pieces but the unterminated ones are read in front of texts with
  the `SameFront`.
* `Spelled.sameFront`: however open tags are rewritten, what stands in front of them is read as before.
* `Spelled.respell`: when open tags are written differently, all pieces are found again.
* `Spelled.insert`: pieces can be put in behind a definite piece.
-/

namespace MarkupGate

/-! ## Closing an opaque element -/

/-- The names of elements whose content is opaque. -/
def isOpaqueName (name : List Char) : Bool := isRawName name || isTextOnlyName name

theorem opensOpaque_iff {t : OpenTag} :
    t.opensOpaque ↔ t.selfClosing = false ∧ isOpaqueName (asciiLower t.name) := by
  cases h : t.selfClosing <;>
    simp [OpenTag.opensOpaque, OpenTag.opensRaw, OpenTag.opensTextOnly, isOpaqueName, h]

/-- The opaque elements have names of small letters. -/
theorem isLower_of_isOpaqueName {name : List Char} (h : isOpaqueName name) :
    name ≠ [] ∧ ∀ c ∈ name, c.isLower := by
  simp only [isOpaqueName, isRawName, isTextOnlyName, Bool.or_eq_true, decide_eq_true_eq] at h
  rcases h with (rfl | rfl) | (rfl | rfl) <;> exact ⟨by decide, List.all_eq_true.1 (by decide)⟩

theorem asciiLower_of_isLower {s : List Char} (h : ∀ c ∈ s, c.isLower) : asciiLower s = s := by
  induction s with
  | nil => rfl
  | cons c cs ih =>
    have hc : c.toLower = c := by
      have := h c (by simp)
      simp only [Char.isLower, Bool.and_eq_true, decide_eq_true_eq] at this
      simp only [Char.toLower]
      grind
    have := ih fun d hd => h d (List.mem_cons_of_mem _ hd)
    simp only [asciiLower, List.map_cons, hc] at this ⊢
    rw [this]

/-- A close tag of a name stands at the front where its brackets and its name do. -/
theorem closesElement_iff {name s : List Char} :
    closesElement name s
      ↔ ∃ w rest, s = '<' :: '/' :: (w ++ rest) ∧ asciiLower w = asciiLower name
        ∧ rest.head?.all (!isNameChar ·) := by
  constructor
  · intro h
    simp only [closesElement, Bool.and_eq_true, List.isPrefixOf_iff_prefix, beginsIgnoringCase,
      beq_iff_eq, Bool.not_eq_true'] at h
    obtain ⟨⟨⟨t, rfl⟩, hname⟩, hrest⟩ := h
    refine ⟨t.take name.length, t.drop name.length, by simp, hname.symm, ?_⟩
    simp only [List.cons_append, List.nil_append, Nat.add_comm 2, List.drop_succ_cons] at hrest
    cases hd : t.drop name.length <;> simp_all
  · rintro ⟨w, rest, rfl, hw, hrest⟩
    have hlen : w.length = name.length := by
      have := congrArg List.length hw
      simpa using this
    simp only [closesElement, Bool.and_eq_true, List.isPrefixOf_iff_prefix, beginsIgnoringCase,
      beq_iff_eq, Bool.not_eq_true']
    refine ⟨⟨⟨w ++ rest, rfl⟩, ?_⟩, ?_⟩
    · simp [← hlen, hw]
    · rw [← hlen, Nat.add_comm]
      cases hr : rest <;> simp_all

/-- The capitals and small letters of a small letter are letters. -/
theorem isAlpha_of_isLower_toLower {c : Char} (h : c.toLower.isLower) : c.isAlpha := by
  by_cases hupper : c.isUpper
  · simp [Char.isAlpha, hupper]
  · have hsame : c.toLower = c := by
      simp only [Char.isUpper, decide_eq_true_eq] at hupper
      simp only [Char.toLower]
      grind
    rw [hsame] at h
    simp [Char.isAlpha, h]

/-- An opaque name is written in letters. -/
theorem isAlpha_of_mem_opaque {name w : List Char} (hname : isOpaqueName name)
    (hw : asciiLower w = name) : ∀ c ∈ w, c.isAlpha := by
  intro c hc
  refine isAlpha_of_isLower_toLower ((isLower_of_isOpaqueName hname).2 _ ?_)
  rw [← hw]
  exact List.mem_map_of_mem hc

/-- What closes an opaque element begins markup. -/
theorem beginsMarkup_of_closesElement {name s : List Char} (hname : isOpaqueName name)
    (h : closesElement name s) : beginsMarkup s := by
  obtain ⟨w, rest, rfl, hw, -⟩ := closesElement_iff.1 h
  obtain ⟨hne, hlower⟩ := isLower_of_isOpaqueName hname
  rw [asciiLower_of_isLower hlower] at hw
  cases w with
  | nil => exact absurd hw.symm hne
  | cons c cs => simp [beginsMarkup, isAlpha_of_mem_opaque hname hw c (by simp)]

/-! ## The front of a text -/

/-- Whether two texts are the same as far as a reader of pieces looks ahead. -/
structure SameFront (r r' : List Char) : Prop where
  /-- the next character -/
  head : r.head? = r'.head?
  /-- whether markup begins -/
  markup : beginsMarkup r = beginsMarkup r'
  /-- which opaque elements are closed -/
  closes : ∀ name, isOpaqueName name → closesElement name r = closesElement name r'

theorem SameFront.refl (r : List Char) : SameFront r r := ⟨rfl, rfl, fun _ _ => rfl⟩

/-- A text at whose front markup may begin: it is empty or begins with a bracket. -/
def AtBracket (r : List Char) : Prop := r = [] ∨ r.head? = some '<'

theorem atBracket_of_beginsMarkup {r : List Char} (h : beginsMarkup r) : r.head? = some '<' := by
  unfold beginsMarkup at h
  split at h <;> simp_all

theorem SameFront.eq_nil {r r' : List Char} (h : SameFront r r') (hr : r = []) : r' = [] := by
  subst hr
  exact List.head?_eq_none_iff.1 h.head.symm

theorem beginsMarkup_of_ne {c : Char} (hc : c ≠ '<') (s : List Char) :
    beginsMarkup (c :: s) = false := by
  unfold beginsMarkup
  split <;> simp_all

theorem beginsMarkup_of_ne_slash {c : Char} (hc : c ≠ '/') (s : List Char) :
    beginsMarkup ('<' :: c :: s) = (c = '!' || c = '?' || c.isAlpha) := by
  unfold beginsMarkup
  split <;> simp_all

/-- Whether markup begins before a bracket does not depend on what follows the bracket. -/
theorem beginsMarkup_congr {u r r' : List Char} (hu : u ≠ []) (hr : AtBracket r)
    (hs : r.head? = r'.head?) : beginsMarkup (u ++ r) = beginsMarkup (u ++ r') := by
  rcases hr with rfl | hr
  · rw [List.head?_eq_none_iff.1 hs.symm]
  · obtain ⟨t, rfl⟩ := List.head?_eq_some_iff.1 hr
    obtain ⟨t', rfl⟩ := List.head?_eq_some_iff.1 (hs.symm.trans hr)
    obtain ⟨c, cs, rfl⟩ := List.exists_cons_of_ne_nil hu
    by_cases hc : c = '<'
    · subst hc
      cases cs with
      | nil => rfl
      | cons d ds =>
        by_cases hd : d = '/'
        · subst hd
          cases ds <;> rfl
        · simp only [List.cons_append, beginsMarkup_of_ne_slash hd]
    · simp only [List.cons_append, beginsMarkup_of_ne hc]

/-- Nor does it matter for the end of an opaque element. -/
theorem closesElement_append {name u t : List Char} (t' : List Char) (hname : isOpaqueName name)
    (hu : u ≠ []) (h : closesElement name (u ++ '<' :: t)) :
    closesElement name (u ++ '<' :: t') := by
  obtain ⟨w, rest, heq, hw, hrest⟩ := closesElement_iff.1 h
  obtain ⟨-, hlower⟩ := isLower_of_isOpaqueName hname
  have hbracket : '<' ∉ w := by
    intro hmem
    have : '<' ∈ asciiLower w := List.mem_map.2 ⟨'<', hmem, by decide⟩
    rw [hw, asciiLower_of_isLower hlower] at this
    exact absurd (hlower _ this) (by decide)
  obtain ⟨c, cs, rfl⟩ := List.exists_cons_of_ne_nil hu
  obtain ⟨rfl, htail⟩ : c = '<' ∧ cs ++ '<' :: t = '/' :: w ++ rest := by simpa using heq
  -- The bracket lies behind the name, which holds none.
  rcases List.append_eq_append_iff.1 htail with ⟨m, hm, ht⟩ | ⟨m, hm, hr⟩
  · cases m with
    | nil =>
      refine closesElement_iff.2 ⟨w, '<' :: t', ?_, hw, rfl⟩
      simp [show cs = '/' :: w by simpa using hm.symm]
    | cons d ds =>
      obtain ⟨rfl, -⟩ := List.cons.inj ht
      have : '<' ∈ '/' :: w := by simp [hm]
      simp [hbracket] at this
  · refine closesElement_iff.2 ⟨w, m ++ '<' :: t', by simp [hm], hw, ?_⟩
    cases m <;> simp_all

/-! ## Text and opaque content -/

/-- Text ends where markup begins or nothing follows. -/
theorem atBracket_of_readText {content r : List Char}
    (h : readText (content ++ r) = (content, r)) : AtBracket r := by
  induction content with
  | nil =>
    cases r with
    | nil => exact .inl rfl
    | cons c cs =>
      rw [List.nil_append, readText] at h
      split at h
      · rename_i hm
        exact .inr (atBracket_of_beginsMarkup hm)
      · simp at h
  | cons c cs ih =>
    rw [List.cons_append, readText] at h
    split at h
    · simp at h
    · refine ih ?_
      have := append_readText (cs ++ r)
      grind

theorem readText_congr {content r r' : List Char} (h : readText (content ++ r) = (content, r))
    (hs : SameFront r r') : readText (content ++ r') = (content, r') := by
  have hr := atBracket_of_readText h
  induction content with
  | nil =>
    cases r' with
    | nil => rfl
    | cons c' cs' =>
      cases r with
      | nil => exact absurd (hs.eq_nil rfl) (by simp)
      | cons c cs =>
        have hm : beginsMarkup (c :: cs) := by
          apply Decidable.byContradiction
          intro hm
          simp [readText, hm] at h
        rw [List.nil_append, readText, if_pos (hs.markup ▸ hm)]
  | cons c cs ih =>
    rw [List.cons_append, readText] at h ⊢
    have hfront : beginsMarkup (c :: (cs ++ r')) = beginsMarkup (c :: (cs ++ r)) :=
      (beginsMarkup_congr (u := c :: cs) (by simp) hr hs.head).symm
    split at h
    · simp at h
    · rename_i hm
      have hrest : readText (cs ++ r) = (cs, r) := by
        have := append_readText (cs ++ r)
        grind
      rw [hfront, if_neg hm, ih hrest]

theorem readOpaque_congr {name content r r' : List Char} (hname : isOpaqueName name)
    (h : readOpaque name (content ++ r) = (content, r)) (hs : SameFront r r') :
    readOpaque name (content ++ r') = (content, r') := by
  have hr : r = [] ∨ closesElement name r := by
    clear hs
    induction content with
    | nil =>
      cases r with
      | nil => exact .inl rfl
      | cons c cs =>
        right
        apply Decidable.byContradiction
        intro hcloses
        simp [readOpaque, hcloses] at h
    | cons c cs ih =>
      rw [List.cons_append, readOpaque] at h
      split at h
      · simp at h
      · refine ih ?_
        have := append_readOpaque name (cs ++ r)
        grind
  rcases hr with rfl | hr
  · rwa [hs.eq_nil rfl]
  have hbracket := atBracket_of_beginsMarkup (beginsMarkup_of_closesElement hname hr)
  obtain ⟨t, rfl⟩ := List.head?_eq_some_iff.1 hbracket
  obtain ⟨t', rfl⟩ := List.head?_eq_some_iff.1 (hs.head.symm.trans hbracket)
  induction content with
  | nil => rw [List.nil_append, readOpaque, if_pos (hs.closes name hname ▸ hr)]
  | cons c cs ih =>
    rw [List.cons_append, readOpaque] at h ⊢
    have hfront : closesElement name (c :: (cs ++ '<' :: t'))
        = closesElement name (c :: (cs ++ '<' :: t)) := by
      rw [Bool.eq_iff_iff]
      exact ⟨closesElement_append t hname (u := c :: cs) (by simp),
        closesElement_append t' hname (u := c :: cs) (by simp)⟩
    split at h
    · simp at h
    · rename_i hcloses
      have hrest : readOpaque name (cs ++ '<' :: t) = (cs, '<' :: t) := by
        have := append_readOpaque name (cs ++ '<' :: t)
        grind
      rw [hfront, if_neg hcloses, ih hrest]

/-! ## Pieces -/

/-- The markup that begins with a letter is an open tag. -/
theorem readMarkup?_letter {c : Char} (hc : c.isAlpha) (cs : List Char) :
    readMarkup? (c :: cs)
      = (readOpenTag (c :: cs)).map fun (t, rest) =>
          if t.opensOpaque then
            let (content, rest) := readOpaque (asciiLower t.name) rest
            (.openTag t content, rest)
          else (.openTag t [], rest) := by
  unfold readMarkup?
  split <;> simp_all [Char.isAlpha, Char.isUpper, Char.isLower]

/-- Behind `<!` something other than a comment is a declaration. -/
theorem readMarkup?_declaration {s : List Char} (h : ∀ t, s ≠ '-' :: '-' :: t) :
    readMarkup? ('!' :: s)
      = (breakOn? ['>'] s).map fun x => (.declaration '!' x.1, x.2) := by
  unfold readMarkup?
  split <;> simp_all

namespace Piece

/-- Whether the piece is a run of text. -/
def isText : Piece → Bool
  | text _ => true
  | _ => false

/-- Whether the piece shows by itself where it ends. -/
def isDefinite : Piece → Bool
  | comment _ | declaration _ _ | closeTag _ _ => true
  | openTag t _ => !t.opensOpaque
  | text _ | unterminated _ => false

/-- Whether the piece is taken off the front where it stands before a text. -/
def ReadsBefore (p : Piece) (rest : List Char) : Prop :=
  ∃ c cs, p.source ++ rest = c :: cs ∧ readPiece c cs = (p, rest)

theorem ReadsBefore.beginsMarkup_eq {p : Piece} {rest : List Char} (h : p.ReadsBefore rest) :
    beginsMarkup (p.source ++ rest) = !p.isText := by
  obtain ⟨c, cs, hs, hread⟩ := h
  rw [hs]
  rw [readPiece] at hread
  split at hread
  · rename_i hm
    cases hmarkup : readMarkup? cs with
    | none =>
      rw [hmarkup] at hread
      cases hread
      simp [hm, isText]
    | some pr =>
      rw [hmarkup, Option.getD_some] at hread
      subst hread
      rw [hm]
      cases readMarkup?_eq_some hmarkup <;> rfl
  · rename_i hm
    cases hread
    simp [hm, isText]

/-- Whether the piece is markup that ends. -/
def isMarkup : Piece → Bool
  | text _ | unterminated _ => false
  | _ => true

/-- Markup is taken off the front where `readMarkup?` reads it behind a bracket. -/
theorem readsBefore_iff_readMarkup? {p : Piece} {rest : List Char} (hp : p.isMarkup) :
    p.ReadsBefore rest
      ↔ ∃ s, p.source ++ rest = '<' :: s ∧ beginsMarkup ('<' :: s)
        ∧ readMarkup? s = some (p, rest) := by
  constructor
  · intro h
    have hmarkup : beginsMarkup (p.source ++ rest) := by
      rw [h.beginsMarkup_eq]
      cases p <;> simp_all [isMarkup, isText]
    obtain ⟨c, cs, hs, hread⟩ := h
    rw [hs] at hmarkup
    obtain rfl : c = '<' := by simpa using atBracket_of_beginsMarkup hmarkup
    rw [readPiece, if_pos hmarkup] at hread
    refine ⟨cs, hs, hmarkup, ?_⟩
    cases hm : readMarkup? cs with
    | none =>
      rw [hm, Option.getD_none] at hread
      cases hread
      simp [isMarkup] at hp
    | some pr => rw [← hread, hm, Option.getD_some]
  · rintro ⟨s, hs, hmarkup, hread⟩
    refine ⟨'<', s, hs, ?_⟩
    rw [readPiece, if_pos hmarkup, hread, Option.getD_some]

/-- An open tag is taken off the front where it is complete and its content ends. -/
theorem openTag_readsBefore_iff {t : OpenTag} {content rest : List Char} :
    (openTag t content).ReadsBefore rest
      ↔ t.Complete ∧ (∃ c cs, t.name = c :: cs ∧ c.isAlpha)
        ∧ if t.opensOpaque then readOpaque (asciiLower t.name) (content ++ rest) = (content, rest)
          else content = [] := by
  rw [readsBefore_iff_readMarkup? rfl]
  constructor
  · rintro ⟨s, hs, hmarkup, hread⟩
    cases readMarkup?_eq_some hread with
    | @openTag _ _ behind _ _ hmark htag hcontent =>
      obtain ⟨d, ds, rfl, hd⟩ : ∃ d ds, s = d :: ds ∧ d.isAlpha := by
        cases s with
        | nil => simp [beginsMarkup] at hmarkup
        | cons d ds =>
          obtain ⟨hbang, hquestion, hslash⟩ := hmark d rfl
          rw [beginsMarkup_of_ne_slash hslash] at hmarkup
          exact ⟨d, ds, rfl, by simpa [hbang, hquestion] using hmarkup⟩
      have hname : ∃ es, t.name = d :: es := by
        obtain ⟨⟨parts, e⟩, -, heq⟩ := Option.map_eq_some_iff.1 htag
        cases heq
        exact ⟨_, List.takeWhile_cons_of_pos (by simp [isNameChar, Char.isAlphanum, hd])⟩
      obtain ⟨es, hes⟩ := hname
      refine ⟨(readOpenTag_iff.1 htag).2, ⟨d, es, hes, hd⟩, ?_⟩
      by_cases hopens : t.opensOpaque
      · rw [if_pos hopens] at hcontent ⊢
        have hbehind := append_readOpaque (asciiLower t.name) behind
        rw [hcontent] at hbehind
        rw [hbehind, hcontent]
      · rw [if_neg hopens] at hcontent ⊢
        exact (Prod.mk.inj hcontent).1.symm
  · rintro ⟨hcomplete, ⟨d, es, hname, hd⟩, hcontent⟩
    have hslash : d ≠ '/' := by
      rintro rfl
      exact absurd hd (by decide)
    have hread : readOpenTag (d :: (es ++ (t.parts.flatMap TagPart.source ++ (t.ending
        ++ (content ++ rest))))) = some (t, content ++ rest) := by
      refine readOpenTag_iff.2 ⟨?_, hcomplete⟩
      simp [OpenTag.source, hname]
    refine ⟨_, by simp [source, OpenTag.source, hname]; rfl, ?_, ?_⟩
    · rw [beginsMarkup_of_ne_slash hslash]
      simp [hd]
    · rw [readMarkup?_letter hd, hread, Option.map_some]
      by_cases hopens : t.opensOpaque
      · rw [if_pos hopens] at hcontent
        simp only [hopens, if_true, hcontent]
      · rw [if_neg hopens] at hcontent
        simp [hopens, hcontent]

/-- A close tag is taken off the front where its name begins with a letter and does not go on. -/
theorem closeTag_readsBefore_iff {name trailing rest : List Char} :
    (closeTag name trailing).ReadsBefore rest
      ↔ (∃ c cs, name = c :: cs ∧ c.isAlpha) ∧ (∀ c ∈ name, isNameChar c)
        ∧ (trailing ++ ['>']).head?.all (!isNameChar ·) ∧ '>' ∉ trailing := by
  rw [readsBefore_iff_readMarkup? rfl]
  have hhead : ∀ r : List Char, (trailing ++ '>' :: r).head? = (trailing ++ ['>']).head? := by
    intro r
    cases trailing <;> rfl
  constructor
  · rintro ⟨s, hs, hmarkup, hread⟩
    obtain rfl : '/' :: (name ++ (trailing ++ '>' :: rest)) = s := by simpa [source] using hs
    obtain ⟨⟨b, r⟩, hb, heq⟩ := Option.map_eq_some_iff.1 hread
    simp only [Prod.mk.injEq, closeTag.injEq] at heq
    obtain ⟨⟨hname, rfl⟩, rfl⟩ := heq
    obtain ⟨hdrop, hgt⟩ := breakOn?_singleton.1 hb
    refine ⟨?_, ?_, ?_, hgt⟩
    · cases name with
      | nil =>
        -- An empty name would be followed by the letter that begins the markup.
        exfalso
        have hnot := head?_dropWhile_all isNameChar ([] ++ (b ++ '>' :: r))
        rw [hdrop] at hnot
        cases b with
        | nil => simp [beginsMarkup, Char.isAlpha, Char.isUpper, Char.isLower] at hmarkup
        | cons d ds => simp_all [beginsMarkup, isNameChar, Char.isAlphanum]
      | cons d ds => exact ⟨d, ds, rfl, hmarkup⟩
    · intro c hc
      rw [← hname] at hc
      exact all_takeWhile c hc
    · rw [← hhead r, ← hdrop]
      exact head?_dropWhile_all _ _
  · rintro ⟨⟨c, cs, hname, hc⟩, hall, hend, hgt⟩
    obtain ⟨htake, hdrop⟩ := span_of_all hall (hhead rest ▸ hend)
    refine ⟨'/' :: (name ++ (trailing ++ '>' :: rest)), by simp [source], by simp [hname,
      beginsMarkup, hc], ?_⟩
    simp only [readMarkup?, htake, hdrop, breakOn?_singleton.2 ⟨rfl, hgt⟩, Option.map_some]

/-- A definite piece is taken off the front of everything. -/
theorem ReadsBefore.of_isDefinite {p : Piece} {rest : List Char} (h : p.ReadsBefore rest)
    (hp : p.isDefinite) (rest' : List Char) : p.ReadsBefore rest' := by
  cases p with
  | text content => cases hp
  | unterminated content => cases hp
  | openTag t content =>
    obtain ⟨hcomplete, hname, hcontent⟩ := openTag_readsBefore_iff.1 h
    have hopens : t.opensOpaque = false := by simpa [isDefinite] using hp
    refine openTag_readsBefore_iff.2 ⟨hcomplete, hname, ?_⟩
    simpa [hopens] using hcontent
  | comment body =>
    obtain ⟨s, -, -, hread⟩ := (readsBefore_iff_readMarkup? rfl).1 h
    cases readMarkup?_eq_some hread with
    | comment hbody =>
      obtain rfl := append_of_breakOn? hbody
      refine (readsBefore_iff_readMarkup? rfl).2 ⟨_, rfl, rfl, ?_⟩
      simpa [readMarkup?] using breakOn?_congr rest' hbody
  | declaration mark body =>
    obtain ⟨s, -, -, hread⟩ := (readsBefore_iff_readMarkup? rfl).1 h
    cases readMarkup?_eq_some hread with
    | declaration hmark hdashes hbody =>
      obtain rfl := append_of_breakOn? hbody
      have hfound := breakOn?_congr rest' hbody
      -- The characters behind the mark belong to the declaration, so it is no comment either way.
      have hplain : mark = '!' → ∀ t, body ++ ['>'] ++ rest' ≠ '-' :: '-' :: t := by
        intro hbang t ht
        rcases body with _ | ⟨c, _ | ⟨d, ds⟩⟩
        · simp at ht
        · simp at ht
        · obtain ⟨rfl, rfl, -⟩ : c = '-' ∧ d = '-' ∧ ds ++ ['>'] ++ rest' = t := by simpa using ht
          exact hdashes hbang _ rfl
      refine (readsBefore_iff_readMarkup? rfl).2
        ⟨mark :: (body ++ ['>'] ++ rest'), by simp [source], ?_, ?_⟩
      · rcases hmark with rfl | rfl <;> rfl
      · rcases hmark with rfl | rfl
        · rw [readMarkup?_declaration (hplain rfl), hfound]
          rfl
        · rw [readMarkup?, hfound]
          rfl
  | closeTag name trailing =>
    exact closeTag_readsBefore_iff.2 (closeTag_readsBefore_iff.1 h)

/-- A run of text is taken off the front up to where markup begins. -/
theorem text_readsBefore_iff {content rest : List Char} :
    (text content).ReadsBefore rest
      ↔ content ≠ [] ∧ readText (content ++ rest) = (content, rest) := by
  constructor
  · intro h
    have hmarkup := h.beginsMarkup_eq
    obtain ⟨c, cs, hs, hread⟩ := h
    rw [hs, isText, Bool.not_true] at hmarkup
    rw [readPiece, if_neg (by simp [hmarkup])] at hread
    simp only [source] at hs
    simp only [Prod.mk.injEq, text.injEq] at hread
    obtain ⟨rfl, hrest⟩ := hread
    refine ⟨by simp, ?_⟩
    rw [hs, readText, if_neg (by simp [hmarkup]), ← hrest]
  · rintro ⟨hne, hread⟩
    obtain ⟨c, cs, rfl⟩ := List.exists_cons_of_ne_nil hne
    rw [List.cons_append, readText] at hread
    split at hread
    · simp at hread
    · rename_i hmarkup
      refine ⟨c, cs ++ rest, rfl, ?_⟩
      rw [readPiece, if_neg hmarkup]
      simp_all

/-- What does not end takes everything. -/
theorem unterminated_readsBefore {s rest : List Char} (h : (unterminated s).ReadsBefore rest) :
    rest = [] := by
  obtain ⟨c, cs, -, hread⟩ := h
  rw [readPiece] at hread
  split at hread
  · cases hm : readMarkup? cs with
    | none =>
      rw [hm, Option.getD_none] at hread
      exact (congrArg Prod.snd hread).symm
    | some pr =>
      rw [hm, Option.getD_some] at hread
      subst hread
      cases readMarkup?_eq_some hm
  · cases hread

/-- A piece is taken off the front of all texts with the same front. -/
theorem ReadsBefore.congr {p : Piece} {rest rest' : List Char} (h : p.ReadsBefore rest)
    (hs : SameFront rest rest') : p.ReadsBefore rest' := by
  cases p with
  | comment body => exact h.of_isDefinite rfl rest'
  | declaration mark body => exact h.of_isDefinite rfl rest'
  | closeTag name trailing => exact h.of_isDefinite rfl rest'
  | text content =>
    obtain ⟨hne, hread⟩ := text_readsBefore_iff.1 h
    exact text_readsBefore_iff.2 ⟨hne, readText_congr hread hs⟩
  | openTag t content =>
    obtain ⟨hcomplete, hname, hcontent⟩ := openTag_readsBefore_iff.1 h
    refine openTag_readsBefore_iff.2 ⟨hcomplete, hname, ?_⟩
    by_cases hopens : t.opensOpaque
    · rw [if_pos hopens] at hcontent ⊢
      exact readOpaque_congr (opensOpaque_iff.1 hopens).2 hcontent hs
    · rwa [if_neg hopens] at hcontent ⊢
  | unterminated content =>
    obtain rfl := unterminated_readsBefore h
    rwa [hs.eq_nil rfl]

/-- Whether the piece ends an opaque element of a name: its close tag, or what is left of one at the
end of the text. -/
def closes (name : List Char) : Piece → Bool
  | closeTag closed _ => asciiLower closed = name
  | unterminated s => closesElement name s
  | _ => false

theorem ReadsBefore.closesElement_eq {p : Piece} {name rest : List Char} (h : p.ReadsBefore rest)
    (hname : isOpaqueName name) : closesElement name (p.source ++ rest) = p.closes name := by
  have hlower := asciiLower_of_isLower (isLower_of_isOpaqueName hname).2
  cases p with
  | unterminated s =>
    obtain rfl := unterminated_readsBefore h
    rw [List.append_nil]
    rfl
  | text content =>
    have := h.beginsMarkup_eq
    apply Bool.eq_false_iff.2
    intro hcloses
    simp [beginsMarkup_of_closesElement hname hcloses, isText] at this
  | comment body =>
    apply Bool.eq_false_iff.2
    intro hcloses
    obtain ⟨w, r, heq, -⟩ := closesElement_iff.1 hcloses
    simp [source] at heq
  | declaration mark body =>
    apply Bool.eq_false_iff.2
    intro hcloses
    obtain ⟨w, r, heq, -⟩ := closesElement_iff.1 hcloses
    obtain ⟨s, hs, -, hread⟩ := (readsBefore_iff_readMarkup? rfl).1 h
    obtain ⟨rfl, -⟩ : mark = '/' ∧ body ++ ['>'] ++ rest = w ++ r := by
      simpa [source] using heq
    obtain rfl : '/' :: (body ++ '>' :: rest) = s := by simpa [source] using hs
    obtain ⟨⟨b, r⟩, -, heq⟩ := Option.map_eq_some_iff.1 hread
    cases heq
  | openTag t content =>
    apply Bool.eq_false_iff.2
    intro hcloses
    obtain ⟨w, r, heq, -⟩ := closesElement_iff.1 hcloses
    obtain ⟨-, ⟨c, cs, hc, halpha⟩, -⟩ := openTag_readsBefore_iff.1 h
    obtain ⟨rfl, -⟩ : c = '/' ∧ _ := by simpa [source, OpenTag.source, hc] using heq
    exact absurd halpha (by decide)
  | closeTag closed trailing =>
    obtain ⟨-, hall, hend, -⟩ := closeTag_readsBefore_iff.1 h
    have hsource : (closeTag closed trailing).source ++ rest
        = '<' :: '/' :: (closed ++ (trailing ++ '>' :: rest)) := by simp [source]
    have hhead : (trailing ++ '>' :: rest).head?.all (!isNameChar ·) := by
      cases trailing <;> simpa using hend
    rw [hsource, Bool.eq_iff_iff, closes, decide_eq_true_eq, closesElement_iff, hlower]
    constructor
    · rintro ⟨w, r, heq, hw, hr⟩
      -- Both names end where the name characters end.
      have hwall : ∀ c ∈ w, isNameChar c := fun c hc => by
        simp [isNameChar, Char.isAlphanum, isAlpha_of_mem_opaque hname hw c hc]
      have heq' : closed ++ (trailing ++ '>' :: rest) = w ++ r := by simpa using heq
      obtain ⟨htake, -⟩ := span_of_all hall hhead
      obtain ⟨htake', -⟩ := span_of_all hwall hr
      rw [← htake, heq', htake', hw]
    · rintro rfl
      exact ⟨closed, trailing ++ '>' :: rest, rfl, rfl, hhead⟩

theorem ReadsBefore.source_ne_nil {p : Piece} {rest : List Char} (h : p.ReadsBefore rest) :
    p.source ≠ [] := by
  obtain ⟨c, cs, hs, hread⟩ := h
  have := source_readPiece_ne_nil c cs
  rwa [hread] at this

end Piece

/-- A piece has the same front in front of all texts in which it is read. -/
theorem SameFront.of_readsBefore {p : Piece} {rest rest' : List Char} (h : p.ReadsBefore rest)
    (h' : p.ReadsBefore rest') : SameFront (p.source ++ rest) (p.source ++ rest') := by
  refine ⟨?_, by rw [h.beginsMarkup_eq, h'.beginsMarkup_eq], ?_⟩
  · obtain ⟨c, cs, hc⟩ := List.exists_cons_of_ne_nil h.source_ne_nil
    rw [hc]
    rfl
  · intro name hname
    rw [h.closesElement_eq hname, h'.closesElement_eq hname]

/-- Texts that begin with the same letter behind a bracket have the same front. -/
theorem SameFront.of_letter {c : Char} (hc : c.isAlpha) (s s' : List Char) :
    SameFront ('<' :: c :: s) ('<' :: c :: s') := by
  have hslash : c ≠ '/' := by
    rintro rfl
    exact absurd hc (by decide)
  have hfree : ∀ name behind, closesElement name ('<' :: c :: behind) = false := by
    intro name behind
    rw [Bool.eq_false_iff]
    intro hcloses
    obtain ⟨w, rest, heq, -⟩ := closesElement_iff.1 hcloses
    simp_all
  refine ⟨rfl, ?_, fun name _ => ?_⟩
  · rw [beginsMarkup_of_ne_slash hslash, beginsMarkup_of_ne_slash hslash]
  · rw [hfree, hfree]

/-! ## Lists of pieces -/

/-- Whether each of some pieces is read in front of those behind it. -/
def Spelled : List Piece → Prop
  | [] => True
  | p :: ps => p.ReadsBefore (ps.flatMap Piece.source) ∧ Spelled ps

/-- The pieces of a text are spelled. -/
theorem spelled_lex (s : List Char) : Spelled (lex s) := by
  induction hn : s.length using Nat.strongRecOn generalizing s with
  | ind n ih =>
    subst hn
    cases s with
    | nil => simp [Spelled]
    | cons c cs =>
      rw [lex_cons]
      refine ⟨⟨c, cs, ?_, ?_⟩, ih _ (length_readPiece_lt c cs) _ rfl⟩
      · rw [flatMap_source_lex, source_readPiece]
      · rw [flatMap_source_lex]

/-- A piece that is read in front of a text is the first piece. -/
theorem Piece.ReadsBefore.lex_eq {p : Piece} {rest : List Char} (h : p.ReadsBefore rest) :
    lex (p.source ++ rest) = p :: lex rest := by
  obtain ⟨c, cs, hs, hread⟩ := h
  rw [hs, lex_cons, hread]

/-- Spelled pieces are the pieces of the text that they spell. -/
theorem Spelled.lex_eq {ps : List Piece} (h : Spelled ps) : lex (ps.flatMap Piece.source) = ps := by
  induction ps with
  | nil => exact lex_nil
  | cons p ps ih => rw [List.flatMap_cons, h.1.lex_eq, ih h.2]

theorem Spelled.of_append {ps qs : List Piece} (h : Spelled (ps ++ qs)) : Spelled qs := by
  induction ps with
  | nil => exact h
  | cons p ps ih => exact ih h.2

/-- The open tags of a text end. -/
theorem OpenTag.Complete.of_lex {s content : List Char} {A B : List Piece} {t : OpenTag}
    (h : lex s = A ++ .openTag t content :: B) : t.Complete :=
  (Piece.openTag_readsBefore_iff.1 (h ▸ spelled_lex s).of_append.1).1

/-! ## Tags written differently -/

/-- A piece and what stands in its place: the same piece, or an open tag of the same name. -/
inductive Piece.Rewritten : Piece → Piece → Prop
  | same (p : Piece) : Rewritten p p
  | tag {t t' : OpenTag} (content : List Char) (h : t'.name = t.name) :
      Rewritten (.openTag t content) (.openTag t' content)

/-- However open tags are rewritten, the text begins like the old one. -/
theorem Spelled.sameFront {ps ps' : List Piece} (h : Spelled ps)
    (hps : List.Forall₂ Piece.Rewritten ps ps') :
    SameFront (ps.flatMap Piece.source) (ps'.flatMap Piece.source) := by
  induction hps with
  | nil => exact SameFront.refl _
  | @cons p p' ps ps' hp _ ih =>
    obtain ⟨hread, hspelled⟩ := h
    rw [List.flatMap_cons, List.flatMap_cons]
    cases hp with
    | same => exact SameFront.of_readsBefore hread (hread.congr (ih hspelled))
    | @tag t t' content hname =>
      obtain ⟨-, ⟨c, cs, hcs, hc⟩, -⟩ := Piece.openTag_readsBefore_iff.1 hread
      simp only [Piece.source, OpenTag.source, hname, hcs, List.cons_append]
      exact SameFront.of_letter hc _ _

/-- Whether an open tag can be written in another way without being read in another way. -/
structure OpenTag.Respells (t' t : OpenTag) : Prop where
  name : t'.name = t.name
  selfClosing : t'.selfClosing = t.selfClosing
  complete : t.Complete → t'.Complete

/-- A piece and one of its respellings. -/
inductive Piece.Respelled : Piece → Piece → Prop
  | same (p : Piece) : Respelled p p
  | tag {t t' : OpenTag} (content : List Char) (h : t'.Respells t) :
      Respelled (.openTag t content) (.openTag t' content)

namespace Piece

variable {p p' : Piece} {rest : List Char}

theorem Respelled.rewritten (h : Respelled p p') : Rewritten p p' := by
  cases h with
  | same => exact .same p
  | tag content h => exact .tag content h.name

/-- A respelled piece is read wherever the piece is. -/
theorem ReadsBefore.respell (h : p.ReadsBefore rest) (hp : Respelled p p') : p'.ReadsBefore rest := by
  cases hp with
  | same => exact h
  | @tag t t' content ht =>
    have hopens : t'.opensOpaque = t.opensOpaque := by
      simp [OpenTag.opensOpaque, OpenTag.opensRaw, OpenTag.opensTextOnly, ht.name, ht.selfClosing]
    obtain ⟨hcomplete, hname, hcontent⟩ := openTag_readsBefore_iff.1 h
    refine openTag_readsBefore_iff.2 ⟨ht.complete hcomplete, ht.name ▸ hname, ?_⟩
    rwa [hopens, ht.name]

end Piece

/-- With open tags written differently, the pieces of a text stay its pieces. -/
theorem Spelled.respell {ps ps' : List Piece} (h : Spelled ps)
    (hps : List.Forall₂ Piece.Respelled ps ps') : Spelled ps' := by
  induction hps with
  | nil => exact trivial
  | @cons p p' ps ps' hp hrest ih =>
    obtain ⟨hread, hspelled⟩ := h
    have hfront := hspelled.sameFront (hrest.imp fun _ _ => Piece.Respelled.rewritten)
    exact ⟨(hread.congr hfront).respell hp, ih hspelled⟩

/-! ## Pieces put in -/

/-- Pieces can be put in behind a definite piece, and before all others. -/
theorem Spelled.insert {ps qs new : List Piece} (h : Spelled (ps ++ qs))
    (hps : ∀ p ∈ ps.getLast?, p.isDefinite) (hnew : Spelled new)
    (hdefinite : ∀ p ∈ new, p.isDefinite) : Spelled (ps ++ (new ++ qs)) := by
  induction ps with
  | nil =>
    induction new with
    | nil => exact h
    | cons p new ih =>
      refine ⟨hnew.1.of_isDefinite (hdefinite p (by simp)) _, ih hnew.2 fun q hq => ?_⟩
      exact hdefinite q (List.mem_cons_of_mem _ hq)
  | cons p ps ih =>
    obtain ⟨hread, hspelled⟩ := h
    cases ps with
    | nil => exact ⟨hread.of_isDefinite (hps p rfl) _, ih hspelled (by simp)⟩
    | cons q ps =>
      have hrest := ih hspelled (by simpa using hps)
      refine ⟨hread.congr ?_, hrest⟩
      exact SameFront.of_readsBefore hspelled.1 hrest.1

end MarkupGate
