import MarkupGate.Proofs.Markup.Reading

/-!
# Rewriting attributes

A tag stays readable when one of its attributes is written differently, or when one is put in behind
its name, as long as the new attribute can be read where it stands.

* `Complete.replaceAttr`, `Complete.prependAttr`: the two ways in which a tag changes.
* `replaces_boolean`, `replaces_value`: the new attributes that can be read wherever the old one can.
* `ValueForm.Admits.exchange`: inside a value of any form, plain characters can be exchanged for
  others. In an expression this holds where the braces and strings around the exchanged characters do
  not end among them.
-/

namespace MarkupGate

/-! ## Attributes in a tag -/

/-- Whether an attribute can begin with a character. -/
def beginsAttr (c : Char) : Bool :=
  !isMarkupSpace c && c ≠ '/' && c ≠ '=' && c ≠ '{' && c ≠ '>'

/-- An attribute is read in a tag where its name begins like one. -/
theorem TagPart.attr_readsBefore_iff {w : WrittenAttr} {rest : List Char} :
    (TagPart.attr w).ReadsBefore rest
      ↔ (∃ c cs, w.name = c :: cs ∧ beginsAttr c) ∧ w.ReadsBefore rest := by
  constructor
  · rintro ⟨hend, hread⟩
    obtain ⟨c, cs, hs, ⟨-, hpart, -⟩ | ⟨hplain, ⟨-, inside, -, hpart⟩ | ⟨hbrace, a, ha, hpart⟩⟩⟩ :=
      exists_of_readPart hread
    · cases hpart
    · cases hpart
    · cases hpart
      simp only [TagPart.source] at hend hs
      have hgt : c ≠ '>' := by
        rintro rfl
        simp [hs, tagEnd?] at hend
      simp only [Bool.or_eq_false_iff, decide_eq_false_iff_not] at hplain
      refine ⟨⟨c, (readAttrName cs).1, ?_, ?_⟩, (WrittenAttr.readsBefore_iff.1 (hs ▸ ha)).2⟩
      · rw [name_of_readAttr ha]
        simp [readAttrName, hplain, hgt]
      · simp [beginsAttr, hplain, hbrace, hgt]
  · rintro ⟨⟨c, cs, hname, hc⟩, hread⟩
    have hs : w.source ++ rest = c :: (cs ++ (w.valueSource ++ rest)) := by
      simp [WrittenAttr.source, WrittenAttr.valueSource, hname]
    simp only [beginsAttr, Bool.and_eq_true, Bool.not_eq_true', decide_eq_true_eq] at hc
    obtain ⟨⟨⟨⟨hspace, hslash⟩, hequals⟩, hbrace⟩, hgt⟩ := hc
    have hattr := WrittenAttr.readsBefore_iff.2 ⟨rfl, hread⟩
    refine ⟨?_, ?_⟩
    · simp only [TagPart.source, hs]
      unfold tagEnd?
      split <;> simp_all
    · simp only [TagPart.source]
      rw [hs] at hattr ⊢
      rw [readPart_attr (by simp [hspace, hslash, hequals]) hbrace, hattr]
      rfl

/-- Whether an attribute can stand wherever another one of its name can. -/
structure WrittenAttr.Replaces (w' w : WrittenAttr) : Prop where
  name : w'.name = w.name
  readsBefore : ∀ rest, w.ReadsBefore rest → w'.ReadsBefore rest

/-- Parts in front of others are read in front of them, and the others in front of what follows. -/
theorem partsRead_append {ps qs : List TagPart} {rest : List Char} :
    PartsRead (ps ++ qs) rest
      ↔ PartsRead ps (qs.flatMap TagPart.source ++ rest) ∧ PartsRead qs rest := by
  induction ps with
  | nil => simp [PartsRead]
  | cons p ps ih => simp [PartsRead, ih, and_assoc]

/-- An attribute among parts begins like one, and is read in front of what follows. -/
theorem PartsRead.attr {ps qs : List TagPart} {w : WrittenAttr} {rest : List Char}
    (h : PartsRead (ps ++ .attr w :: qs) rest) :
    (∃ c cs, w.name = c :: cs ∧ beginsAttr c) ∧ w.ReadsBefore (qs.flatMap TagPart.source ++ rest) :=
  TagPart.attr_readsBefore_iff.1 (partsRead_append.1 h).2.1

/-- The parts in front of an attribute are read up to its name, whatever follows. -/
theorem PartsRead.front {ps qs : List TagPart} {w : WrittenAttr} {rest : List Char}
    (h : PartsRead (ps ++ .attr w :: qs) rest) (s : List Char) : PartsRead ps (w.name ++ s) := by
  -- Both texts go through the name of the attribute, whose first character is in sight.
  obtain ⟨⟨c, cs, hcs, hc⟩, -⟩ := h.attr
  induction ps with
  | nil => trivial
  | cons p ps ih =>
    refine ⟨h.1.congr ?_, ih h.2⟩
    have hfront := SameAhead.append (ps.flatMap TagPart.source ++ w.name)
      ⟨c, by simp [hcs], by simp_all [beginsAttr], by simp_all [beginsAttr]⟩
      (w.valueSource ++ (qs.flatMap TagPart.source ++ rest)) s
    simpa [TagPart.source, WrittenAttr.source, WrittenAttr.valueSource] using hfront

/-- The parts around a replaced attribute are read as before. -/
theorem PartsRead.replaceAttr {ps qs : List TagPart} {w w' : WrittenAttr} {rest : List Char}
    (h : PartsRead (ps ++ .attr w :: qs) rest) (hw : w'.Replaces w) :
    PartsRead (ps ++ .attr w' :: qs) rest := by
  obtain ⟨hname, hread⟩ := h.attr
  have hattr : (TagPart.attr w').ReadsBefore (qs.flatMap TagPart.source ++ rest) :=
    TagPart.attr_readsBefore_iff.2 ⟨hw.name ▸ hname, hw.readsBefore _ hread⟩
  refine partsRead_append.2 ⟨?_, hattr, (partsRead_append.1 h).2.2⟩
  have hfront := h.front (w'.valueSource ++ (qs.flatMap TagPart.source ++ rest))
  simpa [TagPart.source, WrittenAttr.source, WrittenAttr.valueSource, hw.name] using hfront

namespace OpenTag

/-- A tag is complete with an attribute replaced. -/
theorem Complete.replaceAttr {name : List Char} {ps qs : List TagPart} {selfClosing : Bool}
    {w w' : WrittenAttr} (h : (OpenTag.mk name (ps ++ .attr w :: qs) selfClosing).Complete)
    (hw : w'.Replaces w) : (OpenTag.mk name (ps ++ .attr w' :: qs) selfClosing).Complete := by
  refine ⟨h.name, ?_, PartsRead.replaceAttr h.parts hw⟩
  have hend := h.nameEnd
  cases ps with
  | nil =>
    obtain ⟨⟨c, cs, hcs, -⟩, -⟩ := TagPart.attr_readsBefore_iff.1 h.parts.1
    simp_all [TagPart.source, WrittenAttr.source, hw.name]
  | cons p ps =>
    obtain ⟨c, cs, hcs⟩ := List.exists_cons_of_ne_nil h.parts.1.source_ne_nil
    simp_all

end OpenTag

/-! ## New values -/

/-- A name is read in front of a space and of an equals sign if it is read at all. -/
theorem readAttrName_before {name rest : List Char} {c : Char} (hc : isMarkupSpace c ∨ c = '=')
    (rest' : List Char) (h : readAttrName (name ++ rest) = (name, rest)) :
    readAttrName (name ++ c :: rest') = (name, c :: rest') := by
  induction name with
  | nil => rcases hc with hc | rfl <;> simp [readAttrName, *]
  | cons d ds ih =>
    simp only [List.cons_append, readAttrName] at h ⊢
    split at h
    · simp at h
    · rename_i hstop
      have hrest : readAttrName (ds ++ rest) = (ds, rest) := by
        have := append_readAttrName (ds ++ rest)
        grind
      have hgt : c ≠ '>' := by
        rintro rfl
        revert hc
        decide
      have hslash : ((ds ++ c :: rest').head? = some '>') → (ds ++ rest).head? = some '>' := by
        cases ds <;> simp [hgt]
      rw [ih hrest, if_neg]
      simp only [Bool.or_eq_true, Bool.and_eq_true, decide_eq_true_eq, not_or, not_and] at hstop ⊢
      exact ⟨hstop.1, fun hd hhead => hstop.2 hd (hslash hhead)⟩

namespace WrittenAttr

/-- An attribute with a value in double quotes. -/
def quoted (name text : List Char) : WrittenAttr := ⟨name, some ⟨[], [], .doubleQuoted, text⟩⟩

/-- The attribute with another value in place of its own. -/
def withText (w : WrittenAttr) (v : WrittenValue) (form : ValueForm) (text : List Char) :
    WrittenAttr :=
  ⟨w.name, some { v with form := form, text := text }⟩

/-- A boolean attribute can be given a value in quotes. -/
theorem replaces_boolean {w : WrittenAttr} {text : List Char} (hw : w.value = none)
    (htext : '"' ∉ text) : (quoted w.name text).Replaces w := by
  refine ⟨rfl, fun rest h => ⟨?_, ?_⟩⟩
  · have := h.name
    simp only [valueSource, hw, Option.map_none, Option.getD_none, List.nil_append] at this
    exact readAttrName_before (.inr rfl) _ this
  · exact ⟨by simp, by simp, rfl, htext⟩

/-- A value can be exchanged for one that can stand wherever it can. -/
theorem replaces_value {w : WrittenAttr} {v : WrittenValue} {form : ValueForm} {text : List Char}
    (hw : w.value = some v)
    (hhead : ∀ rest, (form.quote ++ text ++ form.quote ++ rest).head?.all (!isMarkupSpace ·))
    (hadmits : ∀ rest, v.form.Admits v.text rest → form.Admits text rest) :
    (w.withText v form text).Replaces w := by
  refine ⟨rfl, fun rest h => ⟨?_, ?_⟩⟩
  · refine readAttrName_congr h.name ?_
    -- The equals sign is the same ahead of both names.
    have := SameAhead.append (v.spaceBefore ++ ['=']) ⟨'=', by simp, by decide, by decide⟩
      (v.spaceAfter ++ v.form.quote ++ v.text ++ v.form.quote ++ rest)
      (v.spaceAfter ++ form.quote ++ text ++ form.quote ++ rest)
    simpa [valueSource, hw, withText, WrittenValue.source, WrittenValue.lead] using this
  · obtain ⟨hbefore, hafter, -, hold⟩ := hw ▸ h.value
    exact ⟨hbefore, hafter, hhead rest, hadmits rest hold⟩

end WrittenAttr

/-! ## Exchanging characters inside a value -/

/-- The state of a reader of a braced expression behind some characters; nothing when they close the
expression. -/
def BraceState.after? (st : BraceState) (s : List Char) : Option BraceState := s.foldlM next? st

/-- What is read of an expression behind characters that do not close it. -/
theorem readBraced_append {st st' : BraceState} {front : List Char} (s : List Char)
    (h : st.after? front = some st') :
    readBraced st (front ++ s) = (readBraced st' s).map fun (i, r) => (front ++ i, r) := by
  induction front generalizing st with
  | nil =>
    obtain rfl : st = st' := by simpa [BraceState.after?] using h
    simp
  | cons c cs ih =>
    simp only [BraceState.after?, List.foldlM_cons, Option.bind_eq_bind,
      Option.bind_eq_some_iff] at h
    obtain ⟨st'', hc, hcs⟩ := h
    rw [List.cons_append, readBraced, hc]
    simp only [ih hcs, Option.map_map]
    rfl

/-- The characters of plain values: letters, digits and dashes. -/
def isPlainChar (c : Char) : Bool := c.isAlphanum || c = '-'

theorem isPlainChar_ne {c d : Char} (h : isPlainChar c) (hd : isPlainChar d = false) : c ≠ d := by
  rintro rfl
  simp [h] at hd

theorem isBareChar_of_isPlainChar {c : Char} (h : isPlainChar c) : isBareChar c := by
  simp only [isBareChar, isMarkupSpace, Bool.and_eq_true, Bool.not_eq_true', Bool.or_eq_false_iff,
    decide_eq_false_iff_not, decide_eq_true_eq]
  refine ⟨⟨⟨⟨⟨?_, ?_⟩, ?_⟩, ?_⟩, ?_⟩, ?_⟩ <;> exact isPlainChar_ne h (by decide)

/-- A reader of an expression is in no string or in one that a quote ends. -/
def BraceState.Sound (st : BraceState) : Prop := ∀ q ∈ st.quote?, isExpressionQuote q

theorem BraceState.Sound.next? {st st' : BraceState} {c : Char} (h : st.Sound)
    (hc : st.next? c = some st') : st'.Sound := by
  obtain ⟨depth, quote?⟩ := st
  cases quote? with
  | none =>
    simp only [BraceState.next?] at hc
    split at hc
    · cases hc
      simp [Sound]
    split at hc
    · split at hc <;> cases hc
      simp [Sound]
    split at hc <;> cases hc
    · rename_i hquote
      simpa [Sound] using hquote
    · simp [Sound]
  | some q =>
    simp only [BraceState.next?, Option.some.injEq] at hc
    subst hc
    by_cases hq : c = q
    · simp [Sound, hq]
    · simpa [Sound, hq] using h

theorem BraceState.Sound.after? {st st' : BraceState} {s : List Char} (h : st.Sound)
    (hs : st.after? s = some st') : st'.Sound := by
  induction s generalizing st with
  | nil =>
    obtain rfl : st = st' := by simpa [BraceState.after?] using hs
    exact h
  | cons c cs ih =>
    simp only [BraceState.after?, List.foldlM_cons, Option.bind_eq_bind,
      Option.bind_eq_some_iff] at hs
    obtain ⟨st'', hc, hcs⟩ := hs
    exact ih (h.next? hc) hcs

/-- Plain characters mean nothing inside an expression. -/
theorem BraceState.after?_plain {st : BraceState} {s : List Char} (hst : st.Sound)
    (h : ∀ c ∈ s, isPlainChar c) : st.after? s = some st := by
  induction s with
  | nil => rfl
  | cons c cs ih =>
    have hc : st.next? c = some st := by
      have hne : ∀ d, isPlainChar d = false → c ≠ d := fun d => isPlainChar_ne (h c (by simp))
      have hquote : isExpressionQuote c = false := by
        simp [isExpressionQuote, hne '"' (by decide), hne '\'' (by decide), hne '\x60' (by decide)]
      obtain ⟨depth, quote?⟩ := st
      cases quote? with
      | none => simp [next?, hne '{' (by decide), hne '}' (by decide), hquote]
      | some q =>
        have hq : c ≠ q := by
          rintro rfl
          simp [hst c rfl] at hquote
        simp [next?, hq]
    simp only [after?, List.foldlM_cons, hc]
    exact ih fun d hd => h d (List.mem_cons_of_mem _ hd)

/-- Whether the reader of an expression stands behind `mid` as it did before it, where `front` is
what it has read of a value, beginning with the brace. -/
def BraceNeutral (front mid : List Char) : Prop :=
  ∃ st, BraceState.start.after? front.tail = some st ∧ st.after? mid = some st

instance (front mid : List Char) : Decidable (BraceNeutral front mid) :=
  decidable_of_iff ((BraceState.start.after? front.tail).any fun st =>
      (st.after? mid).any fun st' => st'.depth = st.depth && st'.quote? = st.quote?) <| by
    simp only [BraceNeutral, Option.any_eq_true, Bool.and_eq_true, decide_eq_true_eq]
    constructor
    · rintro ⟨st, hfront, ⟨depth, quote?⟩, hmid, rfl, rfl⟩
      exact ⟨st, hfront, hmid⟩
    · rintro ⟨st, hfront, hmid⟩
      exact ⟨st, hfront, st, hmid, rfl, rfl⟩

/-- Inside a value, plain characters can stand for others; in an expression, for those that change
nothing around them. -/
theorem ValueForm.Admits.exchange {form : ValueForm} {front mid behind new rest : List Char}
    (h : form.Admits (front ++ mid ++ behind) rest) (hnew : ∀ c ∈ new, isPlainChar c)
    (hne : new ≠ []) (hneutral : form = .expression → front ≠ [] ∧ BraceNeutral front mid) :
    form.Admits (front ++ new ++ behind) rest := by
  have hplain : ∀ d, isPlainChar d = false → d ∉ new := fun d hd hmem => by
    simp [hnew d hmem] at hd
  cases form with
  | doubleQuoted =>
    have := hplain '"' (by decide)
    simp_all [Admits]
  | singleQuoted =>
    have := hplain '\'' (by decide)
    simp_all [Admits]
  | unquoted =>
    obtain ⟨⟨c, hc, hquotes⟩, hall, hend⟩ := h
    refine ⟨?_, ?_, hend⟩
    · cases front with
      | nil =>
        obtain ⟨d, ds, rfl⟩ := List.exists_cons_of_ne_nil hne
        have hd := hnew d (by simp)
        exact ⟨d, rfl, isPlainChar_ne hd (by decide), isPlainChar_ne hd (by decide),
          isPlainChar_ne hd (by decide)⟩
      | cons d ds => exact ⟨c, hc, hquotes⟩
    · intro d hd
      simp only [List.mem_append] at hd hall
      rcases hd with (hd | hd) | hd
      · exact hall d (.inl (.inl hd))
      · exact isBareChar_of_isPlainChar (hnew d hd)
      · exact hall d (.inr hd)
  | expression =>
    obtain ⟨inside, hinside, hread⟩ := h
    obtain ⟨hfront, st, hst, hmid⟩ := hneutral rfl
    obtain ⟨d, ds, rfl⟩ := List.exists_cons_of_ne_nil hfront
    obtain ⟨rfl, rfl⟩ : d = '{' ∧ ds ++ mid ++ behind = inside := by simpa using hinside
    have hstart : BraceState.start.Sound := by simp [BraceState.Sound, BraceState.start]
    have hsound := hstart.after? hst
    refine ⟨ds ++ new ++ behind, rfl, ?_⟩
    rw [List.tail_cons] at hst
    rw [List.append_assoc, readBraced_append _ hst, readBraced_append _ hmid] at hread
    rw [List.append_assoc, readBraced_append _ hst,
      readBraced_append _ (BraceState.after?_plain hsound hnew)]
    -- What is left is read from the same state in both values.
    cases hb : readBraced st behind with
    | none => simp [hb] at hread
    | some ir =>
      obtain ⟨i, r⟩ := ir
      simp_all

/-! ## New attributes -/

theorem isNameChar_ne {c d : Char} (h : isNameChar c) (hd : isNameChar d = false) : c ≠ d := by
  rintro rfl
  simp [h] at hd

theorem isMarkupSpace_of_isNameChar {c : Char} (h : isNameChar c) : isMarkupSpace c = false := by
  simp only [isMarkupSpace, Bool.or_eq_false_iff, decide_eq_false_iff_not]
  refine ⟨⟨⟨⟨?_, ?_⟩, ?_⟩, ?_⟩, ?_⟩ <;> exact isNameChar_ne h (by decide)

theorem beginsAttr_of_isNameChar {c : Char} (h : isNameChar c) : beginsAttr c := by
  simp [beginsAttr, isMarkupSpace_of_isNameChar h, isNameChar_ne h (d := '/') (by decide),
    isNameChar_ne h (d := '=') (by decide), isNameChar_ne h (d := '{') (by decide),
    isNameChar_ne h (d := '>') (by decide)]

theorem isNameChar_of_isPlainChar {c : Char} (h : isPlainChar c) : isNameChar c := by
  simp only [isPlainChar, Bool.or_eq_true, decide_eq_true_eq] at h
  rcases h with h | rfl
  · simp [isNameChar, h]
  · decide

/-- Name characters are read as a name up to where a name ends. -/
theorem readAttrName_append {name rest : List Char} (hname : ∀ c ∈ name, isNameChar c)
    (hrest : readAttrName rest = ([], rest)) : readAttrName (name ++ rest) = (name, rest) := by
  induction name with
  | nil => exact hrest
  | cons c cs ih =>
    have hc := hname c (by simp)
    simp [readAttrName, ih fun d hd => hname d (List.mem_cons_of_mem _ hd),
      isMarkupSpace_of_isNameChar hc, isNameChar_ne hc (d := '=') (by decide),
      isNameChar_ne hc (d := '>') (by decide), isNameChar_ne hc (d := '/') (by decide)]

/-- An attribute with a value in quotes is read in front of everything, if its name is written in name
characters. -/
theorem WrittenAttr.quoted_readsBefore {name text : List Char} (rest : List Char)
    (hname : ∀ c ∈ name, isNameChar c) (htext : '"' ∉ text) :
    (quoted name text).ReadsBefore rest :=
  ⟨readAttrName_append hname rfl, by simp, by simp, rfl, htext⟩

/-- A tag is complete with a new attribute behind its name. -/
theorem OpenTag.Complete.prependAttr {name attrName text : List Char} {parts : List TagPart}
    {selfClosing : Bool} (h : (OpenTag.mk name parts selfClosing).Complete) (hne : attrName ≠ [])
    (hname : ∀ c ∈ attrName, isNameChar c) (htext : '"' ∉ text) :
    (OpenTag.mk name (.filler [' '] :: .attr (.quoted attrName text) :: parts)
      selfClosing).Complete := by
  obtain ⟨c, cs, rfl⟩ := List.exists_cons_of_ne_nil hne
  have hc := beginsAttr_of_isNameChar (hname c (by simp))
  refine ⟨h.name, rfl, ⟨rfl, rfl⟩, TagPart.attr_readsBefore_iff.2 ⟨⟨c, cs, rfl, hc⟩, ?_⟩, h.parts⟩
  exact WrittenAttr.quoted_readsBefore _ hname htext

end MarkupGate
