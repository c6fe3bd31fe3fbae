import MarkupGate.Proofs.Markup.Cutting

/-!
# Reading a rewritten attribute

An attribute that is written into a tag is met again by the reader, which does not know what it was
meant to say. In front of it nothing changes, so the reader gets to its name; from there on what it
makes of the value depends on the characters that were written and on all that follow.

* `OpenTag.ReadsTo`: the reader of a tag gets to the name of an attribute whatever follows there.
* `OpenTag.ReadsTo.exists_of_read`: it goes on with the value.
* `lex_openTag`: a tag is read at all where one is written, if it ends.
* `ValueForm.fits_of_read`: if the value is read as the text that was meant, the text fits the form in
  which it was written. So what does not fit is read as something else.
* `BraceNeutral.of_admits`: inside an expression only those characters can be exchanged for plain
  ones that leave its braces and strings in balance.
-/

namespace MarkupGate

/-! ## Values -/

/-- Whether a text can be written as a value of a form, without its quotes. -/
def ValueForm.Fits (form : ValueForm) (text : List Char) : Prop := form.Admits text []

namespace ValueForm

variable {form form' : ValueForm} {text rest r : List Char}

/-- What fits can stand in front of everything, except that a bare value needs an end. -/
theorem Fits.admits (h : form.Fits text)
    (hrest : form = .unquoted → rest.head?.all (!isBareChar ·)) : form.Admits text rest := by
  cases form with
  | doubleQuoted => exact h
  | singleQuoted => exact h
  | expression => exact h
  | unquoted =>
    obtain ⟨⟨c, hc, hne⟩, hall, -⟩ := h
    refine ⟨⟨c, ?_, hne⟩, hall, hrest rfl⟩
    rw [List.append_nil] at hc
    rw [List.head?_append, hc]
    rfl

theorem Admits.fits (h : form.Admits text rest) (hne : text ≠ []) : form.Fits text := by
  cases form with
  | doubleQuoted => exact h
  | singleQuoted => exact h
  | expression => exact h
  | unquoted =>
    obtain ⟨⟨c, hc, hother⟩, hall, -⟩ := h
    obtain ⟨d, ds, rfl⟩ := List.exists_cons_of_ne_nil hne
    exact ⟨⟨c, hc, hother⟩, hall, rfl⟩

/-- What fits does not begin with a space. -/
theorem Fits.head (h : form.Fits text) (rest : List Char) :
    (form.quote ++ text ++ form.quote ++ rest).head?.all (!isMarkupSpace ·) := by
  cases form with
  | doubleQuoted => rfl
  | singleQuoted => rfl
  | expression =>
    obtain ⟨inside, rfl, -⟩ := h
    rfl
  | unquoted =>
    obtain ⟨⟨c, hc, -⟩, hall, -⟩ := h
    obtain ⟨cs, rfl⟩ := List.head?_eq_some_iff.1 (by simpa using hc)
    have := hall c (by simp)
    simp_all [isBareChar, quote]

/-- Plain characters fit every form but that of an expression. -/
theorem fits_of_plain (hform : form ≠ .expression) (hne : text ≠ []) (htext : ∀ c ∈ text, isPlainChar c) :
    form.Fits text := by
  have hfree : ∀ d, isPlainChar d = false → d ∉ text := fun d hd hmem => by
    simp [htext d hmem] at hd
  cases form with
  | doubleQuoted => exact hfree '"' (by decide)
  | singleQuoted => exact hfree '\'' (by decide)
  | expression => exact absurd rfl hform
  | unquoted =>
    obtain ⟨c, cs, rfl⟩ := List.exists_cons_of_ne_nil hne
    refine ⟨⟨c, rfl, ?_⟩, fun d hd => isBareChar_of_isPlainChar (htext d hd), rfl⟩
    have hc := htext c (by simp)
    exact ⟨isPlainChar_ne hc (by decide), isPlainChar_ne hc (by decide), isPlainChar_ne hc (by decide)⟩

/-- A value in quotes is read up to the next of its quotes. -/
theorem not_mem_of_read {q : Char} {read : List Char} (hquote : form.quote = [q])
    (h : readValueText ((form.quote ++ text ++ form.quote ++ rest).dropWhile isMarkupSpace)
      = some (form', read, r)) : form' = form ∧ q ∉ read := by
  cases form with
  | doubleQuoted =>
    obtain rfl : '"' = q := by simpa [quote] using hquote
    obtain ⟨⟨t, r'⟩, ht, heq⟩ := Option.map_eq_some_iff.1 h
    cases heq
    exact ⟨rfl, (breakOn?_singleton.1 ht).2⟩
  | singleQuoted =>
    obtain rfl : '\'' = q := by simpa [quote] using hquote
    obtain ⟨⟨t, r'⟩, ht, heq⟩ := Option.map_eq_some_iff.1 h
    cases heq
    exact ⟨rfl, (breakOn?_singleton.1 ht).2⟩
  | expression => cases hquote
  | unquoted => cases hquote

/-- A value that is read as it was meant fits the form in which it was written; a bare value that is
read as an expression fits that form. -/
theorem fits_of_read (hsolid : ∃ c ∈ text, isMarkupSpace c = false)
    (h : readValueText ((form.quote ++ text ++ form.quote ++ rest).dropWhile isMarkupSpace)
      = some (form', text, r)) : form'.quote = form.quote ∧ form'.Fits text := by
  obtain ⟨c, hc, hspace⟩ := hsolid
  have hfits : form'.Fits text :=
    (readValueText_iff.1 h).2.fits (List.ne_nil_of_mem hc)
  refine ⟨?_, hfits⟩
  cases hquote : form.quote with
  | cons q qs =>
    obtain rfl : qs = [] := by cases form <;> simp_all [quote]
    rw [(not_mem_of_read hquote h).1, hquote]
  | nil =>
    -- What stands bare begins with a character of the text, so a quote there would be in the text.
    have hhead : ∃ d ∈ text, ((form.quote ++ text ++ form.quote ++ rest).dropWhile
        isMarkupSpace).head? = some d := by
      have hne : text.dropWhile isMarkupSpace ≠ [] := by
        intro hnil
        have := List.dropWhile_eq_nil_iff.1 hnil c hc
        simp [hspace] at this
      obtain ⟨d, ds, hd⟩ := List.exists_cons_of_ne_nil hne
      refine ⟨d, (List.dropWhile_sublist _).subset (hd ▸ List.mem_cons_self), ?_⟩
      simp [hquote, List.dropWhile_append, hd]
    obtain ⟨d, hd, hhead⟩ := hhead
    rw [(readValueText_iff.1 h).1] at hhead
    cases form' with
    | doubleQuoted =>
      obtain rfl : '"' = d := by simpa [quote] using hhead
      exact absurd hd hfits
    | singleQuoted =>
      obtain rfl : '\'' = d := by simpa [quote] using hhead
      exact absurd hd hfits
    | expression => rfl
    | unquoted => rfl

end ValueForm

/-! ## New values -/

/-- Whether an attribute can be given a value: the value can stand wherever the attribute can, if its
text fits its form. -/
structure WrittenAttr.Takes (w : WrittenAttr) (v : WrittenValue) : Prop where
  replaces : v.form.Fits v.text → (WrittenAttr.mk w.name (some v)).Replaces w
  /-- the space around the equals sign is space -/
  spaces : ∀ rest, w.ReadsBefore rest →
    (∀ c ∈ v.spaceBefore, isMarkupSpace c) ∧ ∀ c ∈ v.spaceAfter, isMarkupSpace c

namespace WrittenAttr

variable {w : WrittenAttr} {v : WrittenValue}

/-- A boolean attribute can be given a value in quotes. -/
theorem takes_boolean (hw : w.value = none) (text : List Char) :
    w.Takes ⟨[], [], .doubleQuoted, text⟩ :=
  ⟨replaces_boolean hw, fun _ _ => ⟨nofun, nofun⟩⟩

/-- A value can be given in place of another one, but a bare one only in place of a bare one. -/
theorem takes_value (hw : w.value = some v) (form : ValueForm) (text : List Char)
    (hform : form = .unquoted → v.form = .unquoted) :
    w.Takes { v with form := form, text := text } := by
  refine ⟨fun hfits => replaces_value hw hfits.head fun rest hold => ?_,
    fun rest h => ?_⟩
  · refine hfits.admits fun hbare => ?_
    rw [hform hbare] at hold
    exact hold.2.2
  · obtain ⟨hbefore, hafter, -⟩ := hw ▸ h.value
    exact ⟨hbefore, hafter⟩

end WrittenAttr

/-! ## Expressions -/

namespace BraceState

/-- The state before a character follows from the state behind it. -/
theorem Sound.eq_of_next? {st st' st'' : BraceState} {c : Char} (h : st.Sound) (h' : st'.Sound)
    (hc : st.next? c = some st'') (hc' : st'.next? c = some st'') : st = st' := by
  obtain ⟨depth, quote?⟩ := st
  obtain ⟨depth', quote?'⟩ := st'
  have hquotes : ∀ q, isExpressionQuote q → q ≠ '{' ∧ q ≠ '}' := by
    intro q hq
    simp only [isExpressionQuote, Bool.or_eq_true, decide_eq_true_eq] at hq
    rcases hq with (rfl | rfl) | rfl <;> decide
  have hbrace : ∀ q ∈ quote?, isExpressionQuote q ∧ q ≠ '{' ∧ q ≠ '}' := fun q hq =>
    ⟨h q hq, hquotes q (h q hq)⟩
  have hbrace' : ∀ q ∈ quote?', isExpressionQuote q ∧ q ≠ '{' ∧ q ≠ '}' := fun q hq =>
    ⟨h' q hq, hquotes q (h' q hq)⟩
  cases quote? <;> cases quote?' <;> simp only [BraceState.next?] at hc hc' <;> grind

/-- An expression that is read to its end goes on behind its first character or ends with it. -/
theorem readBraced_cons_self {st : BraceState} {c : Char} {cs : List Char} :
    readBraced st (c :: cs) = some (c :: cs, [])
      ↔ st.next? c = none ∧ cs = [] ∨ ∃ st', st.next? c = some st' ∧ readBraced st' cs = some (cs, []) := by
  rw [readBraced]
  cases st.next? c with
  | none => simp [eq_comm]
  | some st' => simp

/-- Readers that stand in front of the same end of an expression are in the same state. -/
theorem Sound.eq_of_readBraced {st st' : BraceState} {s : List Char} (h : st.Sound) (h' : st'.Sound)
    (hs : readBraced st s = some (s, [])) (hs' : readBraced st' s = some (s, [])) : st = st' := by
  have hnil : ∀ st, readBraced st [] ≠ some ([], []) := fun _ => nofun
  induction s generalizing st st' with
  | nil => exact absurd hs (hnil st)
  | cons c cs ih =>
    rcases readBraced_cons_self.1 hs with ⟨hc, rfl⟩ | ⟨st₁, hc, hcs⟩ <;>
      rcases readBraced_cons_self.1 hs' with ⟨hc', hnil'⟩ | ⟨st₁', hc', hcs'⟩
    · -- Both are outside of strings, and no brace is open but that of the expression.
      obtain ⟨depth, quote?⟩ := st
      obtain ⟨depth', quote?'⟩ := st'
      cases quote? <;> cases quote?' <;> simp only [BraceState.next?] at hc hc' <;> grind
    · exact absurd hcs' (hnil _)
    · exact absurd (hnil' ▸ hcs) (hnil _)
    · obtain rfl := ih (h.next? hc) (h'.next? hc') hcs hcs'
      exact h.eq_of_next? h' hc hc'

/-- Behind characters that do not close it, an expression is read to its end as from there. -/
theorem readBraced_append_self {st st' : BraceState} {front behind : List Char}
    (h : st.after? front = some st') :
    readBraced st (front ++ behind) = some (front ++ behind, [])
      ↔ readBraced st' behind = some (behind, []) := by
  rw [readBraced_append _ h, Option.map_eq_some_iff]
  constructor
  · rintro ⟨⟨i, r⟩, hread, heq⟩
    obtain ⟨hi, rfl⟩ := Prod.mk.inj heq
    obtain rfl := List.append_cancel_left hi
    exact hread
  · exact fun hread => ⟨_, hread, rfl⟩

/-- A reader that gets to the end of an expression gets through every part of it. -/
theorem exists_after? {st : BraceState} {front behind : List Char} (hne : behind ≠ [])
    (h : readBraced st (front ++ behind) = some (front ++ behind, [])) :
    ∃ st', st.after? front = some st' := by
  induction front generalizing st with
  | nil => exact ⟨st, rfl⟩
  | cons c cs ih =>
    rcases readBraced_cons_self.1 h with ⟨-, hnil⟩ | ⟨st₁, hc, hcs⟩
    · simp [hne] at hnil
    · obtain ⟨st', hst'⟩ := ih hcs
      exact ⟨st', by simpa [after?, hc] using hst'⟩

end BraceState

/-- Where plain characters can stand for others inside an expression, those change nothing around
them. -/
theorem BraceNeutral.of_admits {front mid behind new rest rest' : List Char}
    (h : ValueForm.expression.Admits (front ++ mid ++ behind) rest)
    (h' : ValueForm.expression.Admits (front ++ new ++ behind) rest') (hfront : front ≠ [])
    (hnew : ∀ c ∈ new, isPlainChar c) (hne : new ≠ []) : BraceNeutral front mid := by
  obtain ⟨d, ds, rfl⟩ := List.exists_cons_of_ne_nil hfront
  obtain ⟨inside, hinside, hread⟩ := h
  obtain ⟨inside', hinside', hread'⟩ := h'
  obtain ⟨rfl, rfl⟩ : d = '{' ∧ ds ++ mid ++ behind = inside := by simpa using hinside
  obtain rfl : ds ++ new ++ behind = inside' := by simpa using hinside'
  rw [List.append_assoc] at hread hread'
  have hstart : BraceState.start.Sound := by simp [BraceState.Sound, BraceState.start]
  obtain ⟨st, hst⟩ := BraceState.exists_after? (by simp [hne]) hread'
  have hsound := hstart.after? hst
  -- The plain characters do not close the expression, so something stands behind them that does.
  have hbehind : readBraced st behind = some (behind, []) :=
    (BraceState.readBraced_append_self (BraceState.after?_plain hsound hnew)).1
      ((BraceState.readBraced_append_self hst).1 hread')
  have hmid : readBraced st (mid ++ behind) = some (mid ++ behind, []) :=
    (BraceState.readBraced_append_self hst).1 hread
  have hne' : behind ≠ [] := by
    rintro rfl
    cases hbehind
  obtain ⟨st', hst'⟩ := BraceState.exists_after? hne' hmid
  obtain rfl : st = st' := hsound.eq_of_readBraced (hsound.after? hst') hbehind
    ((BraceState.readBraced_append_self hst').1 hmid)
  exact ⟨st, hst, hst'⟩

/-- Plain characters can stand for others inside a value, but inside an expression only for those that
change nothing around them. -/
theorem ValueForm.Admits.fits_exchange_iff {form : ValueForm} {front mid behind new rest : List Char}
    (h : form.Admits (front ++ mid ++ behind) rest) (hnew : ∀ c ∈ new, isPlainChar c) (hne : new ≠ [])
    (hfront : form = .expression → front ≠ []) :
    form.Fits (front ++ new ++ behind) ↔ (form = .expression → BraceNeutral front mid) := by
  constructor
  · rintro hfits rfl
    exact .of_admits h hfits (hfront rfl) hnew hne
  · intro hneutral
    exact (h.exchange hnew hne fun hform => ⟨hfront hform, hneutral hform⟩).fits (by simp [hne])

/-! ## Up to the value -/

/-- Parts in a row are read one after another. -/
theorem readParts_append {ps : List TagPart} {s : List Char} (h : PartsRead ps s) :
    readParts (ps.flatMap TagPart.source ++ s)
      = (readParts s).map fun (qs, ending) => (ps ++ qs, ending) := by
  induction ps with
  | nil => cases hs : readParts s <;> simp [hs]
  | cons p ps ih =>
    obtain ⟨⟨hend, hread⟩, hps⟩ := h
    rw [List.flatMap_cons, List.append_assoc, readParts_step hend hread, ih hps, Option.map_map]
    rfl

/-- Where a name and an equals sign stand, what is read of the attribute depends on what follows. -/
theorem readAttr_eq {name spaceBefore spaceAfter rest : List Char}
    (hname : readAttrName (name ++ rest) = (name, rest)) (hbefore : ∀ c ∈ spaceBefore, isMarkupSpace c)
    (hafter : ∀ c ∈ spaceAfter, isMarkupSpace c) (s : List Char) :
    readAttr (name ++ (spaceBefore ++ '=' :: (spaceAfter ++ s)))
      = (readValueText (s.dropWhile isMarkupSpace)).map fun (form, text, r) =>
          (⟨name, some ⟨spaceBefore, (spaceAfter ++ s).takeWhile isMarkupSpace, form, text⟩⟩, r) := by
  have hread : readAttrName (name ++ (spaceBefore ++ '=' :: (spaceAfter ++ s)))
      = (name, spaceBefore ++ '=' :: (spaceAfter ++ s)) := by
    cases spaceBefore with
    | nil => exact readAttrName_before (.inr rfl) _ hname
    | cons c cs => exact readAttrName_before (.inl (hbefore c (by simp))) _ hname
  have hequals : ('=' :: (spaceAfter ++ s)).head?.all (!isMarkupSpace ·) := rfl
  obtain ⟨htake, hdrop⟩ := span_of_all hbefore hequals
  simp only [readAttr, hread, readValue, hdrop, htake, List.dropWhile_append_of_pos hafter,
    Option.map_map]
  rfl

/-- Where an attribute begins, one is read. -/
theorem exists_of_readParts {c : Char} {s rest : List Char} {parts : List TagPart} {selfClosing : Bool}
    (hc : beginsAttr c) (h : readParts (c :: s) = some (parts, selfClosing, rest)) :
    ∃ a r behind, readAttr (c :: s) = some (a, r) ∧ parts = .attr a :: behind := by
  simp only [beginsAttr, Bool.and_eq_true, Bool.not_eq_true', decide_eq_true_eq] at hc
  obtain ⟨⟨⟨⟨hspace, hslash⟩, hequals⟩, hbrace⟩, hgt⟩ := hc
  cases parts with
  | nil =>
    have hend := tagEnd?_iff.1 (readParts_nil_iff.1 h)
    cases selfClosing <;> simp_all [endingOf]
  | cons p ps =>
    obtain ⟨-, r, hpart, -⟩ := readParts_cons_iff.1 h
    rw [readPart_attr (by simp [hspace, hslash, hequals]) hbrace] at hpart
    obtain ⟨⟨a, r'⟩, ha, heq⟩ := Option.map_eq_some_iff.1 hpart
    cases heq
    exact ⟨a, _, ps, ha, rfl⟩

namespace OpenTag

/-- Whether a reader of a tag gets through its name and some parts to the name of an attribute,
whatever follows there. -/
structure ReadsTo (name : List Char) (ps : List TagPart) (attrName : List Char) : Prop where
  /-- the name of the tag holds name characters only -/
  name : ∀ c ∈ name, isNameChar c
  /-- no further name character follows -/
  nameEnd : (ps.flatMap TagPart.source ++ attrName).head?.all (!isNameChar ·)
  /-- the parts are read one after another -/
  parts : ∀ s, PartsRead ps (attrName ++ s)
  /-- the name of the attribute begins like one -/
  begins : ∃ c cs, attrName = c :: cs ∧ beginsAttr c
  /-- the name of the attribute is read in front of something -/
  attrName : ∃ r, readAttrName (attrName ++ r) = (attrName, r)

/-- The reader gets to each attribute of a complete tag. -/
theorem ReadsTo.of_complete {name : List Char} {ps qs : List TagPart} {w : WrittenAttr}
    {selfClosing : Bool} (h : (OpenTag.mk name (ps ++ .attr w :: qs) selfClosing).Complete) :
    ReadsTo name ps w.name := by
  obtain ⟨⟨c, cs, hcs, hc⟩, hread⟩ := h.parts.attr
  refine ⟨h.name, ?_, h.parts.front, ⟨c, cs, hcs, hc⟩, _, hread.name⟩
  have hend := h.nameEnd
  cases hps : ps.flatMap TagPart.source <;>
    simp_all [TagPart.source, WrittenAttr.source]

/-- The reader gets to a new attribute behind the name. -/
theorem ReadsTo.of_prepend {name attrName : List Char} (h : ∀ c ∈ name, isNameChar c)
    (hne : attrName ≠ []) (hname : ∀ c ∈ attrName, isNameChar c) :
    ReadsTo name [.filler [' ']] attrName := by
  obtain ⟨c, cs, rfl⟩ := List.exists_cons_of_ne_nil hne
  have hc := beginsAttr_of_isNameChar (hname c (by simp))
  exact ⟨h, rfl, fun s => ⟨⟨rfl, rfl⟩, trivial⟩, ⟨c, cs, rfl, hc⟩, [], readAttrName_append hname rfl⟩

/-- From the name of the attribute the reader goes on with the value. -/
theorem ReadsTo.exists_of_read {name attrName rest r : List Char} {ps qs : List TagPart}
    {v : WrittenValue} {selfClosing : Bool} {t u : OpenTag} (h : ReadsTo name ps attrName)
    (ht : t = ⟨name, ps ++ .attr ⟨attrName, some v⟩ :: qs, selfClosing⟩)
    (hbefore : ∀ c ∈ v.spaceBefore, isMarkupSpace c) (hafter : ∀ c ∈ v.spaceAfter, isMarkupSpace c)
    (hread : readOpenTag (t.source.tail ++ rest) = some (u, r)) :
    ∃ v' behind s r', u.parts = ps ++ .attr ⟨attrName, some v'⟩ :: behind
      ∧ readValueText ((v.form.quote ++ v.text ++ v.form.quote ++ s).dropWhile isMarkupSpace)
        = some (v'.form, v'.text, r') := by
  obtain ⟨c, cs, hcs, hc⟩ := h.begins
  obtain ⟨rest', hattrName⟩ := h.attrName
  -- What is read behind the name of the tag.
  set s := qs.flatMap TagPart.source ++ (endingOf selfClosing ++ rest) with hs
  set value := v.spaceBefore ++ '=' :: (v.spaceAfter ++ (v.form.quote ++ v.text ++ v.form.quote ++ s))
    with hvalue
  have hsource : t.source.tail ++ rest
      = name ++ (ps.flatMap TagPart.source ++ (attrName ++ value)) := by
    simp [ht, source, ending_eq, TagPart.source, WrittenAttr.source, WrittenValue.source,
      WrittenValue.lead, hs, hvalue]
  have hend : (ps.flatMap TagPart.source ++ (attrName ++ value)).head?.all (!isNameChar ·) := by
    have hend := h.nameEnd
    cases hps : ps.flatMap TagPart.source <;> simp_all
  rw [hsource, readOpenTag, (span_of_all h.name hend).2, readParts_append (h.parts value)] at hread
  simp only [Option.map_map, Option.map_eq_some_iff] at hread
  obtain ⟨⟨parts, selfClosing', r''⟩, hparts, heq⟩ := hread
  cases heq
  rw [hcs, List.cons_append] at hparts
  obtain ⟨w, r', behind, hw, rfl⟩ := exists_of_readParts hc hparts
  rw [← List.cons_append, ← hcs, hvalue, readAttr_eq hattrName hbefore hafter] at hw
  obtain ⟨⟨form, text, r''⟩, hvalue, heq⟩ := Option.map_eq_some_iff.1 hw
  cases heq
  exact ⟨_, behind, s, _, rfl, hvalue⟩

end OpenTag

/-! ## The piece -/

/-- Where an open tag is written, an open tag is read, if one can be read at all. -/
theorem lex_openTag {t : OpenTag} (hname : ∃ c cs, t.name = c :: cs ∧ c.isAlpha) (s : List Char) :
    lex (t.source ++ s) = [.unterminated (t.source ++ s)]
      ∨ ∃ u content rest r, lex (t.source ++ s) = .openTag u content :: lex rest
        ∧ readOpenTag (t.source.tail ++ s) = some (u, r) := by
  obtain ⟨c, cs, hcs, hc⟩ := hname
  obtain ⟨behind, hsource⟩ : ∃ behind, t.source ++ s = '<' :: c :: behind := by
    simp [OpenTag.source, hcs]
  have htail : t.source.tail ++ s = c :: behind := by
    have hhead : t.source ++ s = '<' :: (t.source.tail ++ s) := by simp [OpenTag.source]
    simpa [hhead] using hsource
  have hslash : c ≠ '/' := by
    rintro rfl
    exact absurd hc (by decide)
  have hmarkup : beginsMarkup ('<' :: c :: behind) := by
    rw [beginsMarkup_of_ne_slash hslash]
    simp [hc]
  rw [hsource, htail, lex_cons, readPiece, if_pos hmarkup, readMarkup?_letter hc]
  cases hread : readOpenTag (c :: behind) with
  | none => exact .inl (by simp)
  | some ur =>
    obtain ⟨u, r⟩ := ur
    refine .inr ?_
    by_cases hopens : u.opensOpaque
    · exact ⟨u, (readOpaque (asciiLower u.name) r).1, (readOpaque (asciiLower u.name) r).2, r,
        by simp [hopens], rfl⟩
    · exact ⟨u, [], r, r, by simp [hopens], rfl⟩

end MarkupGate
