import MarkupGate.Proofs.Fix.TagEdit
import MarkupGate.Proofs.Markup.Accounting
import MarkupGate.Proofs.Markup.Moving
import MarkupGate.Proofs.Markup.Writing

/-!
# Edits of attributes are local

What is put in behind the name of a tag becomes its first attribute, and what is written in place of a
quoted value becomes the value. Nothing else in the text is read differently: not the rest of the tag,
which may begin with anything, not the code or the text that the tag opens, and not what follows, even
if it never ends. Only the offsets behind the edit move.

* `resize`: where offsets go when a range is replaced.
* `Tokens.insertAttr`, `Tokens.setValue`: what becomes of an inventory.
* `tokenize_of_resized`: one open tag is written differently in one place behind its name.
* `tokenize_edit_local`: the inventory of the new text.
-/

namespace MarkupGate

/-! ## What becomes of the tokens -/

/-- Where offsets go when some bytes behind an offset are replaced by others: what lies behind the
offset moves with the end of the range. -/
def resize (start old new offset : Nat) : Nat :=
  if offset ≤ start then offset else offset + new - old

section

variable {start offset : Nat} (old new : Nat)

theorem resize_of_le (h : offset ≤ start) : resize start old new offset = offset := if_pos h

theorem resize_of_lt (h : start < offset) : resize start old new offset = offset + new - old :=
  if_neg (Nat.not_le.2 h)

end

namespace Tokens

/-- The inventory with its offsets moved, and with other attributes in one tag. -/
def moveWith (g : Nat → Nat) (t : Tag) (attrs : List Attr) (u : Tokens) : Tokens :=
  { u.move g with
    tags := u.tags.map fun s => if s = t then { s.move g with attrs := attrs } else s.move g }

/-- The inventory with an attribute put in behind the name of a tag. With its space, its equals sign and
its quotes it takes four bytes more than its name and its value. -/
def insertAttr (u : Tokens) (t : Tag) (name text : List Char) : Tokens :=
  let g := resize t.nameEnd 0 (byteLength name + byteLength text + 4)
  let value : AttrValue := ⟨text, t.nameEnd + byteLength name + 3, .doubleQuoted⟩
  u.moveWith g t (⟨name, t.nameEnd + byteLength name + 1, some value⟩ :: t.attrs.map (Attr.move g))

/-- The inventory with another text for the value of an attribute of a tag. -/
def setValue (u : Tokens) (t : Tag) (a : Attr) (v : AttrValue) (text : List Char) : Tokens :=
  let g := resize v.start (byteLength v.text) (byteLength text)
  u.moveWith g t <| t.attrs.map fun b =>
    if b = a then { a with value := some { v with text := text } } else b.move g

end Tokens

/-! ## One tag -/

section

variable {source content : List Char} {A B : List Piece} {t t' : OpenTag} {start : Nat}

/-- Where an open tag is written differently in one place behind its name, only its attributes are read
differently. -/
theorem tokenize_of_resized (at' old new : Nat) (hlex : lex source = A ++ .openTag t content :: B)
    (ht : t'.Respells t) (hat : (t.place (byteLength (A.flatMap Piece.source))).nameEnd ≤ at')
    (hinside : at' < byteLength (A.flatMap Piece.source) + byteLength t.source)
    (hlength : byteLength t'.source + old = byteLength t.source + new) :
    tokenize ((A ++ .openTag t' content :: B).flatMap Piece.source)
      = (tokenize source).moveWith (resize at' old new)
          (t.place (byteLength (A.flatMap Piece.source)))
          (t'.place (byteLength (A.flatMap Piece.source))).attrs := by
  have hfront : byteLength (A.flatMap Piece.source) ≤ at' := by
    simp only [OpenTag.place] at hat
    omega
  refine tokenize_of_tag hlex ht (fun o ho => resize_of_le old new (by omega)) (fun i => ?_) ?_ fun u hu => ?_
  · rw [resize_of_lt old new (by omega)]
    omega
  · have hstop := resize_of_lt old new hinside
    have hstart := resize_of_le old new hfront
    have hnameEnd := resize_of_le old new hat
    simp only [OpenTag.place] at hnameEnd ⊢
    simp only [if_true, Tag.move, ht.name, ht.selfClosing, hstart, hnameEnd, hstop]
    congr 1
    omega
  · exact if_neg fun heq => hu (by rw [heq]; rfl)

namespace OpenTag

/-! ## A new attribute -/

theorem source_prepend (t : OpenTag) (name text : List Char) :
    (t.prepend name text).source
      = '<' :: t.name ++ (' ' :: name ++ '=' :: '"' :: text ++ ['"'])
        ++ (t.parts.flatMap TagPart.source ++ t.ending) := by
  simp [source, prepend, ending_eq, TagPart.source, WrittenAttr.source, WrittenAttr.quoted,
    WrittenValue.source, WrittenValue.lead, ValueForm.quote]

/-- The tag goes on behind its name. -/
theorem nameEnd_lt (t : OpenTag) (start : Nat) :
    (t.place start).nameEnd < start + byteLength t.source := by
  have hbracket : '<'.utf8Size = 1 := rfl
  have hending : 0 < byteLength t.ending :=
    byteLength_pos (by cases h : t.selfClosing <;> simp [ending, h])
  simp only [place, source, List.cons_append, byteLength_cons, byteLength_append, hbracket]
  omega

/-- An attribute put in behind the name of a tag comes before the others, which move behind it. -/
theorem attrs_prepend (ht : t.Complete) (start : Nat) (name text : List Char) :
    ((t.prepend name text).place start).attrs
      = (WrittenAttr.quoted name text).place ((t.place start).nameEnd + 1)
        :: (t.place start).attrs.map (Attr.move
            (resize (t.place start).nameEnd 0 (byteLength name + byteLength text + 4))) := by
  have hspace : byteLength (TagPart.filler [' ']).source = 1 := rfl
  have hlength : byteLength (TagPart.attr (.quoted name text)).source
      = byteLength name + byteLength text + 3 := by
    have hquote : '"'.utf8Size = 1 := rfl
    have hequals : '='.utf8Size = 1 := rfl
    simp only [TagPart.source, WrittenAttr.source, WrittenAttr.quoted, WrittenValue.source,
      WrittenValue.lead, ValueForm.quote, Option.map_some, Option.getD_some, byteLength_append,
      byteLength_cons, byteLength_nil, hquote, hequals]
    omega
  refine congrArg (List.cons _) (filterMap_attr?_move (fun w hw => ht.name_ne_nil hw) ?_)
  intro i hpos _
  have hnameEnd : (t.place start).nameEnd = start + 1 + byteLength t.name := rfl
  have hname : (t.prepend name text).name = t.name := rfl
  rw [hname, ← hnameEnd, resize_of_lt _ _ (by omega), hspace, hlength]
  omega

/-- The inventory with an attribute put in behind the name of a tag. -/
theorem tokenize_prepend (hlex : lex source = A ++ .openTag t content :: B) {name text : List Char}
    (hne : name ≠ []) (hname : ∀ c ∈ name, isSmallNameChar c) (htext : '"' ∉ text) :
    tokenize ((A ++ .openTag (t.prepend name text) content :: B).flatMap Piece.source)
      = (tokenize source).insertAttr (t.place (byteLength (A.flatMap Piece.source))) name text := by
  have hquote : '"'.utf8Size = 1 := rfl
  have hequals : '='.utf8Size = 1 := rfl
  have hlength : byteLength (t.prepend name text).source + 0
      = byteLength t.source + (byteLength name + byteLength text + 4) := by
    have hspace : ' '.utf8Size = 1 := rfl
    rw [source_prepend, OpenTag.source]
    simp only [byteLength_append, byteLength_cons, byteLength_nil, List.cons_append, hquote, hequals,
      hspace]
    omega
  have hattr (start : Nat) : (WrittenAttr.quoted name text).place (start + 1)
      = ⟨name, start + byteLength name + 1, some ⟨text, start + byteLength name + 3, .doubleQuoted⟩⟩ := by
    simp only [WrittenAttr.place, WrittenAttr.quoted, Option.map_some, WrittenValue.lead,
      ValueForm.quote, asciiLower_of_small hname, List.nil_append, List.cons_append, byteLength_cons,
      byteLength_nil, hquote, hequals, Attr.mk.injEq, Option.some.injEq, AttrValue.mk.injEq, true_and,
      and_true]
    omega
  have hnew := tokenize_of_resized _ _ _ hlex
    (t.respells_prepend hne (fun c hc => isNameChar_of_small (hname c hc)) htext)
    (Nat.le_refl _) (t.nameEnd_lt _) hlength
  rw [attrs_prepend (.of_lex hlex), hattr] at hnew
  exact hnew

/-! ## A new value -/

/-- An attribute of a placed tag is one of its parts. -/
theorem parts_of_mem_attrs {a : Attr} (h : a ∈ (t.place start).attrs) :
    ∃ ps w qs, t.parts = ps ++ .attr w :: qs
      ∧ a = w.place ((t.place start).nameEnd + byteLength (ps.flatMap TagPart.source)) := by
  obtain ⟨p, hp, ha⟩ := List.mem_filterMap.1 h
  obtain ⟨before, behind, hsplit⟩ := List.append_of_mem hp
  obtain ⟨ps, qs, hparts, -, hstart, -⟩ := locate_split hsplit
  obtain ⟨offset, item⟩ := p
  cases item with
  | filler text => cases ha
  | attr w =>
    cases ha
    exact ⟨ps, w, qs, hparts, by rw [hstart]; rfl⟩

/-- The names of attributes end one behind another. -/
theorem nameEnd_of_mem {parts : List TagPart} {a : Attr}
    (hnames : ∀ w, .attr w ∈ parts → w.name ≠ [])
    (h : a ∈ (locate TagPart.source start parts).filterMap TagPart.attr?) :
    start < a.nameEnd ∧ a.nameEnd ≤ start + byteLength (parts.flatMap TagPart.source) := by
  obtain ⟨p, hp, ha⟩ := List.mem_filterMap.1 h
  obtain ⟨before, behind, hsplit⟩ := List.append_of_mem hp
  obtain ⟨ps, qs, rfl, -, hstart, -⟩ := locate_split hsplit
  obtain ⟨offset, item⟩ := p
  cases item with
  | filler text => cases ha
  | attr w =>
    cases ha
    have := byteLength_pos (hnames w (by simp))
    simp only at hstart
    simp only [WrittenAttr.place, List.flatMap_append, List.flatMap_cons, byteLength_append,
      TagPart.source, WrittenAttr.source]
    omega

end OpenTag

namespace WrittenAttr

variable {w : WrittenAttr} {v : WrittenValue}

theorem byteLength_source (hw : w.value = some v) : byteLength w.source
    = byteLength w.name + byteLength v.lead + byteLength v.text + byteLength v.form.quote := by
  simp [source, hw, WrittenValue.source, Nat.add_assoc]

theorem byteLength_withText (w : WrittenAttr) (v : WrittenValue) (text : List Char) :
    byteLength (w.withText v v.form text).source
      = byteLength w.name + byteLength v.lead + byteLength text + byteLength v.form.quote := by
  simp [source, withText, WrittenValue.source, WrittenValue.lead, Nat.add_assoc]

/-- A quoted value can be exchanged for any text without the quote. -/
theorem replaces_quoted (hw : w.value = some v) {quote : Char} (hquote : v.form.quote = [quote])
    {text : List Char} (htext : quote ∉ text) : (w.withText v v.form text).Replaces w := by
  refine replaces_value hw (fun rest => ?_) fun rest _ => ?_
  · cases hform : v.form with
    | doubleQuoted => rfl
    | singleQuoted => rfl
    | expression => simp [hform, ValueForm.quote] at hquote
    | unquoted => simp [hform, ValueForm.quote] at hquote
  · cases hform : v.form with
    | doubleQuoted =>
      obtain rfl : '"' = quote := by simpa [hform, ValueForm.quote] using hquote
      exact htext
    | singleQuoted =>
      obtain rfl : '\'' = quote := by simpa [hform, ValueForm.quote] using hquote
      exact htext
    | expression => simp [hform, ValueForm.quote] at hquote
    | unquoted => simp [hform, ValueForm.quote] at hquote

end WrittenAttr

namespace OpenTag

/-- With another text for the value of one attribute, the attributes in front of it stay and those
behind it move. -/
theorem attrs_withText {ps qs : List TagPart} {w : WrittenAttr} {v : WrittenValue} (ht : t.Complete)
    (hparts : t.parts = ps ++ .attr w :: qs) (hw : w.value = some v) (start : Nat) {offset : Nat}
    (hoffset : offset = (t.place start).nameEnd + byteLength (ps.flatMap TagPart.source))
    {value : AttrValue} (hvalue : (w.place offset).value = some value) (text : List Char) :
    ((t.withParts (ps ++ .attr (w.withText v v.form text) :: qs)).place start).attrs
      = (t.place start).attrs.map fun b =>
          if b = w.place offset then { w.place offset with value := some { value with text := text } }
          else b.move (resize value.start (byteLength value.text) (byteLength text)) := by
  have hnames : ∀ u, .attr u ∈ ps ++ .attr w :: qs → u.name ≠ [] := fun u hu =>
    ht.name_ne_nil (hparts ▸ hu)
  have hname := byteLength_pos (hnames w (by simp))
  obtain rfl : ⟨v.text, offset + byteLength w.name + byteLength v.lead, v.form⟩ = value := by
    simpa [WrittenAttr.place, hw] using hvalue
  have hsource := WrittenAttr.byteLength_source hw
  have hsource' := w.byteLength_withText v text
  have hsplit (u : WrittenAttr) : (locate TagPart.source (t.place start).nameEnd
        (ps ++ .attr u :: qs)).filterMap TagPart.attr?
      = (locate TagPart.source (t.place start).nameEnd ps).filterMap TagPart.attr?
        ++ u.place offset
          :: (locate TagPart.source (offset + byteLength u.source) qs).filterMap TagPart.attr? := by
    rw [locate_append, List.filterMap_append, ← hoffset]
    rfl
  have hattrs : (t.place start).attrs = _ := hparts ▸ hsplit w
  have hattrs' : ((t.withParts (ps ++ .attr (w.withText v v.form text) :: qs)).place start).attrs
      = _ := hsplit (w.withText v v.form text)
  set g := resize (offset + byteLength w.name + byteLength v.lead) (byteLength v.text)
    (byteLength text) with hg
  have hfront : (locate TagPart.source (t.place start).nameEnd ps).filterMap TagPart.attr?
      = ((locate TagPart.source (t.place start).nameEnd ps).filterMap TagPart.attr?).map
        (Attr.move g) :=
    filterMap_attr?_move (fun u hu => hnames u (by simp [hu]))
      fun i _ hi => resize_of_le _ _ (by omega)
  have hbehind : (locate TagPart.source (offset + byteLength (w.withText v v.form text).source)
        qs).filterMap TagPart.attr?
      = ((locate TagPart.source (offset + byteLength w.source) qs).filterMap TagPart.attr?).map
        (Attr.move g) := by
    refine filterMap_attr?_move (fun u hu => hnames u (by simp [hu])) fun i hpos hi => ?_
    rw [hg, resize_of_lt _ _ (by omega)]
    omega
  have hne {b : Attr} (h : b.nameEnd ≠ offset + byteLength w.name) : b ≠ w.place offset := by
    rintro rfl
    exact h rfl
  rw [hattrs', hattrs, List.map_append, List.map_cons, if_pos rfl]
  congr 1
  · -- The names of the attributes in front end before the attribute begins.
    refine hfront.trans (List.map_congr_left fun b hb => (if_neg (hne ?_)).symm)
    have := nameEnd_of_mem (fun u hu => hnames u (by simp [hu])) hb
    omega
  · congr 1
    rw [hbehind]
    refine List.map_congr_left fun b hb => (if_neg (hne ?_)).symm
    have := nameEnd_of_mem (fun u hu => hnames u (by simp [hu])) hb
    omega

/-- The inventory with another text for a quoted value. -/
theorem tokenize_withText (hlex : lex source = A ++ .openTag t content :: B) {ps qs : List TagPart}
    {w : WrittenAttr} {v : WrittenValue} (hparts : t.parts = ps ++ .attr w :: qs)
    (hw : w.value = some v) {quote : Char} (hquote : v.form.quote = [quote]) {text : List Char}
    (htext : quote ∉ text) {offset : Nat}
    (hoffset : offset = (t.place (byteLength (A.flatMap Piece.source))).nameEnd
      + byteLength (ps.flatMap TagPart.source))
    {value : AttrValue} (hvalue : (w.place offset).value = some value) :
    tokenize ((A ++ .openTag (t.withParts (ps ++ .attr (w.withText v v.form text) :: qs)) content
        :: B).flatMap Piece.source)
      = (tokenize source).setValue (t.place (byteLength (A.flatMap Piece.source))) (w.place offset)
          value text := by
  have hattrs := attrs_withText (.of_lex hlex) hparts hw _ hoffset hvalue text
  obtain rfl : ⟨v.text, offset + byteLength w.name + byteLength v.lead, v.form⟩ = value := by
    simpa [WrittenAttr.place, hw] using hvalue
  have hsource := WrittenAttr.byteLength_source hw
  have hsource' := w.byteLength_withText v text
  have hpos : 0 < byteLength v.form.quote := byteLength_pos (by simp [hquote])
  have hrespells := respells_replace hparts (WrittenAttr.replaces_quoted hw hquote htext)
  have hinside : offset + byteLength w.name + byteLength v.lead
      < byteLength (A.flatMap Piece.source) + byteLength t.source := by
    have hbracket : '<'.utf8Size = 1 := rfl
    rw [source_of_parts hparts, hoffset, place]
    simp only [byteLength_append, List.cons_append, byteLength_cons, hsource, hbracket]
    omega
  have hlength : byteLength (t.withParts (ps ++ .attr (w.withText v v.form text) :: qs)).source
      + byteLength v.text = byteLength t.source + byteLength text := by
    rw [source_of_parts hparts, source_withParts]
    simp only [byteLength_append, hsource, hsource']
    omega
  have hnew := tokenize_of_resized _ _ _ hlex hrespells (by omega) hinside hlength
  rw [hattrs] at hnew
  exact hnew

end OpenTag

end

/-- An attribute that is put in behind the name of an open tag, and a value that is written in place
of a quoted one, change nothing else: the text is read as before, with the offsets behind the edit
moved, and the tag has the new attribute before its old ones, or the attribute has the new value. -/
theorem tokenize_edit_local (source : List Char) (t : Tag) (ht : t ∈ (tokenize source).tags)
    (hopen : t.isOpen) :
    (∀ name text : List Char, name ≠ [] → (∀ c ∈ name, isSmallNameChar c) → '"' ∉ text →
      ∃ front behind, source = front ++ behind ∧ byteLength front = t.nameEnd
        ∧ tokenize (front ++ (' ' :: name ++ '=' :: '"' :: text ++ ['"']) ++ behind)
          = (tokenize source).insertAttr t name text)
      ∧ ∀ a ∈ t.attrs, ∀ v ∈ a.value, ∀ quote, v.form.quote = [quote] →
        ∀ text : List Char, quote ∉ text →
          ∃ front behind, source = front ++ v.text ++ behind ∧ byteLength front = v.start
            ∧ tokenize (front ++ text ++ behind) = (tokenize source).setValue t a v text := by
  obtain ⟨A, u, content, B, hlex, rfl⟩ := Document.exists_of_mem_tags ht hopen
  have hsource : source = A.flatMap Piece.source ++ (u.source ++ (content ++ B.flatMap Piece.source)) := by
    rw [← flatMap_source_lex source, hlex]
    simp [Piece.source]
  have hnew (u' : OpenTag) : (A ++ .openTag u' content :: B).flatMap Piece.source
      = A.flatMap Piece.source ++ (u'.source ++ (content ++ B.flatMap Piece.source)) := by
    simp [Piece.source]
  constructor
  · intro name text hne hname htext
    refine ⟨A.flatMap Piece.source ++ '<' :: u.name,
      u.parts.flatMap TagPart.source ++ u.ending ++ (content ++ B.flatMap Piece.source), ?_, ?_, ?_⟩
    · rw [hsource, OpenTag.source]
      simp
    · have hbracket : '<'.utf8Size = 1 := rfl
      simp only [OpenTag.place, byteLength_append, byteLength_cons, hbracket]
      omega
    · rw [← OpenTag.tokenize_prepend hlex hne hname htext, hnew, OpenTag.source_prepend]
      simp
  · intro a ha v hv quote hquote text htext
    obtain ⟨ps, w, qs, hparts, rfl⟩ := OpenTag.parts_of_mem_attrs ha
    obtain ⟨written, hw, rfl⟩ := Option.map_eq_some_iff.1 hv
    have hlocal := OpenTag.tokenize_withText hlex hparts hw hquote htext rfl hv
    refine ⟨A.flatMap Piece.source ++ '<' :: u.name ++ ps.flatMap TagPart.source ++ w.name
        ++ written.lead,
      written.form.quote ++ qs.flatMap TagPart.source ++ u.ending
        ++ (content ++ B.flatMap Piece.source), ?_, ?_, ?_⟩
    · rw [hsource, OpenTag.source_of_parts hparts]
      simp [WrittenAttr.source, hw, WrittenValue.source]
    · have hbracket : '<'.utf8Size = 1 := rfl
      simp only [OpenTag.place, byteLength_append, byteLength_cons, hbracket]
      omega
    · rw [← hlocal, hnew, OpenTag.source_withParts]
      simp [WrittenAttr.source, WrittenAttr.withText, WrittenValue.source, WrittenValue.lead]

/-- A script whose name is followed by a quote, with brackets in a value and in its code, and behind it
a tag that does not end. -/
def oddScript : List Char := "<script\"é src='a>b'>x<y</script>é<a".toList

/-- Its open tag. -/
def oddScriptTag : Tag :=
  ⟨"script".toList, .opening, 0, 21, 7, false, [⟨"\"é".toList, 10, none⟩,
    ⟨"src".toList, 14, some ⟨"a>b".toList, 16, .singleQuoted⟩⟩]⟩

theorem tokenize_edit_local_oddScript :
    oddScriptTag ∈ (tokenize oddScript).tags ∧ oddScriptTag.isOpen
      ∧ tokenize "<script x-1=\">\"\"é src='a>b'>x<y</script>é<a".toList
        = (tokenize oddScript).insertAttr oddScriptTag "x-1".toList ['>']
      ∧ tokenize "<script\"é src='\"'>x<y</script>é<a".toList
        = (tokenize oddScript).setValue oddScriptTag
            ⟨"src".toList, 14, some ⟨"a>b".toList, 16, .singleQuoted⟩⟩
            ⟨"a>b".toList, 16, .singleQuoted⟩ ['"'] := by
  have hmem : oddScriptTag ∈ (tokenize oddScript).tags := by decide +kernel
  obtain ⟨hinsert, hset⟩ := tokenize_edit_local oddScript oddScriptTag hmem rfl
  refine ⟨hmem, rfl, ?_, ?_⟩
  · obtain ⟨front, behind, hsource, hlength, hnew⟩ :=
      hinsert "x-1".toList ['>'] (by decide) (List.all_eq_true.1 (by decide)) (by decide)
    have hsplit : "<script".toList ++ "\"é src='a>b'>x<y</script>é<a".toList = oddScript := by
      decide +kernel
    obtain ⟨rfl, rfl⟩ := append_inj_of_byteLength (hsplit.trans hsource)
      (hlength.symm ▸ by decide +kernel)
    refine Eq.trans (congrArg tokenize ?_) hnew
    decide +kernel
  · obtain ⟨front, behind, hsource, hlength, hnew⟩ :=
      hset ⟨"src".toList, 14, some ⟨"a>b".toList, 16, .singleQuoted⟩⟩ (by decide)
        ⟨"a>b".toList, 16, .singleQuoted⟩ rfl '\'' rfl ['"'] (by decide)
    have hsplit : "<script\"é src='".toList ++ ("a>b".toList ++ "'>x<y</script>é<a".toList)
        = oddScript := by decide +kernel
    rw [List.append_assoc] at hsource
    obtain ⟨rfl, hrest⟩ := append_inj_of_byteLength (hsplit.trans hsource)
      (hlength.symm ▸ by decide +kernel)
    obtain rfl := List.append_cancel_left hrest
    refine Eq.trans (congrArg tokenize ?_) hnew
    decide +kernel

end MarkupGate
