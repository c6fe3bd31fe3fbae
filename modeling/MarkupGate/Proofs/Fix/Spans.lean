import MarkupGate.Proofs.Fix.Effect
import MarkupGate.Proofs.Fix.Locality
import MarkupGate.Proofs.Markup.Expression
import MarkupGate.Proofs.Safety.Cuts

/-!
# Spans are faithful

Repairs overwrite the ranges that an inventory names, so each of them must hold in the text what the
inventory says of it. The attributes of an open tag stand one behind another between its name and its
end. Each has a name in the text, in any case, right before its `nameEnd`, and behind it, if it has a
value, an equals sign and the value in its span: between two quotes of one kind, as a braced text, or
bare.

* `Attr.range`: all that is written of an attribute.
* `AttrValue.Faithful`, `Attr.Faithful`, `Tag.Faithful`: what each of them says stands in the text.
* `spans_faithful`: the spans of every text are faithful, those of its declared charsets too.
-/

namespace MarkupGate

/-- What is written of an attribute, from its name to the quote behind its value. -/
def Attr.range (a : Attr) : Span where
  start := a.nameEnd - byteLength a.name
  stop := (a.value.map fun v => v.span.stop + byteLength v.form.quote).getD a.nameEnd

/-- Whether a value stands in the text where it says and as it says, for an attribute whose name ends
at an offset. -/
structure AttrValue.Faithful (v : AttrValue) (nameEnd : Nat) (source : List Char) : Prop where
  /-- the value lies behind the name -/
  nameEnd_lt : nameEnd < v.start
  /-- the text in the span is the value -/
  stands : Stands source v.span v.text
  /-- between name and value stand an equals sign, whitespace around it, and the opening quote -/
  lead : ∃ before after, (∀ c ∈ before, isMarkupSpace c) ∧ (∀ c ∈ after, isMarkupSpace c)
    ∧ Stands source ⟨nameEnd, v.start⟩ (before ++ '=' :: after ++ v.form.quote)
  /-- the value has a quote on both sides just where it is in such quotes -/
  quoted : ∀ q, q = '"' ∨ q = '\'' →
    (Stands source ⟨v.start - 1, v.span.stop + 1⟩ (q :: v.text ++ [q]) ↔ v.form.quote = [q])
  /-- an expression is one, from brace to brace -/
  braced : v.form = .expression → IsExpression PlainBody v.text
  /-- a bare value has nothing in it that would end it -/
  bare : v.form = .unquoted → ∀ c ∈ v.text, isMarkupSpace c = false ∧ c ≠ '>'
  /-- the character before the value is a quote just where the value is in quotes -/
  followsQuote : Repair.followsQuote source v.start ↔ ∃ q, v.form.quote = [q]

/-- Whether an attribute stands in the text where it says and as it says. -/
structure Attr.Faithful (a : Attr) (source : List Char) : Prop where
  /-- the attribute has a name -/
  name_ne_nil : a.name ≠ []
  /-- the name ends where it should, in some case -/
  name : ∃ written, Stands source ⟨a.range.start, a.nameEnd⟩ written ∧ a.name = asciiLower written
  /-- the value, if there is one, stands behind the name -/
  value : ∀ v ∈ a.value, v.Faithful a.nameEnd source

/-- Whether an open tag stands in the text as it says. -/
structure Tag.Faithful (t : Tag) (source : List Char) : Prop where
  /-- the name stands behind the bracket, in some case -/
  name : ∃ written, Stands source ⟨t.start + 1, t.nameEnd⟩ written ∧ t.name = asciiLower written
  /-- the attributes stand one behind another before the closing bracket -/
  ordered : Ordered t.nameEnd (t.attrs.map Attr.range) (t.stop - 1)
  /-- each attribute stands in the text -/
  attrs : ∀ a ∈ t.attrs, a.Faithful source

/-! ## Attributes -/

/-- A written value stands between two quotes of a kind just where it is written in them. -/
theorem WrittenValue.stands_quoted_iff {v : WrittenValue} (hafter : ∀ c ∈ v.spaceAfter, isMarkupSpace c)
    {q : Char} (hq : q = '"' ∨ q = '\'') (front behind : List Char) :
    Stands (front ++ v.lead ++ (v.text ++ (v.form.quote ++ behind)))
        ⟨byteLength (front ++ v.lead) - 1, byteLength (front ++ v.lead) + byteLength v.text + 1⟩
        (q :: v.text ++ [q])
      ↔ v.form.quote = [q] := by
  have hone : q.utf8Size = 1 := by rcases hq with rfl | rfl <;> rfl
  have hequals : '='.utf8Size = 1 := rfl
  constructor
  · -- The text up to the value is known by its length, so the quote is the end of what leads to it.
    rintro ⟨front', back', hsource, hspan⟩
    obtain ⟨hstart, -⟩ := Span.mk.inj hspan
    have hsplit : front' ++ [q] ++ (v.text ++ (q :: back'))
        = front ++ v.lead ++ (v.text ++ (v.form.quote ++ behind)) := by
      rw [hsource]
      simp
    have hlength : byteLength (front' ++ [q]) = byteLength (front ++ v.lead) := by
      simp only [WrittenValue.lead, byteLength_append, byteLength_cons, byteLength_nil] at hstart ⊢
      omega
    obtain ⟨hfront, -⟩ := append_inj_of_byteLength hsplit hlength
    refine (WrittenValue.getLast?_lead hafter hq front).1 ?_
    rw [← hfront, List.getLast?_concat]
  · intro hquote
    refine ⟨front ++ (v.spaceBefore ++ '=' :: v.spaceAfter), behind, ?_, ?_⟩
    · simp [WrittenValue.lead, hquote]
    · simp only [Span.ofText, WrittenValue.lead, hquote, byteLength_append, byteLength_cons,
        byteLength_nil, Span.mk.injEq]
      omega

namespace WrittenAttr

variable {w : WrittenAttr} {v : WrittenValue} {rest : List Char}

/-- A placed attribute ranges over what is written of it. -/
theorem range_place (w : WrittenAttr) (start : Nat) :
    (w.place start).range = .ofText start w.source := by
  cases hv : w.value with
  | none => simp [Attr.range, place, source, hv, Span.ofText, byteLength_asciiLower]
  | some v =>
    simp only [Attr.range, place, source, hv, Span.ofText, byteLength_asciiLower, AttrValue.span,
      WrittenValue.source, Option.map_some, Option.getD_some, byteLength_append, Span.mk.injEq]
    omega

/-- A value that the reader finds stands where it is placed. -/
theorem faithful_value (front behind : List Char) (hw : w.value = some v)
    (hread : w.ReadsBefore rest) :
    AttrValue.Faithful ⟨v.text, byteLength (front ++ w.name ++ v.lead), v.form⟩
      (byteLength (front ++ w.name)) (front ++ (w.source ++ behind)) := by
  obtain ⟨hbefore, hafter, -, hadmits⟩ := hw ▸ hread.value
  have hsource : front ++ (w.source ++ behind)
      = front ++ w.name ++ v.lead ++ (v.text ++ (v.form.quote ++ behind)) := by
    simp [source, hw, WrittenValue.source]
  rw [hsource]
  refine ⟨?_, ⟨_, _, rfl, rfl⟩, ⟨v.spaceBefore, v.spaceAfter, hbefore, hafter, ?_⟩, ?_, ?_, ?_, ?_⟩
  · have hequals : '='.utf8Size = 1 := rfl
    simp only [WrittenValue.lead, byteLength_append, byteLength_cons, hequals]
    omega
  · refine ⟨front ++ w.name, v.text ++ (v.form.quote ++ behind), ?_, ?_⟩
    · rw [WrittenValue.lead, List.append_assoc]
    · rw [byteLength_append (front ++ w.name) v.lead]
      rfl
  · intro q hq
    exact WrittenValue.stands_quoted_iff hafter hq (front ++ w.name) behind
  · intro hform
    obtain ⟨inside, htext, hinside⟩ := (show v.form = ValueForm.expression from hform) ▸ hadmits
    show IsExpression PlainBody v.text
    rw [htext]
    exact readBraced_start_iff.1 hinside
  · intro hform c hc
    obtain ⟨-, hbare, -⟩ := (show v.form = ValueForm.unquoted from hform) ▸ hadmits
    simpa [isBareChar] using hbare c hc
  · rw [followsQuote_eq hafter]
    cases v.form <;> simp [ValueForm.quote]

/-- An attribute that the reader finds stands where it is placed. -/
theorem faithful_place (front behind : List Char) (hname : w.name ≠ []) (hread : w.ReadsBefore rest) :
    (w.place (byteLength front)).Faithful (front ++ (w.source ++ behind)) := by
  have hnameEnd : (w.place (byteLength front)).nameEnd = byteLength (front ++ w.name) :=
    (byteLength_append _ _).symm
  refine ⟨by simpa [place, asciiLower] using hname, ⟨w.name, ?_, rfl⟩, fun v hv => ?_⟩
  · refine ⟨front, w.valueSource ++ behind, by simp [source, valueSource], ?_⟩
    rw [range_place, hnameEnd, byteLength_append]
    rfl
  · obtain ⟨written, hw, rfl⟩ := Option.map_eq_some_iff.1 hv
    have := faithful_value front behind hw hread
    rwa [byteLength_append _ written.lead, ← hnameEnd] at this

end WrittenAttr

/-! ## Open tags -/

/-- Attributes stand one behind another as they are placed. -/
theorem ordered_attrs {start stop : Nat} {parts : List TagPart}
    (h : start + byteLength (parts.flatMap TagPart.source) ≤ stop) :
    Ordered start (((locate TagPart.source start parts).filterMap TagPart.attr?).map Attr.range)
      stop := by
  induction parts generalizing start with
  | nil => exact h
  | cons p parts ih =>
    rw [List.flatMap_cons, byteLength_append, ← Nat.add_assoc] at h
    have hrest := ih h
    cases p with
    | filler text => exact hrest.mono (Nat.le_add_right _ _)
    | attr w =>
      simp only [locate, List.filterMap_cons, TagPart.attr?, List.map_cons, w.range_place]
      exact ⟨Nat.le_refl _, Nat.le_add_right _ _, hrest⟩

/-- A complete tag stands where it is placed. -/
theorem OpenTag.faithful_place {t : OpenTag} (ht : t.Complete) (front behind : List Char) :
    (t.place (byteLength front)).Faithful (front ++ (t.source ++ behind)) := by
  have hbracket : '<'.utf8Size = 1 := rfl
  refine ⟨⟨t.name, ?_, rfl⟩, ?_, fun a ha => ?_⟩
  · refine ⟨front ++ ['<'], t.parts.flatMap TagPart.source ++ t.ending ++ behind, by simp [source], ?_⟩
    simp [Span.ofText, place, hbracket]
  · have hending : 0 < byteLength t.ending :=
      byteLength_pos (by cases h : t.selfClosing <;> simp [ending, h])
    refine ordered_attrs ?_
    simp only [place, source, List.cons_append, byteLength_cons, byteLength_append, hbracket]
    omega
  · obtain ⟨ps, w, qs, hparts, rfl⟩ := parts_of_mem_attrs ha
    obtain ⟨-, hread⟩ := (hparts ▸ ht.parts).attr
    have hattr := WrittenAttr.faithful_place
      (front ++ '<' :: t.name ++ ps.flatMap TagPart.source)
      (qs.flatMap TagPart.source ++ t.ending ++ behind) (ht.name_ne_nil (by simp [hparts])) hread
    have hsource : front ++ (t.source ++ behind) = front ++ '<' :: t.name ++ ps.flatMap TagPart.source
        ++ (w.source ++ (qs.flatMap TagPart.source ++ t.ending ++ behind)) := by
      simp [source_of_parts hparts]
    have hstart : (t.place (byteLength front)).nameEnd + byteLength (ps.flatMap TagPart.source)
        = byteLength (front ++ '<' :: t.name ++ ps.flatMap TagPart.source) := by
      simp [place, hbracket, Nat.add_assoc]
    rwa [hsource, hstart]

/-- Every open tag of a text stands in it as it says. -/
theorem faithful_of_mem_tags {source : List Char} {t : Tag} (ht : t ∈ (tokenize source).tags)
    (hopen : t.isOpen) : t.Faithful source := by
  obtain ⟨A, u, content, B, hlex, rfl⟩ := Document.exists_of_mem_tags ht hopen
  have hsource : source
      = A.flatMap Piece.source ++ (u.source ++ (content ++ B.flatMap Piece.source)) := by
    rw [← flatMap_source_lex source, hlex]
    simp [Piece.source]
  have := OpenTag.faithful_place (.of_lex hlex) (A.flatMap Piece.source)
    (content ++ B.flatMap Piece.source)
  rwa [← hsource] at this

/-! ## Charsets -/

/-- What stands inside a text that stands in another one. -/
theorem Stands.inside {source a b c : List Char} {start stop : Nat}
    (h : Stands source ⟨start, stop⟩ (a ++ (b ++ c))) :
    Stands source (.ofText (start + byteLength a) b) b := by
  obtain ⟨front, back, rfl, hspan⟩ := h
  obtain ⟨rfl, -⟩ := Span.mk.inj hspan
  exact ⟨front ++ a, c ++ back, by simp, by rw [byteLength_append]⟩

namespace CharsetDeclaration

/-- A charset parameter is part of its content type. -/
theorem exists_of_parameter? {content before value : List Char}
    (h : parameter? content = some (before, value)) :
    ∃ rest, content = before ++ (value ++ rest) := by
  obtain ⟨parts, -, heq⟩ := Option.map_eq_some_iff.1 h
  cases heq
  have hsplit := List.take_append_drop (parts.1.length + "charset=".toList.length) content
  exact ⟨_, hsplit.symm.trans (congrArg _ List.takeWhile_append_dropWhile.symm)⟩

/-- The charset that a tag declares stands in its span. -/
theorem stands_of_ofTag? {source : List Char} {t : Tag} (ht : t ∈ (tokenize source).tags)
    {c : CharsetDeclaration} (h : ofTag? t = some c) {r : Span} (hr : r ∈ c.span) :
    Stands source r c.value := by
  rw [ofTag?] at h
  split at h
  · rename_i a ha
    split at h
    · cases h
    · cases h
      obtain ⟨v, hv, rfl⟩ := Option.map_eq_some_iff.1 hr
      rw [hv]
      exact stands_of_value ht (List.mem_of_find?_eq_some ha) hv
  · split at h
    · obtain ⟨a, ha, h⟩ := Option.bind_eq_some_iff.1 h
      obtain ⟨v, hv, h⟩ := Option.bind_eq_some_iff.1 h
      obtain ⟨⟨before, value⟩, hparts, h⟩ := Option.bind_eq_some_iff.1 h
      cases h
      cases hr
      obtain ⟨rest, htext⟩ := exists_of_parameter? hparts
      have := stands_of_value ht (List.mem_of_find?_eq_some ha) hv
      rw [htext] at this
      exact this.inside
    · cases h

end CharsetDeclaration

/-- The spans of every text are faithful: its open tags and their attributes and values stand in the
text where they say and as they say, and so do the charsets that it declares. -/
theorem spans_faithful (source : List Char) :
    (∀ t ∈ (tokenize source).tags, t.isOpen → t.Faithful source)
      ∧ ∀ c ∈ (Document.parse source).charsetDeclarations, ∀ r ∈ c.span,
        Stands source r c.value := by
  refine ⟨fun t ht hopen => faithful_of_mem_tags ht hopen, fun c hc r hr => ?_⟩
  obtain ⟨t, ht, hct⟩ := List.mem_filterMap.1 hc
  have htag : t ∈ (tokenize source).tags := (List.mem_filter.1 (List.mem_filter.1 ht).1).1
  exact CharsetDeclaration.stands_of_ofTag? htag hct hr

/-- A tag with a value of each form, one of them empty, and two that hold the end of another one; with
space around an equals sign, a stray slash and equals sign, a spread, and letters of two bytes. -/
def motleyMeta : List Char :=
  "é<Meta Content = 'a;Charset=ü;b' HTTP-Equiv=content-type / =\x7b...p\x7dx=\x7b\"\x7d\"\x7dÜ=\"\">".toList

/-- The tag in it. -/
def motleyTag : Tag :=
  ⟨"meta".toList, .opening, 2, 81, 7, false,
    [⟨"content".toList, 15, some ⟨"a;Charset=ü;b".toList, 19, .singleQuoted⟩⟩,
      ⟨"http-equiv".toList, 45, some ⟨"content-type".toList, 46, .unquoted⟩⟩,
      ⟨['x'], 69, some ⟨"\x7b\"\x7d\"\x7d".toList, 70, .expression⟩⟩,
      ⟨['Ü'], 77, some ⟨[], 79, .doubleQuoted⟩⟩]⟩

theorem spans_faithful_motleyMeta :
    motleyTag ∈ (tokenize motleyMeta).tags ∧ motleyTag.isOpen ∧ motleyTag.Faithful motleyMeta
      ∧ ⟨motleyTag, ['ü'], some ⟨29, 31⟩⟩ ∈ (Document.parse motleyMeta).charsetDeclarations
      ∧ Stands motleyMeta ⟨29, 31⟩ ['ü'] := by
  obtain ⟨htags, hcharsets⟩ := spans_faithful motleyMeta
  have htag : motleyTag ∈ (tokenize motleyMeta).tags := by decide +kernel
  have hcharset : ⟨motleyTag, ['ü'], some ⟨29, 31⟩⟩
      ∈ (Document.parse motleyMeta).charsetDeclarations := by decide +kernel
  exact ⟨htag, rfl, htags _ htag rfl, hcharset, hcharsets _ hcharset _ rfl⟩

end MarkupGate
