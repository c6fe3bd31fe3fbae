import MarkupGate.Proofs.Fix.Splice
import MarkupGate.Proofs.Markup.Cutting
import MarkupGate.Proofs.Revision.Placing

/-!
# Edits of tags

Repairs change a tag in one of two ways: they put an attribute in behind its name, or they write one
of its attributes differently. `EditedBy` says what an edit makes of the characters of a tag;
`Respells` and `contents` say how the new tag is read and what it says.

An attribute is written differently in three ways: it gets a value in quotes, part of its value is
exchanged, or its bare value is put in quotes.

* `applyEdits_tag`: one tag is edited.
* `applyEdits_tags`: any number of tags are, and what becomes of the pieces of the text.
-/

namespace MarkupGate

variable {e : Edit} {start : Nat} {t t' : OpenTag} {ps qs : List TagPart} {w w' : WrittenAttr}
  {v : WrittenValue}

/-- Whether an edit turns a tag at an offset into another one, behind its bracket. -/
def OpenTag.EditedBy (t : OpenTag) (start : Nat) (e : Edit) (t' : OpenTag) : Prop :=
  e.Rewrites (start + 1) t.source.tail t'.source.tail

theorem OpenTag.EditedBy.rewrites (h : t.EditedBy start e t') :
    e.Rewrites start t.source t'.source ∧ start < e.span.start := by
  have hbracket : ∀ u : OpenTag, u.source = ['<'] ++ u.source.tail ++ [] := fun u => by
    simp [OpenTag.source]
  have h : e.Rewrites (start + byteLength ['<']) t.source.tail t'.source.tail := h
  refine ⟨?_, ?_⟩
  · rw [hbracket t, hbracket t']
    exact Edit.Rewrites.around h []
  · exact h.range.1

namespace OpenTag

/-! ## New attributes -/

/-- The tag with an attribute put in behind its name. -/
def prepend (t : OpenTag) (name text : List Char) : OpenTag :=
  { t with parts := .filler [' '] :: .attr (.quoted name text) :: t.parts }

theorem editedBy_prepend (t : OpenTag) (start : Nat) (name text : List Char) :
    t.EditedBy start
      (.insertion (t.place start).nameEnd (' ' :: name ++ '=' :: Repair.inQuotes text))
      (t.prepend name text) := by
  refine ⟨t.name, [], t.parts.flatMap TagPart.source ++ t.ending, ?_, ?_, ?_⟩
  · simp [source]
  · simp [source, prepend, ending_eq, TagPart.source, WrittenAttr.source, WrittenAttr.quoted,
      WrittenValue.source, WrittenValue.lead, ValueForm.quote, Edit.insertion, Repair.inQuotes]
  · simp [Edit.insertion, place]

theorem respells_prepend (t : OpenTag) {name text : List Char} (hne : name ≠ [])
    (hname : ∀ c ∈ name, isNameChar c) (htext : '"' ∉ text) : (t.prepend name text).Respells t :=
  ⟨rfl, rfl, fun h => h.prependAttr hne hname htext⟩

theorem contents_prepend (t : OpenTag) (name text : List Char) :
    (t.prepend name text).contents = (asciiLower name, some (.doubleQuoted, text)) :: t.contents :=
  rfl

/-! ## Attributes written differently -/

/-- The tag with other parts. -/
def withParts (t : OpenTag) (parts : List TagPart) : OpenTag := { t with parts := parts }

/-- An attribute of a placed tag is one of its parts, and the first of its name. -/
theorem parts_of_attr? {name : String} {a : Attr} (h : (t.place start).attr? name = some a) :
    ∃ ps w qs, t.parts = ps ++ .attr w :: qs
      ∧ a = w.place ((t.place start).nameEnd + byteLength (ps.flatMap TagPart.source))
      ∧ w.content.1 = name.toList
      ∧ ∀ c ∈ ps.filterMap TagPart.content?, c.1 ≠ name.toList := by
  have hfind : ∀ (offset : Nat) (parts : List TagPart),
      ((locate TagPart.source offset parts).filterMap TagPart.attr?).find?
        (fun a => a.name = name.toList) = some a →
      ∃ ps w qs, parts = ps ++ .attr w :: qs
        ∧ a = w.place (offset + byteLength (ps.flatMap TagPart.source))
        ∧ w.content.1 = name.toList ∧ ∀ c ∈ ps.filterMap TagPart.content?, c.1 ≠ name.toList := by
    intro offset parts
    induction parts generalizing offset with
    | nil => simp [locate]
    | cons p parts ih =>
      intro h
      cases p with
      | filler s =>
        obtain ⟨ps, w, qs, rfl, rfl, hw, hps⟩ := ih _ (by simpa [locate, TagPart.attr?] using h)
        exact ⟨.filler s :: ps, w, qs, rfl, by simp [TagPart.source, Nat.add_assoc], hw, hps⟩
      | attr w =>
        by_cases hname : asciiLower w.name = name.toList
        · refine ⟨[], w, parts, rfl, ?_, hname, by simp⟩
          simpa [locate, TagPart.attr?, WrittenAttr.place, hname, eq_comm] using h
        · obtain ⟨ps, u, qs, rfl, rfl, hu, hps⟩ := ih _ (by
            simpa [locate, TagPart.attr?, WrittenAttr.place, hname] using h)
          refine ⟨.attr w :: ps, u, qs, rfl, by simp [TagPart.source, Nat.add_assoc], hu, ?_⟩
          simpa [TagPart.content?, WrittenAttr.content, hname] using hps
  exact hfind _ t.parts h

/-- How a tag is written around one of its attributes. -/
theorem source_withParts (t : OpenTag) (ps qs : List TagPart) (u : WrittenAttr) :
    (t.withParts (ps ++ .attr u :: qs)).source = '<' :: t.name ++ ps.flatMap TagPart.source
      ++ u.source ++ (qs.flatMap TagPart.source ++ t.ending) := by
  simp [source, withParts, ending_eq, TagPart.source]

theorem source_of_parts (hparts : t.parts = ps ++ .attr w :: qs) :
    t.source = '<' :: t.name ++ ps.flatMap TagPart.source ++ w.source
      ++ (qs.flatMap TagPart.source ++ t.ending) := by
  rw [← source_withParts, withParts, ← hparts]

theorem editedBy_replace (hparts : t.parts = ps ++ .attr w :: qs)
    (h : e.Rewrites ((t.place start).nameEnd + byteLength (ps.flatMap TagPart.source)) w.source
      w'.source) : t.EditedBy start e (t.withParts (ps ++ .attr w' :: qs)) := by
  rw [EditedBy, source_withParts, source_of_parts hparts]
  exact Edit.Rewrites.around (by simpa [place, Nat.add_assoc] using h) _

theorem respells_replace (hparts : t.parts = ps ++ .attr w :: qs) (h : w'.Replaces w) :
    (t.withParts (ps ++ .attr w' :: qs)).Respells t := by
  refine ⟨rfl, rfl, fun hcomplete => ?_⟩
  obtain ⟨name, parts, selfClosing⟩ := t
  obtain rfl : parts = _ := hparts
  exact hcomplete.replaceAttr h

theorem contents_of_parts (hparts : t.parts = ps ++ .attr w :: qs) :
    t.contents = ps.filterMap TagPart.content? ++ w.content :: qs.filterMap TagPart.content? := by
  simp [contents, hparts, TagPart.content?]

end OpenTag

namespace WrittenAttr

theorem rewrites_boolean (hw : w.value = none) (start : Nat) (text : List Char) :
    (Edit.insertion (w.place start).nameEnd ('=' :: Repair.inQuotes text)).Rewrites start w.source
      (quoted w.name text).source := by
  refine ⟨w.name, [], [], by simp [source, hw], ?_, by simp [Edit.insertion, place]⟩
  simp [source, quoted, WrittenValue.source, WrittenValue.lead, ValueForm.quote, Edit.insertion,
    Repair.inQuotes]

theorem rewrites_inside {front mid behind : List Char} {form : ValueForm} (hw : w.value = some v)
    (hv : v.text = front ++ mid ++ behind) (hform : form.quote = v.form.quote) (start : Nat)
    (new : List Char) :
    Edit.Rewrites ⟨.ofText (start + byteLength w.name + byteLength v.lead + byteLength front) mid,
        new⟩ start w.source (w.withText v form (front ++ new ++ behind)).source := by
  refine ⟨w.name ++ v.lead ++ front, mid, behind ++ v.form.quote, ?_, ?_, ?_⟩
  · simp [source, hw, WrittenValue.source, hv]
  · simp [source, withText, WrittenValue.source, WrittenValue.lead, hform]
  · simp [Span.ofText, Nat.add_assoc]

theorem rewrites_value {form : ValueForm} (hw : w.value = some v) (hform : form.quote = v.form.quote)
    (start : Nat) (new : List Char) :
    Edit.Rewrites ⟨.ofText (start + byteLength w.name + byteLength v.lead) v.text, new⟩ start
      w.source (w.withText v form new).source := by
  have hv : v.text = [] ++ v.text ++ [] := by simp
  simpa using rewrites_inside hw hv hform start new

theorem rewrites_requoted {text : List Char} (hw : w.value = some v) (hv : v.form = .unquoted)
    (start : Nat) :
    Edit.Rewrites ⟨.ofText (start + byteLength w.name + byteLength v.lead) v.text,
        Repair.inQuotes text⟩ start w.source (w.withText v .doubleQuoted text).source := by
  refine ⟨w.name ++ v.lead, v.text, [], ?_, ?_, ?_⟩
  · simp [source, hw, WrittenValue.source, hv, ValueForm.quote]
  · simp [source, withText, WrittenValue.source, WrittenValue.lead, hv, ValueForm.quote,
      Repair.inQuotes]
  · simp [Span.ofText, Nat.add_assoc]

end WrittenAttr

/-! ## Edits of texts -/

/-- An open tag of a document with the pieces around its own. -/
theorem Document.exists_of_mem_tags {html : List Char} {u : Tag}
    (hu : u ∈ (Document.parse html).tags) (hopen : u.isOpen) :
    ∃ A t content B, lex html = A ++ .openTag t content :: B
      ∧ u = t.place (byteLength (A.flatMap Piece.source)) := by
  rw [(sound_parse html).tags_eq] at hu
  obtain ⟨p, hp, htag⟩ := List.mem_filterMap.1 hu
  obtain ⟨before, behind, hsplit⟩ := List.append_of_mem hp
  obtain ⟨A, B, hlex, -, hstart, -⟩ := locate_split hsplit
  obtain ⟨start, item⟩ := p
  cases item with
  | openTag t content =>
    cases htag
    refine ⟨A, t, content, B, hlex, ?_⟩
    simp only [Nat.zero_add] at hstart
    rw [← hstart]
  | closeTag name trailing =>
    cases htag
    cases hopen
  | _ => cases htag

/-- An edit of one tag. -/
theorem applyEdits_tag (fix : FixKind) {html content : List Char} {A B : List Piece}
    (hlex : lex html = A ++ .openTag t content :: B)
    (h : t.EditedBy (byteLength (A.flatMap Piece.source)) e t') :
    applyEdits fix html [e] = .ok ((A ++ .openTag t' content :: B).flatMap Piece.source) := by
  have haround : e.Rewrites 0
      (A.flatMap Piece.source ++ t.source ++ (content ++ B.flatMap Piece.source))
      (A.flatMap Piece.source ++ t'.source ++ (content ++ B.flatMap Piece.source)) :=
    Edit.Rewrites.around (by simpa using h.rewrites.1) _
  obtain ⟨front, cut, behind, hsource, hsource', hspan⟩ := haround
  obtain ⟨span, text⟩ := e
  obtain rfl := hspan
  have hhtml : html = front ++ cut ++ behind := by
    rw [← hsource, ← flatMap_source_lex html, hlex]
    simp [Piece.source]
  have hnew : (A ++ .openTag t' content :: B).flatMap Piece.source = front ++ text ++ behind := by
    rw [← hsource']
    simp [Piece.source]
  rw [hhtml, hnew]
  simpa using applyEdits_single fix front cut behind text

/-- A piece before and after edits of tags: it is the same, without an edit of its tag, or its tag is
edited into one that stands in some relation to it. -/
def Piece.Edited (edit? : Tag → Option Edit) (R : OpenTag → OpenTag → Prop) (p : Located Piece)
    (q : Piece) : Prop :=
  (q = p.item ∧ ∀ u, Piece.tag? p = some u → edit? u = none)
    ∨ ∃ t t' content, p.item = .openTag t content ∧ q = .openTag t' content
      ∧ (edit? (t.place p.start)).isSome ∧ R t t'

section

variable {edit? : Tag → Option Edit} {R : OpenTag → OpenTag → Prop}
  {pieces : List (Located Piece)}

/-- The edits of the tags of some pieces. -/
def editsOf (edit? : Tag → Option Edit) (start : Nat) (ps : List Piece) : List Edit :=
  ((locate Piece.source start ps).filterMap Piece.tag?).filterMap edit?

theorem editsOf_cons_none {p : Piece} {start : Nat} (h : (Piece.tag? ⟨start, p⟩).bind edit? = none)
    (ps : List Piece) :
    editsOf edit? start (p :: ps) = editsOf edit? (start + byteLength p.source) ps := by
  simp only [editsOf, locate]
  cases hu : Piece.tag? ⟨start, p⟩ with
  | none => simp [hu]
  | some u => simp [hu, show edit? u = none by simpa [hu] using h]

theorem editsOf_cons_some {p : Piece} {start : Nat} {e : Edit}
    (h : (Piece.tag? ⟨start, p⟩).bind edit? = some e) (ps : List Piece) :
    editsOf edit? start (p :: ps) = e :: editsOf edit? (start + byteLength p.source) ps := by
  obtain ⟨u, hu, he⟩ := Option.bind_eq_some_iff.1 h
  simp [editsOf, locate, hu, he]

/-- If closing tags are left alone, what is edited is an opening tag. -/
theorem Piece.exists_openTag_of_edit (hclose : ∀ u : Tag, u.isOpen = false → edit? u = none)
    {p : Piece} {start : Nat} {e : Edit} (h : (Piece.tag? ⟨start, p⟩).bind edit? = some e) :
    ∃ t content, p = .openTag t content ∧ edit? (t.place start) = some e := by
  obtain ⟨u, hu, he⟩ := Option.bind_eq_some_iff.1 h
  cases p with
  | openTag t content =>
    cases hu
    exact ⟨t, content, rfl, he⟩
  | closeTag name trailing =>
    cases hu
    rw [hclose _ rfl] at he
    cases he
  | _ => cases hu

/-- What the edits of the tags of some pieces make of them. Each edit begins behind the first character
of its piece, so they begin one behind another. -/
structure EditsPieces (edit? : Tag → Option Edit) (R : OpenTag → OpenTag → Prop) (start start' : Nat)
    (T : Track Piece) : Prop where
  splice : Edit.splice? start (editsOf edit? start T.old) (T.old.flatMap Piece.source)
    = some (T.new.flatMap Piece.source)
  ordered : (editsOf edit? start T.old).Pairwise fun e e' => e.span.start < e'.span.start
  behind : ∀ e ∈ editsOf edit? start T.old, start < e.span.start
  edited : ∀ o q, (o, q) ∈ T.place start start' → ∃ p, o = some p ∧ Piece.Edited edit? R p q.item

namespace EditsPieces

variable {start start' : Nat} {T : Track Piece}

/-- A piece that is left alone stays in front. -/
theorem keep {p : Piece} (h : (Piece.tag? ⟨start, p⟩).bind edit? = none)
    (hT : EditsPieces edit? R (start + byteLength p.source) (start' + byteLength p.source) T) :
    EditsPieces edit? R start start' ((some p, p) :: T) := by
  constructor
  · rw [Track.old_cons_some, editsOf_cons_none h, List.flatMap_cons,
      Edit.splice?_append fun e he => Nat.le_of_lt (hT.behind e he), hT.splice]
    rfl
  · rw [Track.old_cons_some, editsOf_cons_none h]
    exact hT.ordered
  · intro e he
    rw [Track.old_cons_some, editsOf_cons_none h] at he
    exact Nat.lt_of_le_of_lt (Nat.le_add_right _ _) (hT.behind e he)
  · rintro o q (- | ⟨-, hq⟩)
    · refine ⟨_, rfl, .inl ⟨rfl, fun u hu => ?_⟩⟩
      simpa [hu] using h
    · exact hT.edited o q hq

/-- A tag that is edited is replaced in front. -/
theorem edit {t t' : OpenTag} {content : List Char} {e : Edit}
    (h : edit? (t.place start) = some e) (hedited : t.EditedBy start e t') (hR : R t t')
    (hT : EditsPieces edit? R (start + byteLength (Piece.openTag t content).source)
      (start' + byteLength (Piece.openTag t' content).source) T) :
    EditsPieces edit? R start start' ((some (.openTag t content), .openTag t' content) :: T) := by
  have hcons : editsOf edit? start (.openTag t content :: T.old) = e
      :: editsOf edit? (start + byteLength (Piece.openTag t content).source) T.old :=
    editsOf_cons_some (by simpa [Piece.tag?] using h) T.old
  have hpiece : e.Rewrites start (Piece.openTag t content).source
      (Piece.openTag t' content).source := by
    have haround : e.Rewrites start ([] ++ t.source ++ content) ([] ++ t'.source ++ content) :=
      Edit.Rewrites.around (by simpa using hedited.rewrites.1) content
    simpa [Piece.source] using haround
  constructor
  · rw [Track.old_cons_some, hcons, List.flatMap_cons,
      hpiece.splice? fun e' he' => Nat.le_of_lt (hT.behind e' he'), hT.splice]
    rfl
  · -- The edit stays inside its piece, and the others begin behind it.
    rw [Track.old_cons_some, hcons]
    refine List.pairwise_cons.2 ⟨fun e' he' => ?_, hT.ordered⟩
    have := hpiece.range
    have := hT.behind e' he'
    omega
  · rw [Track.old_cons_some, hcons]
    rintro e' (- | ⟨-, he'⟩)
    · exact hedited.rewrites.2
    · exact Nat.lt_of_le_of_lt (Nat.le_add_right _ _) (hT.behind e' he')
  · rintro o q (- | ⟨-, hq⟩)
    · exact ⟨_, rfl, .inr ⟨t, t', content, rfl, rfl, by simp [h], hR⟩⟩
    · exact hT.edited o q hq

/-- The edits of the tags of any pieces can be carried out, if each can in its own tag. -/
theorem exists_track (hclose : ∀ u : Tag, u.isOpen = false → edit? u = none)
    (hedit : ∀ t content start e, ⟨start, .openTag t content⟩ ∈ pieces →
      edit? (t.place start) = some e → ∃ t', t.EditedBy start e t' ∧ R t t')
    (ps : List Piece) (start start' : Nat)
    (hpieces : ∀ p ∈ locate Piece.source start ps, p ∈ pieces) :
    ∃ T : Track Piece, T.old = ps ∧ EditsPieces edit? R start start' T := by
  induction ps generalizing start start' with
  | nil => exact ⟨[], rfl, rfl, .nil, nofun, nofun⟩
  | cons p ps ih =>
    have hrest : ∀ q ∈ locate Piece.source (start + byteLength p.source) ps, q ∈ pieces :=
      fun q hq => hpieces q (List.mem_cons_of_mem _ hq)
    cases ho : (Piece.tag? ⟨start, p⟩).bind edit? with
    | none =>
      obtain ⟨T, rfl, hT⟩ := ih _ (start' + byteLength p.source) hrest
      exact ⟨_, rfl, hT.keep ho⟩
    | some e =>
      obtain ⟨t, content, rfl, he⟩ := Piece.exists_openTag_of_edit hclose ho
      obtain ⟨t', hedited, hR⟩ := hedit t content start e (hpieces _ (by simp [locate])) he
      obtain ⟨T, rfl, hT⟩ := ih _ (start' + byteLength (Piece.openTag t' content).source) hrest
      exact ⟨_, rfl, hT.edit he hedited hR⟩

end EditsPieces

end

/-- Edits of tags of a text, each inside its own tag, can be carried out together. -/
theorem applyEdits_tags (fix : FixKind) {html : List Char} (edit? : Tag → Option Edit)
    {R : OpenTag → OpenTag → Prop} (hclose : ∀ u : Tag, u.isOpen = false → edit? u = none)
    (hedit : ∀ t content start e, ⟨start, .openTag t content⟩ ∈ (Document.parse html).pieces →
      edit? (t.place start) = some e → ∃ t', t.EditedBy start e t' ∧ R t t') :
    ∃ T : Track Piece, T.old = lex html
      ∧ applyEdits fix html ((Document.parse html).tags.filterMap edit?)
          = .ok (T.new.flatMap Piece.source)
      ∧ ∀ o q, (o, q) ∈ T.place 0 0 → ∃ p, o = some p ∧ Piece.Edited edit? R p q.item := by
  have htags := (Document.sound_parse html).tags_eq
  obtain ⟨T, hold, hT⟩ := EditsPieces.exists_track hclose hedit (lex html) 0 0 fun p hp => hp
  have hsplice := hT.splice
  have hordered := hT.ordered
  rw [hold] at hsplice hordered
  refine ⟨T, hold, applyEdits_of_splice? fix ?_ ?_, hT.edited⟩
  · rw [htags]
    exact hordered
  · rw [htags]
    rwa [flatMap_source_lex] at hsplice

end MarkupGate
