import MarkupGate.Proofs.Fix.Revised

/-!
# Exact repairs

A repair that writes tags differently is exact if the new text says what the old one said, but for
what the repair set. It is exact if every new tag is read as it was written. The converse holds too:
up to the first new tag that is not, the texts are read alike, so the reader meets that tag where it
was written, and finds there a tag that does not say what it should.

* `OpenTag.Tells`: what is read where a tag is written tells whether it was read as written.
* `Document.saysBut_iff`: a text in which tags are written so is exact where all of them fit.
* `OpenTag.Puts.tells`: setting an attribute is a way of writing a tag that tells.
-/

namespace MarkupGate

/-! ## New tags -/

/-- What it takes to tell from what is read where a tag was written differently whether the tag was
read as it was written: it then says what it should, and otherwise it does not. -/
structure OpenTag.Tells (t' t : OpenTag) (Q : Tag → Prop) (Fits : Prop) : Prop where
  name : t'.name = t.name
  respells : Fits → t'.Respells t
  /-- the tag that was written says what it should -/
  placed : ∀ start, Q (t'.place start)
  /-- a tag that is read and says what it should shows that the new one fits -/
  fits : ∀ {rest r : List Char} {u : OpenTag} {start : Nat},
    readOpenTag (t'.source.tail ++ rest) = some (u, r) → Q (u.place start) → Fits

theorem OpenTag.Tells.of_iff {t t' : OpenTag} {Q : Tag → Prop} {Fits Fits' : Prop}
    (h : t'.Tells t Q Fits) (hiff : Fits ↔ Fits') : t'.Tells t Q Fits' :=
  ⟨h.name, fun hfits => h.respells (hiff.2 hfits), h.placed, fun hu hQ => hiff.1 (h.fits hu hQ)⟩

/-- A tag in which an attribute is set tells if its value does. -/
theorem OpenTag.Puts.tells {t t' : OpenTag} {name : String} {v : WrittenValue}
    {P : ValueForm → List Char → Prop} (h : t.Puts name v t') (hcomplete : t.Complete)
    (start : Nat) (hP : P v.form v.text)
    (hread : ∀ {form : ValueForm} {text s r : List Char}, P form text →
      readValueText ((v.form.quote ++ v.text ++ v.form.quote ++ s).dropWhile isMarkupSpace)
        = some (form, text, r) → v.form.Fits v.text) :
    t'.Tells t ((t.place start).SaysWith name P) (v.form.Fits v.text) := by
  refine ⟨?_, h.respells, fun start' => ⟨_, _, hP, h.placed start start'⟩,
    fun {rest r u start'} hu hsaid => ?_⟩
  · cases h <;> rfl
  · obtain ⟨form, text, s, r', hfind, hvalue⟩ := h.exists_of_read hcomplete hu
    rw [← map_content_place u start'] at hfind
    exact hread (hsaid.of_find? hfind) hvalue

/-! ## New pieces -/

/-- A piece before and after edits of some tags: it is the same, or its tag is one of them and is
written in a way that tells whether it was read as written. -/
inductive Piece.Told (Edited : Tag → Prop) (Q : Tag → Tag → Prop) (Fits : Tag → Prop) :
    Located Piece → Piece → Prop
  | kept (p : Located Piece) (h : ∀ u, tag? p = some u → ¬Edited u) : Told Edited Q Fits p p.item
  | edited {t t' : OpenTag} (start : Nat) (content : List Char) (hedited : Edited (t.place start))
      (h : t'.Tells t (Q (t.place start)) (Fits (t.place start))) :
      Told Edited Q Fits ⟨start, .openTag t content⟩ (.openTag t' content)

section

variable {Edited : Tag → Prop} {Q : Tag → Tag → Prop} {Fits : Tag → Prop}

namespace Piece.Told

variable {p : Located Piece} {q : Piece}

theorem rewritten (h : Told Edited Q Fits p q) : p.item.Rewritten q := by
  cases h with
  | kept => exact .same _
  | edited start content _ h => exact .tag content h.name

theorem respelled (h : Told Edited Q Fits p q) (hfits : ∀ u, tag? p = some u → Edited u → Fits u) :
    p.item.Respelled q := by
  cases h with
  | kept => exact .same _
  | edited start content hedited h => exact .tag content (h.respells (hfits _ rfl hedited))

theorem isSome_tag? (h : Told Edited Q Fits p q) (start' : Nat) :
    (tag? ⟨start', q⟩).isSome = (tag? p).isSome := by
  cases h with
  | kept =>
    obtain ⟨start, item⟩ := p
    cases item <;> rfl
  | edited => rfl

/-- Wherever the new piece is placed, it says what it should. -/
theorem saysBut (h : Told Edited Q Fits p q) (hfits : ∀ u, tag? p = some u → Edited u → Fits u)
    (start' : Nat) : Piece.SaysBut (Tag.KeptBut Edited Q) p ⟨start', q⟩ := by
  cases h with
  | kept _ h =>
    obtain ⟨start, item⟩ := p
    cases item with
    | openTag t content =>
      obtain ⟨htext, hraw⟩ := text_openTag t content start
      obtain ⟨htext', hraw'⟩ := text_openTag t content start'
      refine ⟨.some ⟨fun hedited => absurd hedited (h _ rfl), fun _ => t.same_place start start'⟩, ?_, ?_⟩
      · rw [htext, htext']
      · rw [hraw, hraw']
    | closeTag name trailing =>
      exact ⟨.some ⟨fun hedited => absurd hedited (h _ rfl), fun _ => ⟨rfl, rfl, rfl, rfl⟩⟩, rfl, rfl⟩
    | text content => exact ⟨.none, rfl, rfl⟩
    | comment body => exact ⟨.none, rfl, rfl⟩
    | declaration mark body => exact ⟨.none, rfl, rfl⟩
    | unterminated rest => exact ⟨.none, rfl, rfl⟩
  | @edited t t' start content hedited h =>
    have hrespells := h.respells (hfits _ rfl hedited)
    obtain ⟨htext, hraw⟩ := text_openTag t content start
    obtain ⟨htext', hraw'⟩ := text_openTag t' content start'
    refine ⟨.some ⟨fun _ => h.placed start', fun hkept => absurd hedited hkept⟩, ?_, ?_⟩
    · rw [htext, htext', OpenTag.opensTextOnly, OpenTag.opensTextOnly, hrespells.name,
        hrespells.selfClosing]
    · rw [hraw, hraw', OpenTag.opensRaw, OpenTag.opensRaw, hrespells.name, hrespells.selfClosing]

end Piece.Told

/-- The first new tag that does not fit is met by the reader where it was written, so it is told from
what is read there. -/
theorem fits_of_tags {ps ps' : List Piece} {start start' : Nat} (hspelled : Spelled ps)
    (hps : List.Forall₂ (Piece.Told Edited Q Fits) (locate Piece.source start ps) ps')
    (htags : List.Forall₂ (Tag.KeptBut Edited Q) ((locate Piece.source start ps).filterMap Piece.tag?)
      ((locate Piece.source start' (lex (ps'.flatMap Piece.source))).filterMap Piece.tag?)) :
    ∀ u ∈ (locate Piece.source start ps).filterMap Piece.tag?, Edited u → Fits u := by
  have hrewritten : ∀ {ps ps' : List Piece} {start : Nat},
      List.Forall₂ (Piece.Told Edited Q Fits) (locate Piece.source start ps) ps' →
      List.Forall₂ Piece.Rewritten ps ps' := by
    intro ps ps' start h
    rw [← map_item_locate Piece.source start ps, List.forall₂_map_left_iff]
    exact h.imp fun _ _ => Piece.Told.rewritten
  induction ps generalizing start start' ps' with
  | nil => nofun
  | cons p ps ih =>
    obtain ⟨hread, hspelled⟩ := hspelled
    obtain ⟨q, qs, hq, hqs, rfl⟩ := List.forall₂_cons_left_iff.1 hps
    have hread' := hread.congr (hspelled.sameFront (hrewritten hqs))
    have hfits : ∀ u, Piece.tag? ⟨start, p⟩ = some u → Edited u → Fits u := by
      cases hq with
      | kept _ h => exact fun u hu hedited => absurd hedited (h u hu)
      | @edited t t' _ content hedited h =>
        obtain ⟨-, hname, -⟩ := Piece.openTag_readsBefore_iff.1 hread'
        rw [List.flatMap_cons, Piece.source, List.append_assoc] at htags
        rintro _ ⟨⟩ -
        rcases lex_openTag (h.name ▸ hname) (content ++ qs.flatMap Piece.source) with
          hlex | ⟨u, content', rest, r, hlex, hopen⟩
        · -- Nothing is read any more, not even the tag.
          rw [hlex] at htags
          cases htags
        · rw [hlex] at htags
          exact h.fits hopen ((List.forall₂_cons.1 htags).1.edited hedited)
    -- So the new piece is read as it was written, and all others stand behind it.
    rw [List.flatMap_cons, (hread'.respell (hq.respelled hfits)).lex_eq] at htags
    have hsome := hq.isSome_tag? start'
    simp only [locate, List.filterMap_cons] at htags ⊢
    cases hu : Piece.tag? ⟨start, p⟩ with
    | none =>
      rw [hu] at hsome
      simp only [hu, Option.isNone_iff_eq_none.1 (by simpa using hsome)] at htags
      exact ih hspelled hqs htags
    | some u =>
      rw [hu] at hsome
      obtain ⟨u', hu'⟩ := Option.isSome_iff_exists.1 hsome
      simp only [hu, hu'] at htags
      rw [List.forall_mem_cons]
      exact ⟨hfits u hu, ih hspelled hqs (List.forall₂_cons.1 htags).2⟩

/-- A text in which tags are written in ways that tell says the same, but for what it should, exactly
where all of the new tags fit. -/
theorem Document.saysBut_iff {html : List Char} {T : Track Piece} (hold : T.old = lex html)
    (hT : ∀ o q, (o, q) ∈ T.place 0 0 → ∃ p, o = some p ∧ Piece.Told Edited Q Fits p q.item) :
    (parse html).SaysBut (Tag.KeptBut Edited Q) (parse (T.new.flatMap Piece.source))
      ↔ ∀ u ∈ (parse html).tags, Edited u → Fits u := by
  have hpieces : (parse html).pieces = (T.place 0 0).old := by
    rw [Track.old_place, hold]
    rfl
  have htold : List.Forall₂
      (fun p q => p ∈ (parse html).pieces ∧ Piece.Told Edited Q Fits p (Located.item q))
      (parse html).pieces (locate Piece.source 0 T.new) := by
    rw [hpieces, ← Track.new_place 0 0]
    refine Track.forall₂_of_matched fun o q hq => ?_
    obtain ⟨p, rfl, h⟩ := hT o q hq
    exact ⟨p, rfl, Track.mem_old.2 ⟨q, hq⟩, h⟩
  have htags : (parse html).tags = (parse html).pieces.filterMap Piece.tag? :=
    (sound_parse html).tags_eq
  constructor
  · intro h
    have hps : List.Forall₂ (Piece.Told Edited Q Fits) (locate Piece.source 0 (lex html)) T.new := by
      rw [← map_item_locate Piece.source 0 T.new, List.forall₂_map_right_iff]
      exact htold.imp fun _ _ => And.right
    have hforall := h.tags
    rw [htags, (sound_parse _).tags_eq] at hforall
    rw [htags]
    exact fits_of_tags (spelled_lex html) hps hforall
  · intro hfits
    have hfit : ∀ p ∈ (parse html).pieces, ∀ u, Piece.tag? p = some u → Edited u → Fits u :=
      fun p hp u hu => hfits u (htags ▸ List.mem_filterMap.2 ⟨p, hp, hu⟩)
    have hrespelled : List.Forall₂ Piece.Respelled (lex html) T.new := by
      rw [← map_item_locate Piece.source 0 (lex html), ← map_item_locate Piece.source 0 T.new,
        List.forall₂_map_left_iff, List.forall₂_map_right_iff]
      exact htold.imp fun p q ⟨hp, h⟩ => h.respelled (hfit p hp)
    have hnew : (parse (T.new.flatMap Piece.source)).pieces = locate Piece.source 0 T.new := by
      rw [parse, ((spelled_lex html).respell hrespelled).lex_eq]
    refine saysBut_of_pieces (sound_parse _) (sound_parse _) ?_
    rw [hnew]
    exact htold.imp fun p q ⟨hp, h⟩ => h.saysBut (hfit p hp) q.start

/-! ## Several tags -/

/-- Where each edit of a tag tells, the pieces do. -/
theorem Repair.EditsTags.told {html : List Char} {edit? : Tag → Option Edit}
    {R : OpenTag → OpenTag → Prop} {T : Track Piece} (hT : EditsTags html edit? R T)
    (hkept : ∀ u ∈ (Document.parse html).tags, edit? u = none → ¬Edited u)
    (hedited : ∀ t t' start, t.place start ∈ (Document.parse html).tags →
      (edit? (t.place start)).isSome → t.Complete → R t t' →
      Edited (t.place start) ∧ t'.Tells t (Q (t.place start)) (Fits (t.place start)))
    {o : Option (Located Piece)} {q : Located Piece} (hq : (o, q) ∈ T.place 0 0) :
    ∃ p, o = some p ∧ Piece.Told Edited Q Fits p q.item := by
  obtain ⟨⟨start, item⟩, rfl, hpiece⟩ := hT.2 o q hq
  have hmem : ⟨start, item⟩ ∈ (Document.parse html).pieces := by
    have hold := Track.mem_old.2 ⟨q, hq⟩
    rwa [Track.old_place, hT.1] at hold
  have htags : ∀ u, Piece.tag? ⟨start, item⟩ = some u → u ∈ (Document.parse html).tags := by
    intro u hu
    rw [(Document.sound_parse html).tags_eq]
    exact List.mem_filterMap.2 ⟨_, hmem, hu⟩
  refine ⟨_, rfl, ?_⟩
  rcases hpiece with ⟨hsame, hnone⟩ | ⟨t, t', content, rfl, hnew, hedit, hR⟩
  · rw [hsame]
    exact .kept _ fun u hu => hkept u (htags u hu) (hnone u hu)
  · have hlex : .openTag t content ∈ lex html := by
      rw [← map_item_locate Piece.source 0 (lex html)]
      exact List.mem_map_of_mem hmem
    obtain ⟨A, B, hsplit⟩ := List.append_of_mem hlex
    obtain ⟨htag, htells⟩ := hedited t t' start (htags _ rfl) hedit
      (.of_lex hsplit) hR
    rw [hnew]
    exact .edited start content htag htells

end

/-! ## Single tags -/

/-- What a list that stays is placed from. -/
theorem Track.exists_of_mem_place_same {l : List Piece} {start start' : Nat}
    {o : Option (Located Piece)} {q : Located Piece} (h : (o, q) ∈ (same l).place start start') :
    ∃ p ∈ locate Piece.source start l, o = some p ∧ q.item = p.item := by
  obtain ⟨U, V, hsplit, -, -⟩ := mem_place h
  obtain ⟨-, -, -, -, ho⟩ := split_same hsplit
  obtain ⟨p, rfl, hitem⟩ := Option.map_eq_some_iff.1 ho
  have hold := mem_old.2 ⟨q, h⟩
  rw [old_place, old_same] at hold
  exact ⟨p, hold, rfl, hitem.symm⟩

section

variable {html content : List Char} {A B : List Piece} {t t' : OpenTag} {Edited : Tag → Prop}
  {Q : Tag → Tag → Prop} {Fits : Prop}

/-- Where one tag is written in a way that tells, all other pieces are the same and have other tags. -/
theorem told_tagTrack (hlex : lex html = A ++ .openTag t content :: B)
    (hedited : ∀ u, Edited u ↔ u = t.place (byteLength (A.flatMap Piece.source)))
    (h : t'.Tells t (Q (t.place (byteLength (A.flatMap Piece.source)))) Fits)
    {o : Option (Located Piece)} {q : Located Piece}
    (hq : (o, q) ∈ (tagTrack A t t' content B).place 0 0) :
    ∃ p, o = some p ∧ Piece.Told Edited Q (fun _ => Fits) p q.item := by
  have hpieces := Document.inOrder html
  rw [Document.parse, hlex, locate_append, locate, Nat.zero_add] at hpieces
  obtain ⟨hbefore, hbehind⟩ := hpieces.before_behind
  -- A tag begins where its piece does, so a piece that begins elsewhere has another tag.
  have hkept : ∀ p : Located Piece, p.start ≠ byteLength (A.flatMap Piece.source) →
      q.item = p.item → Piece.Told Edited Q (fun _ => Fits) p q.item := by
    intro p hstart hitem
    rw [hitem]
    refine .kept p fun u hu heq => hstart ?_
    rw [← (Piece.tag?_range hu).1, (hedited u).1 heq]
    rfl
  rw [tagTrack, Track.place_append, Track.old_same, Track.new_same, Nat.zero_add] at hq
  rcases List.mem_append.1 hq with hq | hq
  · obtain ⟨p, hp, rfl, hitem⟩ := Track.exists_of_mem_place_same hq
    refine ⟨p, rfl, hkept p ?_ hitem⟩
    have := hbefore p hp
    have := hpieces.start_lt_stop (List.mem_append_left _ hp)
    dsimp only at *
    omega
  rcases List.mem_cons.1 hq with hq | hq
  · cases hq
    exact ⟨_, rfl, .edited _ content ((hedited _).2 rfl) h⟩
  · obtain ⟨p, hp, rfl, hitem⟩ := Track.exists_of_mem_place_same hq
    refine ⟨p, rfl, hkept p ?_ hitem⟩
    have := hbehind p hp
    have := hpieces.start_lt_stop (List.mem_append_right _ List.mem_cons_self)
    dsimp only at *
    omega

/-- A text in which one tag is written in a way that tells is exact where the new tag fits. -/
theorem Document.saysBut_tag_iff (hlex : lex html = A ++ .openTag t content :: B)
    (hedited : ∀ u, Edited u ↔ u = t.place (byteLength (A.flatMap Piece.source)))
    (h : t'.Tells t (Q (t.place (byteLength (A.flatMap Piece.source)))) Fits) :
    (parse html).SaysBut (Tag.KeptBut Edited Q)
        (parse ((A ++ .openTag t' content :: B).flatMap Piece.source))
      ↔ Fits := by
  have hold : (tagTrack A t t' content B).old = lex html := by simp [tagTrack, hlex]
  have hnew : (tagTrack A t t' content B).new = A ++ .openTag t' content :: B := by simp [tagTrack]
  have hmem : t.place (byteLength (A.flatMap Piece.source)) ∈ (parse html).tags := by
    rw [(sound_parse html).tags_eq, parse, hlex, locate_append, locate, Nat.zero_add]
    exact List.mem_filterMap.2 ⟨_, List.mem_append_right _ List.mem_cons_self, rfl⟩
  rw [← hnew, saysBut_iff hold fun o q => told_tagTrack hlex hedited h]
  exact ⟨fun hfits => hfits _ hmem ((hedited _).2 rfl), fun hfits _ _ _ => hfits⟩

end

end MarkupGate
