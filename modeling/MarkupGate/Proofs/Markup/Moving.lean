import MarkupGate.Proofs.Markup.Joining

/-!
# Moving places

When part of a text gets longer or shorter, what stands behind it is read at other places. A function
of offsets says where everything goes. Pieces that are read alike at both places have the same
tokens, with their offsets moved.

* `Tokens.move`: an inventory with all its offsets moved.
* `Piece.Moves`: what is asked of a piece and the piece that is read in its place.
* `Tokens.ofLocated_of_moves`: the inventories of such pieces.
* `tokenize_of_tag`: the inventory of a text in which one open tag is written differently.
-/

namespace MarkupGate

/-! ## Moved tokens -/

/-- The range between two offsets that are moved. -/
def Span.move (g : Nat → Nat) (r : Span) : Span := ⟨g r.start, g r.stop⟩

/-- The attribute with its offsets moved. -/
def Attr.move (g : Nat → Nat) (a : Attr) : Attr :=
  { a with
    nameEnd := g a.nameEnd
    value := a.value.map fun v => { v with start := g v.start } }

/-- The tag with its offsets moved. -/
def Tag.move (g : Nat → Nat) (t : Tag) : Tag :=
  { t with
    start := g t.start
    stop := g t.stop
    nameEnd := g t.nameEnd
    attrs := t.attrs.map (Attr.move g) }

/-- The run of text moved to another place. -/
def TextRun.move (g : Nat → Nat) (r : TextRun) : TextRun := { r with start := g r.start }

/-- The body of code moved to another place. -/
def RawBlock.move (g : Nat → Nat) (b : RawBlock) : RawBlock := { b with start := g b.start }

/-- The inventory with all offsets moved. -/
def Tokens.move (g : Nat → Nat) (u : Tokens) : Tokens where
  doctype := u.doctype.map (Span.move g)
  tags := u.tags.map (Tag.move g)
  text := u.text.map (TextRun.move g)
  raw := u.raw.map (RawBlock.move g)

/-! ## Pieces at other places -/

/-- Whether all offsets of a stretch are moved by as much as its first one. -/
def Carries (g : Nat → Nat) (start start' length : Nat) : Prop :=
  ∀ i ≤ length, g (start + i) = start' + i

variable {g : Nat → Nat} {start start' : Nat}

/-- An attribute begins with its name, so only the offsets behind the first one matter. -/
theorem filterMap_attr?_move {parts : List TagPart}
    (hnames : ∀ w, .attr w ∈ parts → w.name ≠ [])
    (h : ∀ i, 0 < i → i ≤ byteLength (parts.flatMap TagPart.source) → g (start + i) = start' + i) :
    (locate TagPart.source start' parts).filterMap TagPart.attr?
      = ((locate TagPart.source start parts).filterMap TagPart.attr?).map (Attr.move g) := by
  induction parts generalizing start start' with
  | nil => rfl
  | cons p parts ih =>
    simp only [List.flatMap_cons, byteLength_append] at h
    have hrest : (locate TagPart.source (start' + byteLength p.source) parts).filterMap TagPart.attr?
        = ((locate TagPart.source (start + byteLength p.source) parts).filterMap
          TagPart.attr?).map (Attr.move g) := by
      refine ih (fun w hw => hnames w (by simp [hw])) fun i hpos hle => ?_
      rw [Nat.add_assoc, Nat.add_assoc]
      exact h _ (by omega) (by omega)
    cases p with
    | filler text => exact hrest
    | attr w =>
      have hname : 0 < byteLength w.name := byteLength_pos (hnames w (by simp))
      have hplace : w.place start' = (w.place start).move g := by
        cases hv : w.value with
        | none =>
          simp only [TagPart.source, WrittenAttr.source, hv, byteLength_append] at h
          simp [WrittenAttr.place, Attr.move, hv, h _ hname (by omega)]
        | some v =>
          simp only [TagPart.source, WrittenAttr.source, hv, byteLength_append, Option.map_some,
            Option.getD_some, WrittenValue.source] at h
          have hlead := h (byteLength w.name + byteLength v.lead) (by omega) (by omega)
          simp [WrittenAttr.place, Attr.move, hv, h _ hname (by omega), Nat.add_assoc, hlead]
      simp [locate, TagPart.attr?, hplace, hrest]

/-- The attributes of a tag that ends have names. -/
theorem OpenTag.Complete.name_ne_nil {t : OpenTag} (h : t.Complete) {w : WrittenAttr}
    (hw : .attr w ∈ t.parts) : w.name ≠ [] := by
  obtain ⟨ps, qs, hparts⟩ := List.append_of_mem hw
  obtain ⟨⟨c, cs, hname, -⟩, -⟩ := PartsRead.attr (hparts ▸ h.parts)
  simp [hname]

theorem OpenTag.place_move {t : OpenTag} (ht : t.Complete)
    (h : Carries g start start' (byteLength t.source)) : t.place start' = (t.place start).move g := by
  have hlength : byteLength t.source = 1 + byteLength t.name
      + byteLength (t.parts.flatMap TagPart.source) + byteLength t.ending := by
    have hbracket : '<'.utf8Size = 1 := rfl
    simp only [source, List.cons_append, byteLength_cons, byteLength_append, hbracket]
    omega
  have hattrs : (locate TagPart.source (start' + 1 + byteLength t.name) t.parts).filterMap
        TagPart.attr?
      = ((locate TagPart.source (start + 1 + byteLength t.name) t.parts).filterMap
        TagPart.attr?).map (Attr.move g) := by
    refine filterMap_attr?_move (fun w hw => ht.name_ne_nil hw) fun i _ hle => ?_
    have := h (1 + byteLength t.name + i) (by omega)
    simpa only [Nat.add_assoc] using this
  have hstart := h 0 (Nat.zero_le _)
  have hstop := h _ (Nat.le_refl _)
  have hnameEnd := h (1 + byteLength t.name) (by omega)
  simp only [Nat.add_zero, ← Nat.add_assoc] at hstart hnameEnd
  simp only [place, Tag.move, hattrs, hstart, hstop, hnameEnd]

/-- What is asked of a piece and the piece that is read in its place: where the one goes, the other
stands, and its tag is what becomes of the tag. -/
structure Piece.Moves (g : Nat → Nat) (f : Tag → Tag) (p p' : Located Piece) : Prop where
  isDoctype : p'.item.isDoctype = p.item.isDoctype
  span : p.item.isDoctype →
    Span.ofText p'.start p'.item.source = (Span.ofText p.start p.item.source).move g
  tag? : Piece.tag? p' = (Piece.tag? p).map f
  text? : Piece.text? p' = (Piece.text? p).map (TextRun.move g)
  raw? : ∀ i, Piece.raw? p' i = (Piece.raw? p i).map (RawBlock.move g)

variable {f : Tag → Tag}

/-- A piece that is read again at another place. -/
theorem Piece.moves_same {item : Piece} (hcomplete : ∀ t content, item = .openTag t content → t.Complete)
    (h : Carries g start start' (byteLength item.source))
    (hf : ∀ t, Piece.tag? ⟨start, item⟩ = some t → f t = t.move g) :
    Piece.Moves g f ⟨start, item⟩ ⟨start', item⟩ := by
  have hstart : g start = start' := h 0 (Nat.zero_le _)
  have hstop : g (start + byteLength item.source) = start' + byteLength item.source :=
    h _ (Nat.le_refl _)
  have htag : tag? ⟨start', item⟩ = (tag? ⟨start, item⟩).map (Tag.move g) := by
    cases item with
    | openTag t content =>
      refine congrArg some (OpenTag.place_move (hcomplete t content rfl) fun i hle => h i ?_)
      simp only [source, byteLength_append]
      omega
    | closeTag name trailing =>
      have hnameEnd := h (2 + byteLength name) (by
        have hbracket : '<'.utf8Size = 1 := rfl
        have hslash : '/'.utf8Size = 1 := rfl
        simp only [source, List.cons_append, byteLength_cons, byteLength_append, hbracket, hslash]
        omega)
      simp only [← Nat.add_assoc] at hnameEnd
      simp [tag?, Tag.move, hstart, hstop, hnameEnd]
    | _ => rfl
  have hcontent (t : OpenTag) (content : List Char) (hitem : item = .openTag t content) :
      g (start + byteLength t.source) = start' + byteLength t.source :=
    h _ (by simp [hitem, source])
  refine ⟨rfl, fun _ => ?_, ?_, ?_, fun i => ?_⟩
  · simp only [Span.ofText, Span.move, hstart, hstop]
  · rw [htag]
    exact Option.map_congr fun t ht => (hf t ht).symm
  · cases item with
    | text content => simp [text?, TextRun.move, hstart]
    | openTag t content =>
      by_cases hopens : t.opensTextOnly && !content.isEmpty <;>
        simp [text?, TextRun.move, hopens, hcontent t content rfl]
    | _ => rfl
  · cases item with
    | openTag t content =>
      by_cases hopens : t.opensRaw <;> simp [raw?, RawBlock.move, hopens, hcontent t content rfl]
    | _ => rfl

/-- An open tag that is written differently. -/
theorem Piece.moves_tag {t t' : OpenTag} (ht : t'.Respells t) (content : List Char)
    (hcontent : g (start + byteLength t.source) = start' + byteLength t'.source)
    (hf : f (t.place start) = t'.place start') :
    Piece.Moves g f ⟨start, .openTag t content⟩ ⟨start', .openTag t' content⟩ := by
  have htext : t'.opensTextOnly = t.opensTextOnly := by
    rw [OpenTag.opensTextOnly, ht.name, ht.selfClosing, OpenTag.opensTextOnly]
  have hraw : t'.opensRaw = t.opensRaw := by
    rw [OpenTag.opensRaw, ht.name, ht.selfClosing, OpenTag.opensRaw]
  refine ⟨rfl, by simp [isDoctype], congrArg some hf.symm, ?_, fun i => ?_⟩
  · by_cases hopens : t.opensTextOnly && !content.isEmpty <;>
      simp [text?, TextRun.move, htext, hopens, hcontent]
  · by_cases hopens : t.opensRaw <;> simp [raw?, RawBlock.move, hraw, hopens, hcontent]

/-! ## The inventory of moved pieces -/

theorem Tokens.rawFrom_of_moves {ps ps' : List (Located Piece)}
    (h : List.Forall₂ (Piece.Moves g f) ps ps') (i : Nat) :
    rawFrom i ps' = (rawFrom i ps).map (RawBlock.move g) := by
  induction h generalizing i with
  | nil => rfl
  | @cons p p' ps ps' hp _ ih =>
    have htag := hp.tag?
    cases ht : Piece.tag? p with
    | none =>
      rw [ht, Option.map_none] at htag
      simpa [rawFrom, ht, htag] using ih i
    | some t =>
      rw [ht, Option.map_some] at htag
      have hrest := ih (i + 1)
      simp only [rawFrom] at hrest
      cases hr : Piece.raw? p i <;> simp [rawFrom, ht, htag, hp.raw?, hr, hrest]

/-- Pieces that are moved have the tokens moved, but for what becomes of their tags. -/
theorem Tokens.ofLocated_of_moves {ps ps' : List (Located Piece)}
    (h : List.Forall₂ (Piece.Moves g f) ps ps') :
    ofLocated ps' = { (ofLocated ps).move g with tags := (ofLocated ps).tags.map f } := by
  have hraw : rawFrom 0 ps' = (rawFrom 0 ps).map (RawBlock.move g) := rawFrom_of_moves h 0
  have hdoctype : (ps'.find? fun p => p.item.isDoctype).map
        (fun p => Span.ofText p.start p.item.source)
      = ((ps.find? fun p => p.item.isDoctype).map
        fun p => Span.ofText p.start p.item.source).map (Span.move g) := by
    clear hraw
    induction h with
    | nil => rfl
    | @cons p p' ps ps' hp _ ih =>
      by_cases hd : p.item.isDoctype
      · simp [hp.isDoctype, hd, hp.span hd]
      · simpa [hp.isDoctype, hd] using ih
  have htags : ps'.filterMap Piece.tag? = (ps.filterMap Piece.tag?).map f := by
    clear hraw hdoctype
    induction h with
    | nil => rfl
    | @cons p p' ps ps' hp _ ih => cases ht : Piece.tag? p <;> simp [hp.tag?, ht, ih]
  have htext : ps'.filterMap Piece.text? = (ps.filterMap Piece.text?).map (TextRun.move g) := by
    clear hraw hdoctype htags
    induction h with
    | nil => rfl
    | @cons p p' ps ps' hp _ ih => cases ht : Piece.text? p <;> simp [hp.text?, ht, ih]
  rw [ofLocated, htags, htext, hdoctype]
  exact congrArg (fun raw => Tokens.mk _ _ _ raw) hraw

/-- Pieces of a text that are read again at other places. -/
theorem Piece.forall₂_moves_same {ps : List Piece}
    (hps : ∀ t content, .openTag t content ∈ ps → t.Complete)
    (h : Carries g start start' (byteLength (ps.flatMap Piece.source)))
    (hf : ∀ p ∈ locate Piece.source start ps, ∀ t, Piece.tag? p = some t → f t = t.move g) :
    List.Forall₂ (Piece.Moves g f) (locate Piece.source start ps)
      (locate Piece.source start' ps) := by
  induction ps generalizing start start' with
  | nil => exact .nil
  | cons p ps ih =>
    rw [List.flatMap_cons, byteLength_append] at h
    refine .cons (moves_same (fun t content hp => hps t content (by simp [hp]))
      (fun i hle => h i (by omega)) (hf _ List.mem_cons_self)) ?_
    refine ih (fun t content ht => hps t content (List.mem_cons_of_mem _ ht)) (fun i hle => ?_)
      fun q hq => hf q (List.mem_cons_of_mem _ hq)
    rw [Nat.add_assoc, Nat.add_assoc]
    exact h _ (by omega)

/-! ## One tag written differently -/

/-- Where one open tag is written differently, everything in front of it stays in place and everything
behind it moves along with its end. -/
theorem tokenize_of_tag {source content : List Char} {A B : List Piece} {t t' : OpenTag}
    (hlex : lex source = A ++ .openTag t content :: B) (ht : t'.Respells t)
    (hfront : ∀ o ≤ byteLength (A.flatMap Piece.source), g o = o)
    (hbehind : ∀ i, g (byteLength (A.flatMap Piece.source) + byteLength t.source + i)
      = byteLength (A.flatMap Piece.source) + byteLength t'.source + i)
    (hf : f (t.place (byteLength (A.flatMap Piece.source)))
      = t'.place (byteLength (A.flatMap Piece.source)))
    (hother : ∀ u : Tag, u.start ≠ byteLength (A.flatMap Piece.source) → f u = u.move g) :
    tokenize ((A ++ .openTag t' content :: B).flatMap Piece.source)
      = { (tokenize source).move g with tags := (tokenize source).tags.map f } := by
  have hspelled := spelled_lex source
  rw [hlex] at hspelled
  have hsame (ps : List Piece) : List.Forall₂ Piece.Respelled ps ps :=
    List.forall₂_same.2 fun p _ => .same p
  have hnew : Spelled (A ++ .openTag t' content :: B) :=
    hspelled.respell (List.rel_append (hsame A) (.cons (.tag content ht) (hsame B)))
  have hcomplete (u : OpenTag) (code : List Char)
      (hu : .openTag u code ∈ A ++ .openTag t content :: B) : u.Complete := by
    obtain ⟨ps, qs, hsplit⟩ := List.append_of_mem hu
    exact .of_lex (hlex.trans hsplit)
  have horder := Document.inOrder source
  rw [Document.parse, hlex, locate_append, locate, Nat.zero_add] at horder
  obtain ⟨hbefore, hafter⟩ := horder.before_behind
  have hA : List.Forall₂ (Piece.Moves g f) (locate Piece.source 0 A) (locate Piece.source 0 A) := by
    refine Piece.forall₂_moves_same (fun u code hu => hcomplete u code (by simp [hu])) ?_ fun p hp u hu => hother u ?_
    · intro i hle
      rw [Nat.zero_add]
      exact hfront i hle
    · have := Piece.tag?_range hu
      have := hbefore p hp
      dsimp only at this
      omega
  have hB : List.Forall₂ (Piece.Moves g f)
      (locate Piece.source
        (byteLength (A.flatMap Piece.source) + byteLength (Piece.openTag t content).source) B)
      (locate Piece.source
        (byteLength (A.flatMap Piece.source) + byteLength (Piece.openTag t' content).source) B) := by
    refine Piece.forall₂_moves_same (fun u code hu => hcomplete u code (by simp [hu])) ?_ fun p hp u hu => hother u ?_
    · intro i _
      simpa [Piece.source, Nat.add_assoc] using hbehind (byteLength content + i)
    · have := Piece.tag?_range hu
      have := hafter p hp
      have := horder.start_lt_stop (List.mem_append_right _ List.mem_cons_self)
      dsimp only [Located.stop] at *
      omega
  have hmoves := List.rel_append hA (.cons (Piece.moves_tag ht content (hbehind 0) hf) hB)
  rw [tokenize, hnew.lex_eq, tokenize, hlex, locate_append, locate_append, Nat.zero_add]
  exact Tokens.ofLocated_of_moves hmoves

end MarkupGate
