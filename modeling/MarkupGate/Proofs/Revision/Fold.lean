import MarkupGate.Proofs.Page.Fold
import MarkupGate.Proofs.Revision.Element

/-!
# The fold of revised documents

A revision moves no image across the fold. The content before a tag is counted from the names of
tags and the texts between them, which a revision keeps; what it adds counts for nothing, and so does
the line break behind a document type.

* `pass_matched`, `pass_added`: what the pieces of a revision count for.
* `forall₂_belowFold`: the images below the fold correspond.
* `aboveFold_iff`: what lies above the fold stays there.
-/

namespace MarkupGate

/-! ## What lies in the scope -/

/-- The pieces of close tags and of most open tags have no text. -/
theorem Piece.text?_eq_none {p : Located Piece} {t : Tag} (ht : Piece.tag? p = some t)
    (h : t.isClose ∨ isTextOnlyName t.name = false) : Piece.text? p = none := by
  obtain ⟨start, item⟩ := p
  cases item with
  | openTag u content =>
    cases ht
    rcases h with h | h
    · cases h
    · simp only [OpenTag.place] at h
      simp [Piece.text?, OpenTag.opensTextOnly, h]
  | closeTag name trailing => rfl
  | _ => cases ht

namespace Document

variable {d : Document} {p : Located Piece}

theorem Sound.piece_of_tag (hd : d.Sound) {t : Tag} (ht : t ∈ d.tags) :
    ∃ q ∈ d.pieces, Piece.tag? q = some t := by
  rw [hd.tags_eq] at ht
  exact List.mem_filterMap.1 ht

/-- A text stands before or behind a tag where its piece does. -/
theorem Sound.text_around_tag (hd : d.Sound) (hp : p ∈ d.pieces) {r : TextRun}
    (hr : Piece.text? p = some r) {t : Tag} (ht : t ∈ d.tags)
    (htext : t.isClose ∨ isTextOnlyName t.name = false) :
    (t.start ≤ r.start ↔ t.start ≤ p.start) ∧ (r.start < t.stop ↔ p.start < t.stop) := by
  obtain ⟨q, hq, hqt⟩ := hd.piece_of_tag ht
  obtain ⟨hstart, hlt, hstop⟩ := Piece.tag?_range hqt
  obtain ⟨hle, hlt', hle', -⟩ := Piece.text?_range hr (hd.inOrder.source_ne_nil p hp)
  rcases hd.inOrder.eq_or_before hp hq with rfl | h | h
  · rw [Piece.text?_eq_none hqt htext] at hr
    cases hr
  · omega
  · omega

/-- The fold scope holds a text where it holds its piece. -/
theorem Sound.contains_foldScope_text (hd : d.Sound) (hp : p ∈ d.pieces) {r : TextRun}
    (hr : Piece.text? p = some r) : d.foldScope.contains r.start = d.foldScope.contains p.start := by
  obtain ⟨hle, hlt, hstop, -⟩ := Piece.text?_range hr (hd.inOrder.source_ne_nil p hp)
  have hsize := hd.inOrder.stop_le p hp
  simp only [foldScope, bodyRange?]
  cases hbody : d.firstOpen? "body" with
  | none =>
    simp only [Option.map_none, Option.getD_none, Span.contains, Nat.zero_le, decide_true,
      Bool.true_and]
    rw [decide_eq_true (by omega), decide_eq_true (by omega)]
  | some t =>
    have htags : t ∈ d.tags := List.mem_of_find?_eq_some hbody
    have hname : t.name = "body".toList := by
      have := List.find?_some hbody
      simp only [Bool.and_eq_true, decide_eq_true_eq] at this
      exact this.2
    obtain ⟨hge, hlt'⟩ := hd.text_around_tag hp hr htags (.inr (by rw [hname]; decide))
    simp only [Option.map_some, Option.getD_some, elementRange, rangeTo]
    split
    · simp [Span.contains, hge, hlt']
    · cases hc : d.closer? t with
      | none =>
        simp only [Span.contains, Option.map_none, Option.getD_none, hge]
        rw [decide_eq_true (p := r.start < d.size) (by omega),
          decide_eq_true (p := p.start < d.size) (by omega)]
      | some c =>
        have hcloser := hd.closer?_spec htags hc
        obtain ⟨-, hlt''⟩ := hd.text_around_tag hp hr hcloser.1 (.inl hcloser.2)
        simp [Span.contains, hge, hlt'']

/-- The pieces in front of all tags lie in the fold scope if the document has no body. -/
theorem Sound.foldScope_lead (hd : d.Sound) {lead rest : List (Located Piece)}
    (hpieces : d.pieces = lead ++ rest) (hlead : ∀ p ∈ lead, Piece.tag? p = none) (hp : p ∈ lead)
    {r : TextRun} (hr : Piece.text? p = some r) :
    d.foldScope.contains r.start = (d.firstOpen? "body").isNone := by
  have hmem : p ∈ d.pieces := by simp [hpieces, hp]
  obtain ⟨hle, hlt, hstop, -⟩ := Piece.text?_range hr (hd.inOrder.source_ne_nil p hmem)
  have hsize := hd.inOrder.stop_le p hmem
  simp only [foldScope, bodyRange?]
  cases hbody : d.firstOpen? "body" with
  | none =>
    simp only [Option.map_none, Option.getD_none, Span.contains, Nat.zero_le, decide_true,
      Bool.true_and, Option.isNone_none, decide_eq_true_eq]
    omega
  | some t =>
    -- The body begins at a later piece.
    obtain ⟨q, hq, hqt⟩ := hd.piece_of_tag (List.mem_of_find?_eq_some hbody)
    have hbehind : p.stop ≤ q.start := by
      rw [hpieces] at hq
      rcases List.mem_append.1 hq with hq | hq
      · rw [hlead q hq] at hqt
        cases hqt
      · exact (List.pairwise_append.1 (hpieces ▸ hd.inOrder.pairwise)).2.2 p hp q hq
    have hstart := (Piece.tag?_range hqt).1
    have hscope : (d.elementRange t).start = t.start := by
      simp only [elementRange, rangeTo]
      split <;> rfl
    simp only [Option.map_some, Option.getD_some, Span.contains, hscope, Option.isNone_some,
      Bool.and_eq_false_iff, decide_eq_false_iff_not]
    omega

end Document

/-! ## Going past pieces -/

/-- The images below the fold, however they load. -/
def FoldPolicy.belowFold (f : FoldPolicy) (d : Document) : List Tag :=
  (d.tagsRead.filter fun (t, before) => t.isOpen && t.name = "img".toList
    && !f.protects d.foldScope d.contentTotal t before).map Prod.fst

/-- The images that should load lazily are those below the fold that do not say how they load. -/
theorem FoldPolicy.deferrable_eq (f : FoldPolicy) (d : Document) :
    f.deferrable d = (f.belowFold d).filter fun t => !t.hasAttr "loading" := by
  rw [deferrable, belowFold, List.filter_map, List.filter_filter, ← List.filterMap_eq_map,
    List.filterMap_filter]
  refine List.filterMap_congr fun x _ => ?_
  obtain ⟨t, before⟩ := x
  cases hopen : t.isOpen <;> cases hname : decide (t.name = "img".toList) <;>
    cases hload : t.hasAttr "loading" <;> simp [hopen, hload]

/-- Behind pieces without tags, only the content is more. -/
theorem foldl_pass_eq {scope : Span} {ps : List (Located Piece)} {b : Bool}
    (htag : ∀ p ∈ ps, Piece.tag? p = none)
    (hscope : ∀ p ∈ ps, ∀ r, Piece.text? p = some r → scope.contains r.start = b)
    (st : ReadingState) :
    ps.foldl (fun st p => st.pass scope p) st
      = { st with units := st.units + if b then solidUnits ps else 0 } := by
  induction ps generalizing st with
  | nil => simp [solidUnits]
  | cons p ps ih =>
    rw [List.foldl_cons, ih (fun q hq => htag q (List.mem_cons_of_mem _ hq))
      (fun q hq => hscope q (List.mem_cons_of_mem _ hq))]
    simp only [ReadingState.pass, htag p (by simp), Option.elim_none, solidUnits, List.map_cons,
      List.sum_cons]
    cases hr : Piece.text? p with
    | none => simp
    | some r =>
      have := hscope p (by simp) r hr
      cases b <;> simp [ReadingState.passText, textUnits, this, Nat.add_assoc]

theorem readTags_append {scope : Span} {ps : List (Located Piece)}
    (htag : ∀ p ∈ ps, Piece.tag? p = none) (st : ReadingState) (qs : List (Located Piece)) :
    readTags scope st (ps ++ qs)
      = readTags scope (ps.foldl (fun st p => st.pass scope p) st) qs := by
  induction ps generalizing st with
  | nil => rfl
  | cons p ps ih =>
    simp only [List.cons_append, readTags, htag p (by simp), List.foldl_cons]
    exact ih (fun q hq => htag q (List.mem_cons_of_mem _ hq)) _

namespace Document.Revision

variable {kind : FixKind} {g g' : Nat → Nat} {d d' : Document} {p p' : Located Piece} {t t' : Tag}

/-- The body lies in front of nothing that a repair adds. -/
theorem firstOpen?_body (rev : d.Revision kind g g' d') :
    Option.Rel (fun t t' => (some t, t') ∈ rev.tags) (d.firstOpen? "body") (d'.firstOpen? "body") :=
  rev.firstOpen? "body" fun t' h _ => rev.ne_of_added _ (by decide) t' h

theorem contains_foldScope (rev : d.Revision kind g g' d') (hp : (some p, p') ∈ rev.track) :
    d'.foldScope.contains p'.start = d.foldScope.contains p.start := by
  have hbody := rev.firstOpen?_body
  have hname := fun t (h : d.firstOpen? "body" = some t) => List.find?_some h
  simp only [Document.foldScope, Document.bodyRange?]
  revert hbody hname
  generalize d.firstOpen? "body" = o
  generalize d'.firstOpen? "body" = o'
  rintro (h | _) hname
  · rename_i t t'
    refine rev.contains_rangeTo h hp (rev.closer? h ?_)
    have := hname t rfl
    simp only [Bool.and_eq_true, decide_eq_true_eq] at this
    rw [this.2]
    exact rev.ne_of_added _ (by decide)
  · have hd := rev.sound.inOrder
    have hd' := rev.sound'.inOrder
    have := hd.start_lt_stop (rev.mem_pieces hp).1
    have := hd.stop_le p (rev.mem_pieces hp).1
    have := hd'.start_lt_stop (rev.mem_pieces hp).2
    have := hd'.stop_le p' (rev.mem_pieces hp).2
    simp only [Option.map_none, Option.getD_none, Span.contains, Nat.zero_le, decide_true,
      Bool.true_and]
    rw [decide_eq_true (by omega), decide_eq_true (by omega)]

/-- A piece counts for what its counterpart counts for. -/
theorem pass_matched (rev : d.Revision kind g g' d') (hp : (some p, p') ∈ rev.track)
    (st : ReadingState) : st.pass d'.foldScope p' = st.pass d.foldScope p := by
  have hitem := (rev.matched p p' hp).item
  have hscope := rev.contains_foldScope hp
  have htag : (Piece.tag? p').elim st (st.passTag d'.foldScope)
      = (Piece.tag? p).elim st (st.passTag d.foldScope) := by
    have halike := hitem.tag?
    have hstart := fun t (h : Piece.tag? p = some t) => (Piece.tag?_range h).1
    have hstart' := fun t (h : Piece.tag? p' = some t) => (Piece.tag?_range h).1
    revert halike hstart hstart'
    generalize Piece.tag? p = o
    generalize Piece.tag? p' = o'
    rintro (h | _) hstart hstart'
    · simp only [Option.elim_some, ReadingState.passTag, tagUnits, h.name, h.isOpen, h.depthBehind,
        hstart _ rfl, hstart' _ rfl, hscope]
    · rfl
  have htext : ∀ st : ReadingState, (Piece.text? p').elim st (st.passText d'.foldScope)
      = (Piece.text? p).elim st (st.passText d.foldScope) := by
    intro st
    have hsame := hitem.text?
    have hin := fun r h => rev.sound.contains_foldScope_text (rev.mem_pieces hp).1 (r := r) h
    have hin' := fun r h => rev.sound'.contains_foldScope_text (rev.mem_pieces hp).2 (r := r) h
    cases hr : Piece.text? p with
    | none =>
      have : Piece.text? p' = none := by simpa [hr] using hsame
      simp [this]
    | some r =>
      obtain ⟨r', hr', htext⟩ : ∃ r', Piece.text? p' = some r' ∧ r'.text = r.text := by
        simpa [hr] using hsame
      simp [hr', ReadingState.passText, textUnits, htext, hin r hr, hin' r' hr', hscope]
  simp only [ReadingState.pass, htag, htext]

/-- What a repair adds counts for nothing. -/
theorem pass_added (rev : d.Revision kind g g' d') (h : (none, p') ∈ rev.track)
    (st : ReadingState) (scope : Span) : st.pass scope p' = st := by
  rw [ReadingState.pass, (rev.text?_of_added h).1, Option.elim_none]
  cases ht : Piece.tag? p' with
  | none => rfl
  | some t =>
    have hmem := Track.mem_pick.2 ⟨none, p', h, ht, rfl⟩
    have himg := rev.ne_of_added "img".toList (by decide) t hmem
    have hheader := rev.ne_of_added "header".toList (by decide) t hmem
    have hname : insertedNames.contains t.name := by
      have := rev.isHeadName_of_added hmem
      simp only [isHeadName, Bool.or_eq_true, decide_eq_true_eq] at this
      rcases this with h | h <;> rw [h] <;> decide
    simp only [Option.elim_some, ReadingState.passTag, tagUnits, hname, Tag.depthBehind]
    rw [if_pos hheader, decide_eq_false himg]
    simp

/-- The content before the pieces of a revision is the same. -/
theorem foldl_pass_lead (rev : d.Revision kind g g' d') (st : ReadingState) :
    rev.lead'.foldl (fun st p => st.pass d'.foldScope p) st
      = rev.lead.foldl (fun st p => st.pass d.foldScope p) st := by
  have htag : ∀ p ∈ rev.lead, Piece.tag? p = none := fun p hp => rev.lead_tag p (by simp [hp])
  have htag' : ∀ p ∈ rev.lead', Piece.tag? p = none := fun p hp => rev.lead_tag p (by simp [hp])
  have hbody : (d'.firstOpen? "body").isNone = (d.firstOpen? "body").isNone := by
    have := rev.firstOpen?_body
    revert this
    generalize d.firstOpen? "body" = o
    generalize d'.firstOpen? "body" = o'
    rintro (_ | _) <;> rfl
  rw [foldl_pass_eq htag fun p hp r hr => rev.sound.foldScope_lead rev.pieces htag hp hr,
    foldl_pass_eq htag' fun p hp r hr => rev.sound'.foldScope_lead rev.pieces' htag' hp hr, hbody,
    rev.lead_units]

/-- The tags that pass a test which agrees on corresponding tags correspond. -/
theorem forall₂_readTags (rev : d.Revision kind g g' d') {T : Track (Located Piece)}
    (hT : ∀ x ∈ T, x ∈ rev.track) {c c' : Tag × ReadingState → Bool}
    (hc : ∀ t t', (some t, t') ∈ rev.tags → ∀ st, c' (t', st) = c (t, st))
    (hc' : ∀ t', (none, t') ∈ rev.tags → ∀ st, c' (t', st) = false) (st : ReadingState) :
    List.Forall₂ (fun t t' => (some t, t') ∈ rev.tags)
      (((readTags d.foldScope st T.old).filter c).map Prod.fst)
      (((readTags d'.foldScope st T.new).filter c').map Prod.fst) := by
  induction T generalizing st with
  | nil => exact .nil
  | cons x T ih =>
    have ih := ih fun x hx => hT x (List.mem_cons_of_mem _ hx)
    obtain ⟨o, p'⟩ := x
    have hx := hT (o, p') (by simp)
    cases o with
    | none =>
      simp only [Track.old_cons_none, Track.new_cons, readTags, rev.pass_added hx]
      cases ht : Piece.tag? p' with
      | none => exact ih st
      | some t' =>
        have := hc' t' (Track.mem_pick.2 ⟨none, p', hx, ht, rfl⟩) st
        simpa [this] using ih st
    | some p =>
      have hopens := (rev.matched p p' hx).item.opens
      simp only [Track.old_cons_some, Track.new_cons, readTags, rev.pass_matched hx]
      cases ht : Piece.tag? p with
      | none =>
        have : Piece.tag? p' = none := by simpa [ht] using hopens
        simpa [this] using ih _
      | some t =>
        obtain ⟨t', ht'⟩ : ∃ t', Piece.tag? p' = some t' := Option.isSome_iff_exists.1 (by
          simpa [ht] using hopens)
        have hmem := rev.mem_tags.2 ⟨p, p', hx, ht, ht'⟩
        have hsame := hc t t' hmem st
        by_cases hct : c (t, st)
        · simpa [ht', hsame, hct, hmem] using ih _
        · simpa [ht', hsame, hct] using ih _

/-- Whatever part of a revision is come past, the same has been counted on both sides. -/
theorem foldl_pass_track (rev : d.Revision kind g g' d') {T : Track (Located Piece)}
    (hT : ∀ x ∈ T, x ∈ rev.track) (st : ReadingState) :
    (rev.lead' ++ T.new).foldl (fun st p => st.pass d'.foldScope p) st
      = (rev.lead ++ T.old).foldl (fun st p => st.pass d.foldScope p) st := by
  rw [List.foldl_append, List.foldl_append, rev.foldl_pass_lead]
  generalize rev.lead.foldl _ st = st
  induction T generalizing st with
  | nil => rfl
  | cons x T ih =>
    have ih := ih fun x hx => hT x (List.mem_cons_of_mem _ hx)
    obtain ⟨o, p'⟩ := x
    have hx := hT (o, p') (by simp)
    cases o with
    | none => simp [rev.pass_added hx, ih]
    | some p => simp [rev.pass_matched hx, ih]

theorem contentTotal (rev : d.Revision kind g g' d') : d'.contentTotal = d.contentTotal := by
  simp only [Document.contentTotal]
  rw [rev.pieces, rev.pieces', rev.foldl_pass_track fun _ h => h]

/-- With the same behind it, a tag is judged as its counterpart is. -/
theorem protects_matched (rev : d.Revision kind g g' d') (f : FoldPolicy)
    (h : (some t, t') ∈ rev.tags) (st : ReadingState) :
    f.protects d'.foldScope d'.contentTotal t' st = f.protects d.foldScope d.contentTotal t st := by
  have halike := rev.alike h
  obtain ⟨p, p', hp, ht, ht'⟩ := rev.mem_tags.1 h
  have hwords : keywordAttributes.filterMap t'.value? = keywordAttributes.filterMap t.value? := by
    refine List.filterMap_congr fun name hname => halike.value? (kind.not_mem_writes name ?_)
    revert hname
    revert name
    decide
  simp only [FoldPolicy.protects, hwords, rev.contentTotal, (Piece.tag?_range ht).1,
    (Piece.tag?_range ht').1, rev.contains_foldScope hp]

/-- The images below the fold correspond. -/
theorem forall₂_belowFold (rev : d.Revision kind g g' d') (f : FoldPolicy) :
    List.Forall₂ (fun t t' => (some t, t') ∈ rev.tags) (f.belowFold d) (f.belowFold d') := by
  have htag : ∀ p ∈ rev.lead, Piece.tag? p = none := fun p hp => rev.lead_tag p (by simp [hp])
  have htag' : ∀ p ∈ rev.lead', Piece.tag? p = none := fun p hp => rev.lead_tag p (by simp [hp])
  simp only [FoldPolicy.belowFold, Document.tagsRead]
  rw [rev.pieces, rev.pieces', readTags_append htag, readTags_append htag', rev.foldl_pass_lead]
  refine rev.forall₂_readTags (fun _ h => h) (fun t t' h st => ?_) (fun t' h st => ?_) _
  · have halike := rev.alike h
    simp only [halike.isOpen, halike.name, rev.protects_matched f h]
  · have himg := rev.ne_of_added "img".toList (by decide) t' h
    rw [decide_eq_false himg, Bool.and_false, Bool.false_and]

/-- Corresponding tags have the same behind them. -/
theorem exists_tagsRead (rev : d.Revision kind g g' d') (h : (some t, t') ∈ rev.tags) :
    ∃ st, (t, st) ∈ d.tagsRead ∧ (t', st) ∈ d'.tagsRead := by
  obtain ⟨p, p', hp, ht, ht'⟩ := rev.mem_tags.1 h
  obtain ⟨T, U, htrack, hpieces, hpieces'⟩ := rev.split hp
  refine ⟨_, mem_readTags.2 ⟨_, p, _, hpieces, ht, rfl⟩, mem_readTags.2 ⟨_, p', _, hpieces', ht', ?_⟩⟩
  exact (rev.foldl_pass_track (fun x hx => by simp [htrack, hx]) ReadingState.top).symm

/-- Positions are compared with the same total. -/
theorem comparesLike (rev : d.Revision kind g g' d') {f : FoldPolicy} {early : Nat → Nat → Prop}
    (h : f.ComparesLike early (d.contentBefore d.size)) :
    f.ComparesLike early (d'.contentBefore d'.size) := by
  rwa [← rev.sound'.contentTotal_eq, rev.contentTotal, rev.sound.contentTotal_eq]

/-- A tag lies above the fold where its counterpart does. -/
theorem aboveFold_iff (rev : d.Revision kind g g' d') {f : FoldPolicy} {early : Nat → Nat → Prop}
    (hearly : f.ComparesLike early (d.contentBefore d.size)) (h : (some t, t') ∈ rev.tags) :
    d'.AboveFold f early t' ↔ d.AboveFold f early t := by
  obtain ⟨st, hread, hread'⟩ := rev.exists_tagsRead h
  rw [← FoldPolicy.protects_iff rev.sound' (rev.comparesLike hearly) hread',
    ← FoldPolicy.protects_iff rev.sound hearly hread, rev.protects_matched f h]

end Document.Revision

end MarkupGate
