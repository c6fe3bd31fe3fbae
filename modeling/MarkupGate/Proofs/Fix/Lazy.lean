import MarkupGate.Proofs.Fix.Applied
import MarkupGate.Proofs.Fix.Result

/-!
# What lazy loading does to a page

The images that are told to load lazily are those that do not say how they load and do not lie above
the fold, and nothing else is changed. What is put in is an attribute, and attributes count for nothing
where the fold is estimated: images above the fold stay there, byte for byte, however many others have
been changed, and once is enough.

* `Edit.withInsertions`: a text put in at some offsets, position by position.
* `Repair.length_lazyTrack`: how far the pieces behind edited images move.
* `Repair.EditsTags.exists_kept`: an image that is not edited is found again.
* `Repair.lazyLoadImages_exact`: all of it.
-/

namespace MarkupGate

/-! ## Insertions -/

namespace Edit

/-- A text with another one put in at some of its offsets. -/
def withInsertions (offsets : List Nat) (text source : List Char) : List Char :=
  weave (fun o => if o ∈ offsets then text else []) (fun _ => false) 0 source

theorem span_of_mem_insertions {offsets : List Nat} {text : List Char} {e : Edit}
    (h : e ∈ offsets.map fun n => insertion n text) : e.span.start = e.span.stop := by
  obtain ⟨n, -, rfl⟩ := List.mem_map.1 h
  rfl

/-- Insertions of a text at different offsets put it there once each. -/
theorem textsAt_insertions {offsets : List Nat} (h : offsets.Nodup) (text : List Char) (o : Nat) :
    textsAt (offsets.map fun n => insertion n text) o = if o ∈ offsets then text else [] := by
  have hreplaced : (offsets.map fun n => insertion n text).filter
      (fun e => e.span.start = o && o < e.span.stop) = [] := by
    refine List.filter_eq_nil_iff.2 fun e he => ?_
    have := span_of_mem_insertions he
    simp only [Bool.and_eq_true, decide_eq_true_eq]
    omega
  have hinserted : (offsets.map fun n => insertion n text).filter (fun e => e.span = ⟨o, o⟩)
      = List.replicate (if o ∈ offsets then 1 else 0) (insertion o text) := by
    have hspan : (fun e : Edit => decide (e.span = ⟨o, o⟩)) ∘ (fun n => insertion n text)
        = fun n => decide (n = o) := by
      funext n
      simp [insertion]
    rw [List.filter_map, hspan, List.filter_eq, h.count, List.map_replicate]
  rw [textsAt, hreplaced, hinserted]
  split <;> simp [insertion]

theorem written_insertions {offsets : List Nat} (h : offsets.Nodup) (text source : List Char) :
    written (offsets.map fun n => insertion n text) 0 source = withInsertions offsets text source := by
  have hcovers : covers (offsets.map fun n => insertion n text) = fun _ => false := by
    funext o
    refine List.any_eq_false.2 fun e he => ?_
    have := span_of_mem_insertions he
    simp only [Span.contains, Bool.and_eq_true, decide_eq_true_eq]
    omega
  rw [written, withInsertions, hcovers]
  congr 1
  funext o
  exact textsAt_insertions h text o

end Edit

/-- The names of different tags end at different offsets. -/
theorem nodup_nameEnds (html : List Char) :
    ((Document.parse html).tags.map Tag.nameEnd).Nodup := by
  have hd := Document.sound_parse html
  have hname : ∀ p ∈ (Document.parse html).pieces, ∀ t, Piece.tag? p = some t →
      p.start < t.nameEnd ∧ t.nameEnd < p.stop := by
    intro p hp t ht
    obtain ⟨before, behind, hsplit⟩ := List.append_of_mem hp
    obtain ⟨A, B, -, -, hstart, -⟩ := locate_split hsplit
    obtain ⟨start, item⟩ := p
    simp only [Nat.zero_add] at hstart
    subst hstart
    have hshape : t.WellShaped (A.flatMap Piece.source ++ (item.source ++ B.flatMap Piece.source)) :=
      (Piece.wellShaped_tag? ht).1
    have := hshape.start_lt
    have := hshape.lt_stop
    have := Piece.tag?_range ht
    omega
  rw [hd.tags_eq]
  refine List.pairwise_map.2 (List.pairwise_filterMap.2 ?_)
  refine hd.inOrder.pairwise.imp_of_mem fun {p q} hp hq hpq t ht u hu => ?_
  have := hname p hp t ht
  have := hname q hq u hu
  omega

/-- The attribute has fifteen bytes with the space in front of it. -/
theorem OpenTag.byteLength_loading (t : OpenTag) :
    byteLength (t.prepend "loading".toList "lazy".toList).source = byteLength t.source + 15 := by
  have hnew : byteLength (TagPart.attr (.quoted "loading".toList "lazy".toList)).source = 14 := by
    decide
  have hspace : byteLength (TagPart.filler [' ']).source = 1 := by decide
  simp only [source, ending_eq, prepend, List.flatMap_cons, List.cons_append, byteLength_cons,
    byteLength_append, hnew, hspace]
  omega

namespace Repair

variable {html : List Char} {fold : FoldPolicy} {images : List Tag} {T U : Track Piece}
  {edit? : Tag → Option Edit} {R : OpenTag → OpenTag → Prop} {t : Tag}

/-! ## Where images go -/

/-- A tag that is not edited is found again, behind what has become of the text in front of it. -/
theorem EditsTags.exists_kept (hT : EditsTags html edit? R T) (ht : t ∈ (Document.parse html).tags)
    (hkept : edit? t = none) : ∃ U V item, T = U ++ (some item, item) :: V
      ∧ Piece.tag? ⟨byteLength ((Track.old U).flatMap Piece.source), item⟩ = some t := by
  rw [(Document.sound_parse html).tags_eq] at ht
  obtain ⟨p, hp, htag⟩ := List.mem_filterMap.1 ht
  have hold : p ∈ (T.place 0 0).old := by
    rw [Track.old_place, hT.1]
    exact hp
  obtain ⟨p', hmem⟩ := Track.mem_old.1 hold
  obtain ⟨q, hq, hedited⟩ := hT.2 _ _ hmem
  cases hq
  obtain ⟨U, V, hsplit, -, hstart⟩ := Track.mem_place hmem
  have hsame : p'.item = p.item := by
    rcases hedited with ⟨hsame, -⟩ | ⟨u, u', content, hitem, -, hedit, -⟩
    · exact hsame
    · rw [Piece.tag?, hitem] at htag
      cases htag
      rw [hkept] at hedit
      cases hedit
  refine ⟨U, V, p.item, by rw [hsplit, hsame]; rfl, ?_⟩
  rw [← htag]
  have := hstart p rfl
  rw [Nat.zero_add] at this
  rw [← this]

/-- An attribute that is put in moves what stands behind it. -/
theorem length_lazyTrack {start start' : Nat}
    (h : ∀ o q, (o, q) ∈ T.place start start' → ∃ p, o = some p ∧ Piece.Edited (lazyEdit? images)
      (fun t t' => t' = t.prepend "loading".toList "lazy".toList) p q.item) :
    byteLength (T.new.flatMap Piece.source) = byteLength (T.old.flatMap Piece.source)
      + 15 * ((locate Piece.source start T.old).filterMap Piece.tag?).countP (· ∈ images) := by
  induction T generalizing start start' with
  | nil => rfl
  | cons x T ih =>
    obtain ⟨_ | p, q⟩ := x
    · obtain ⟨p, hp, -⟩ := h none ⟨start', q⟩ List.mem_cons_self
      cases hp
    have ih := ih fun o q hmem => h o q (List.mem_cons_of_mem _ hmem)
    obtain ⟨_, hp, hedited⟩ := h (some ⟨start, p⟩) ⟨start', q⟩ List.mem_cons_self
    cases hp
    have hpiece : byteLength q.source = byteLength p.source
        + 15 * ((Piece.tag? ⟨start, p⟩).toList.countP (· ∈ images)) := by
      rcases hedited with ⟨hsame, hkept⟩ | ⟨t, t', content, hp, hq, hedit, rfl⟩
      · have hnot : ∀ u, Piece.tag? ⟨start, p⟩ = some u → u ∉ images := fun u hu hmem => by
          simpa [lazyEdit?, hmem] using hkept u hu
        cases htag : Piece.tag? ⟨start, p⟩ with
        | none => simp [show q = p from hsame]
        | some u => simp [show q = p from hsame, hnot u htag]
      · obtain rfl : p = .openTag t content := hp
        obtain rfl : q = .openTag (t.prepend "loading".toList "lazy".toList) content := hq
        have hmem : t.place start ∈ images := by
          rw [lazyEdit?] at hedit
          split at hedit
          · assumption
          · cases hedit
        have htag : Piece.tag? ⟨start, .openTag t content⟩ = some (t.place start) := rfl
        have hlonger := t.byteLength_loading
        simp only [htag, Piece.source, byteLength_append, Option.toList_some, List.countP_singleton,
          hmem, decide_true, if_true]
        omega
    simp only [Track.old_cons_some, Track.new_cons, List.flatMap_cons, byteLength_append, locate,
      ih, hpiece]
    cases htag : Piece.tag? ⟨start, p⟩ with
    | none => simp only [Option.toList_none, List.countP_nil, List.filterMap_cons, htag]; omega
    | some t =>
      simp only [Option.toList_some, List.filterMap_cons, htag, List.countP_cons, List.countP_nil]
      omega

/-- How far a tag moves: by the length of the attribute for each image in front of it that is
edited. -/
theorem EditsTags.length_front {images : List Tag} (himages : images.Sublist (Document.parse html).tags)
    (hT : EditsTags html (lazyEdit? images)
      (fun t t' => t' = t.prepend "loading".toList "lazy".toList) T)
    {V : Track Piece} {item : Piece} (hsplit : T = U ++ (some item, item) :: V)
    (ht : Piece.tag? ⟨byteLength ((Track.old U).flatMap Piece.source), item⟩ = some t) :
    byteLength ((Track.new U).flatMap Piece.source)
      = 15 * images.countP (fun u => u.start < t.start)
        + byteLength ((Track.old U).flatMap Piece.source) := by
  have hd := Document.sound_parse html
  have hpieces : (Document.parse html).pieces = locate Piece.source 0 (Track.old U)
      ++ ⟨byteLength ((Track.old U).flatMap Piece.source), item⟩
        :: locate Piece.source (byteLength ((Track.old U).flatMap Piece.source)
          + byteLength item.source) (Track.old V) := by
    have hold : lex html = Track.old U ++ item :: Track.old V := by
      rw [← hT.1, hsplit]
      simp
    rw [Document.parse, hold, locate_append, Nat.zero_add]
    rfl
  have hplaced : ∀ o q, (o, q) ∈ U.place 0 0 → (o, q) ∈ T.place 0 0 := by
    intro o q h
    rw [hsplit, Track.place_append]
    exact List.mem_append_left _ h
  have hlength := length_lazyTrack fun o q h => hT.2 o q (hplaced o q h)
  have hcount : (List.filterMap Piece.tag? (locate Piece.source 0 (Track.old U))).countP
      (· ∈ images) = images.countP fun u => u.start < t.start := by
    calc (List.filterMap Piece.tag? (locate Piece.source 0 (Track.old U))).countP (· ∈ images)
        = ((Document.parse html).tags.filter fun u => u.start < t.start).countP (· ∈ images) := by
          rw [hd.filter_tags hpieces ht]
      _ = ((Document.parse html).tags.filter (· ∈ images)).countP fun u => u.start < t.start := by
          rw [List.countP_filter, List.countP_filter]
          congr 1
          funext u
          exact Bool.and_comm _ _
      _ = images.countP fun u => u.start < t.start := by
          rw [filter_mem_of_sublist himages (nodup_tags hd)]
  omega

/-! ## The page afterwards -/

/-- How an image above the fold is found on a page that others have been changed on: some bytes
further on, as it was written, and above the fold. -/
structure StaysAbove (f : FoldPolicy) (early : Nat → Nat → Prop) (html html' : List Char) (n : Nat)
    (t : Tag) : Prop where
  image : t.shift n ∈ (Document.parse html').openTagsNamed "img"
  above : (Document.parse html').AboveFold f early (t.shift n)
  bytes : ∃ text, Stands html ⟨t.start, t.stop⟩ text
    ∧ Stands html' (Span.shift n ⟨t.start, t.stop⟩) text

/-- The text that lazy loading leads to. -/
theorem exists_lazyRevision (fold : FoldPolicy) (html : List Char) :
    let images := fold.deferrable (.parse html)
    let html' := Edit.withInsertions (images.map Tag.nameEnd) " loading=\"lazy\"".toList html
    ∃ T, EditsTags html (lazyEdit? images)
        (fun t t' => t' = t.prepend "loading".toList "lazy".toList) T
      ∧ T.new.flatMap Piece.source = html'
      ∧ (∃ rev : (Document.parse html).Revision .lazyLoadImages id id (.parse html'),
          rev.track = T.place 0 0)
      ∧ applyEdits .lazyLoadImages html
          (images.map fun t => .insertion t.nameEnd " loading=\"lazy\"".toList) = .ok html' := by
  intro images html'
  obtain ⟨T, hT, happly⟩ := exists_lazyTrack fold html
  have hnodup : (images.map Tag.nameEnd).Nodup :=
    (nodup_nameEnds html).sublist ((deferrable_sublist (Document.sound_parse html) fold).map _)
  have hwritten := (Edit.fit_of_applyEdits happly).applyEdits_eq .lazyLoadImages
  have hnew : T.new.flatMap Piece.source = html' := by
    rw [happly] at hwritten
    have hinserted := Edit.written_insertions hnodup " loading=\"lazy\"".toList html
    rw [List.map_map] at hinserted
    exact (Except.ok.inj hwritten).trans hinserted
  exact ⟨T, hT, hnew, hnew ▸ exists_revision_images hT.loadsLazily, hnew ▸ happly⟩

/-- An image that is not edited is found again, byte for byte. -/
theorem EditsTags.image_kept {kind : FixKind} {g g' : Nat → Nat} {html' : List Char}
    (himages : images.Sublist (Document.parse html).tags)
    (hT : EditsTags html (lazyEdit? images)
      (fun t t' => t' = t.prepend "loading".toList "lazy".toList) T)
    (hnew : T.new.flatMap Piece.source = html')
    {rev : (Document.parse html).Revision kind g g' (.parse html')} (hrev : rev.track = T.place 0 0)
    (ht : t ∈ (Document.parse html).openTagsNamed "img") (hkept : t ∉ images) :
    let n := 15 * images.countP fun u => u.start < t.start
    (some t, t.shift n) ∈ rev.tags ∧ ∃ text, Stands html ⟨t.start, t.stop⟩ text
      ∧ Stands html' (Span.shift n ⟨t.start, t.stop⟩) text := by
  intro n
  obtain ⟨htags, hopen, -⟩ := Document.mem_openTagsNamed.1 ht
  obtain ⟨U, V, item, hsplit, htag⟩ := hT.exists_kept htags (if_neg hkept)
  have hfront := hT.length_front himages hsplit htag
  have hshift := Piece.tag?_shift n ⟨byteLength ((Track.old U).flatMap Piece.source), item⟩
  rw [Located.shift, htag, Option.map_some] at hshift
  obtain ⟨u, content, rfl⟩ : ∃ u content, item = .openTag u content := by
    cases item with
    | openTag u content => exact ⟨u, content, rfl⟩
    | closeTag name trailing => cases htag; cases hopen
    | _ => cases htag
  refine ⟨rev.mem_tags.2 ⟨_, _, ?_, htag, hshift⟩, u.source, ?_, ?_⟩
  · rw [hrev, hsplit, Track.place_append, Nat.zero_add, Nat.zero_add, hfront]
    exact List.mem_append_right _ List.mem_cons_self
  · cases htag
    refine ⟨(Track.old U).flatMap Piece.source, content ++ (Track.old V).flatMap Piece.source, ?_, rfl⟩
    rw [← flatMap_source_lex html, ← hT.1, hsplit]
    simp [Piece.source]
  · cases htag
    refine ⟨(Track.new U).flatMap Piece.source, content ++ (Track.new V).flatMap Piece.source, ?_, ?_⟩
    · rw [← hnew, hsplit]
      simp [Piece.source]
    · rw [hfront]
      simp [Span.shift, Span.ofText, OpenTag.place, Nat.add_assoc, n]

/-- What lazy loading leaves of a page, and whether it is applied. -/
theorem exists_lazyOutcome (fold : FoldPolicy) (html : List Char) :
    let images := fold.deferrable (.parse html)
    ∃ outcome, lazyLoadImages fold html = .ok outcome
      ∧ (outcome.map Repair.html).getD html
        = Edit.withInsertions (images.map Tag.nameEnd) " loading=\"lazy\"".toList html
      ∧ (outcome.isSome ↔ images ≠ []) := by
  intro images
  obtain ⟨-, -, -, -, happly⟩ := exists_lazyRevision fold html
  by_cases hnone : images = []
  · have hsame : applyEdits .lazyLoadImages html [] = .ok html := by
      simp [applyEdits, Edit.splice?]
    refine ⟨none, (lazyLoadImages_spec fold html).1 hnone, ?_, by simp [hnone]⟩
    rw [show fold.deferrable (.parse html) = [] from hnone] at happly
    rw [hnone]
    exact Except.ok.inj (hsame.symm.trans happly)
  · exact ⟨_, ofEdits_of_applyEdits (by simpa using hnone) happly _, rfl, by simp [hnone]⟩

/-- Lazy loading puts its attribute behind the names of exactly those images that do not say how they
load and do not lie above the fold, and changes nothing else. An image above the fold stays there byte
for byte, as far on as the attributes in front of it are long, and no image of the new page is left to
be told. What is early in the content may be decided by any
comparison that agrees with that of the policy on this page, such as `belowRatio` in exact numbers. -/
theorem lazyLoadImages_exact (f : FoldPolicy) (html : List Char) {early : Nat → Nat → Prop}
    (hearly : f.ComparesLike early
      ((Document.parse html).contentBefore (Document.parse html).size)) :
    let d := Document.parse html
    let images := f.deferrable d
    let html' := Edit.withInsertions (images.map Tag.nameEnd) " loading=\"lazy\"".toList html
    let d' := Document.parse html'
    (∀ t, t ∈ images ↔ d.Deferrable f early t)
      ∧ (∃ outcome, lazyLoadImages f html = .ok outcome
          ∧ (outcome.map Repair.html).getD html = html' ∧ (outcome.isSome ↔ images ≠ []))
      ∧ (∀ t ∈ d.openTagsNamed "img", d.AboveFold f early t →
          StaysAbove f early html html' (15 * images.countP fun u => u.start < t.start) t)
      ∧ (∀ t, ¬d'.Deferrable f early t) ∧ lazyLoadImages f html' = .ok none := by
  intro d images html' d'
  have hd := Document.sound_parse html
  obtain ⟨T, hT, hnew, ⟨rev, htrack⟩, happly⟩ := exists_lazyRevision f html
  have hmem : ∀ t, t ∈ images ↔ d.Deferrable f early t := fun t => f.mem_deferrable_iff hd hearly
  refine ⟨hmem, ?_, ?_, ?_⟩
  · exact exists_lazyOutcome f html
  · intro t ht habove
    have hkept : t ∉ images := fun himage => ((hmem t).1 himage).below habove
    obtain ⟨htags, hstands⟩ := hT.image_kept (deferrable_sublist hd f) hnew htrack ht hkept
    have halike := rev.alike htags
    obtain ⟨-, hopen, hname⟩ := Document.mem_openTagsNamed.1 ht
    have hfound : t.shift (15 * images.countP fun u => u.start < t.start) ∈ d'.tags := by
      rw [← rev.new_tags]
      exact List.mem_map.2 ⟨_, htags, rfl⟩
    exact ⟨Document.mem_openTagsNamed.2 ⟨hfound, halike.isOpen.trans hopen, halike.name.trans hname⟩,
      (rev.aboveFold_iff hearly htags).2 habove, hstands⟩
  · have hsilent : f.deferrable d' = [] := hT.loadsLazily.silent_images htrack
    refine ⟨fun t ht => ?_, (lazyLoadImages_spec f html').1 hsilent⟩
    rw [← f.mem_deferrable_iff (Document.sound_parse html') (rev.comparesLike hearly), hsilent] at ht
    cases ht

/-- A fold with two images and a quarter of the content above it. -/
def quarterFold : FoldPolicy := ⟨["hero".toList], 2, 0.25⟩

/-- A page with an image in its header, one at its top, one with a keyword and one further down. -/
def galleryPage : List Char :=
  "<body><header><img></header><img>Text<img alt=Heroes><img src=d></body>".toList

theorem lazyLoadImages_exact_galleryPage :
    quarterFold.ComparesLike (belowRatio (1 / 4))
        ((Document.parse galleryPage).contentBefore (Document.parse galleryPage).size)
      ∧ ∃ outcome, lazyLoadImages quarterFold galleryPage = .ok outcome
        ∧ (outcome.map Repair.html).getD galleryPage
          = ("<body><header><img></header><img>Text<img alt=Heroes>"
            ++ "<img loading=\"lazy\" src=d></body>").toList := by
  have hearly : quarterFold.ComparesLike (belowRatio (1 / 4))
      ((Document.parse galleryPage).contentBefore (Document.parse galleryPage).size) := by
    have htotal : (Document.parse galleryPage).contentBefore (Document.parse galleryPage).size
        = 54 := by decide +kernel
    rw [htotal]
    have hrounds : ∀ position ≤ 54, quarterFold.isEarly position 54 ↔ 4 * position < 54 := by
      decide +kernel
    intro position hle
    rw [hrounds position hle, belowRatio, ← @Nat.cast_lt ℚ]
    push_cast
    constructor <;> intro h <;> linarith
  obtain ⟨-, ⟨outcome, hok, hhtml, -⟩, -⟩ := lazyLoadImages_exact quarterFold galleryPage hearly
  refine ⟨hearly, outcome, hok, hhtml.trans ?_⟩
  decide +kernel

end Repair

end MarkupGate
