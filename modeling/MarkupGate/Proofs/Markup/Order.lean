import MarkupGate.Markup.Document
import MarkupGate.Proofs.Markup.Cutting
import MarkupGate.Proofs.Markup.Line
import MarkupGate.Proofs.Markup.Pairing

/-!
# Places and order

The queries of a document compare byte offsets. Its pieces stand one behind another, so whatever is
asked about the place of a tag or a text can be answered from their order alone.

* `Document.closer?_eq`, `Document.nextOpen?_eq`: what belongs to a tag is found among the tags of the
  pieces behind its own.
* `Document.textIn_contentRange`, `Document.imageTextsIn_contentRange`: the content of an element is
  what stands in the pieces behind its open tag, up to the next tag of its name.
* `Document.rawBlocksNamed_eq`: each script or style body is found with the tag of its own piece.
-/

namespace MarkupGate

/-! ## Placed pieces -/

/-- The offset just past a placed piece. -/
def Located.stop (p : Located Piece) : Nat := p.start + byteLength p.item.source

theorem locate_append {α : Type} (written : α → List Char) (start : Nat) (xs ys : List α) :
    locate written start (xs ++ ys)
      = locate written start xs
        ++ locate written (start + byteLength (xs.flatMap written)) ys := by
  induction xs generalizing start with
  | nil => simp [locate]
  | cons x xs ih => simp [locate, ih, Nat.add_assoc]

/-- What is placed keeps its order. -/
theorem map_item_locate {α : Type} (written : α → List Char) (start : Nat) (xs : List α) :
    (locate written start xs).map Located.item = xs := by
  induction xs generalizing start with
  | nil => rfl
  | cons x xs ih => simp [locate, ih]

/-- Where an item is placed depends on what is written before it. -/
theorem locate_split {α : Type} {written : α → List Char} {start : Nat} {xs : List α}
    {before behind : List (Located α)} {x : Located α}
    (h : locate written start xs = before ++ x :: behind) :
    ∃ ys zs, xs = ys ++ x.item :: zs ∧ before = locate written start ys
      ∧ x.start = start + byteLength (ys.flatMap written)
      ∧ behind = locate written (x.start + byteLength (written x.item)) zs := by
  induction xs generalizing start before with
  | nil => simp [locate] at h
  | cons y xs ih =>
    cases before with
    | nil =>
      obtain ⟨rfl, rfl⟩ := List.cons.inj h
      exact ⟨[], xs, rfl, rfl, rfl, rfl⟩
    | cons b before =>
      obtain ⟨rfl, hrest⟩ := List.cons.inj h
      obtain ⟨ys, zs, rfl, rfl, hstart, rfl⟩ := ih hrest
      refine ⟨y :: ys, zs, rfl, rfl, ?_, rfl⟩
      rw [hstart]
      simp [Nat.add_assoc]

/-- Whether pieces that are not empty stand one behind another, between two offsets. -/
structure InOrder (ps : List (Located Piece)) (start stop : Nat) : Prop where
  pairwise : ps.Pairwise fun p q => p.stop ≤ q.start
  start_le : ∀ p ∈ ps, start ≤ p.start
  stop_le : ∀ p ∈ ps, p.stop ≤ stop
  source_ne_nil : ∀ p ∈ ps, p.item.source ≠ []

theorem byteLength_pos {s : List Char} (h : s ≠ []) : 0 < byteLength s := by
  obtain ⟨c, cs, rfl⟩ := List.exists_cons_of_ne_nil h
  have := c.utf8Size_pos
  simp only [byteLength_cons]
  omega

theorem InOrder.start_lt_stop {ps : List (Located Piece)} {start stop : Nat}
    (h : InOrder ps start stop) {p : Located Piece} (hp : p ∈ ps) : p.start < p.stop := by
  have := byteLength_pos (h.source_ne_nil p hp)
  simp only [Located.stop]
  omega

theorem inOrder_locate {l : List Piece} (start : Nat) (h : ∀ p ∈ l, p.source ≠ []) :
    InOrder (locate Piece.source start l) start (start + byteLength (l.flatMap Piece.source)) := by
  induction l generalizing start with
  | nil => exact ⟨.nil, by simp [locate], by simp [locate], by simp [locate]⟩
  | cons p l ih =>
    have hrest := ih (start + byteLength p.source) fun q hq => h q (List.mem_cons_of_mem _ hq)
    rw [List.flatMap_cons, byteLength_append]
    refine ⟨.cons hrest.start_le hrest.pairwise, ?_, ?_, ?_⟩ <;> rintro q (- | ⟨-, hq⟩)
    · exact Nat.le_refl _
    · exact Nat.le_trans (Nat.le_add_right ..) (hrest.start_le q hq)
    · simp only [Located.stop]
      omega
    · exact Nat.add_assoc .. ▸ hrest.stop_le q hq
    · exact h p (by simp)
    · exact hrest.source_ne_nil q hq

theorem Spelled.source_ne_nil {l : List Piece} (h : Spelled l) : ∀ p ∈ l, p.source ≠ [] := by
  induction l with
  | nil => simp
  | cons p l ih =>
    intro q hq
    rcases List.mem_cons.1 hq with rfl | hq
    · exact h.1.source_ne_nil
    · exact ih h.2 q hq

/-- The pieces of a document stand in order. -/
theorem Document.inOrder (source : List Char) :
    InOrder (parse source).pieces 0 (parse source).size := by
  have h := inOrder_locate 0 (spelled_lex source).source_ne_nil
  rwa [flatMap_source_lex, Nat.zero_add] at h

/-! ## Tags and texts in their pieces -/

/-- A tag begins where its piece does. -/
theorem Piece.tag?_range {p : Located Piece} {t : Tag} (h : Piece.tag? p = some t) :
    t.start = p.start ∧ t.start < t.stop ∧ t.stop ≤ p.stop := by
  obtain ⟨start, item⟩ := p
  cases item with
  | openTag u content =>
    cases h
    have : 0 < byteLength u.source := byteLength_pos (by simp [OpenTag.source])
    refine ⟨rfl, ?_, ?_⟩
    · simpa [OpenTag.place] using this
    · simp [OpenTag.place, Located.stop, Piece.source]
  | closeTag name trailing =>
    cases h
    have : 0 < byteLength (Piece.closeTag name trailing).source :=
      byteLength_pos (by simp [Piece.source])
    exact ⟨rfl, Nat.lt_add_of_pos_right this, Nat.le_refl _⟩
  | _ => cases h

/-- A text lies in its piece, behind the tag if there is one. -/
theorem Piece.text?_range {p : Located Piece} {r : TextRun} (h : Piece.text? p = some r)
    (hp : p.item.source ≠ []) :
    p.start ≤ r.start ∧ r.start < r.span.stop ∧ r.span.stop ≤ p.stop
      ∧ ∀ t, Piece.tag? p = some t → r.start = t.stop := by
  obtain ⟨start, item⟩ := p
  cases item with
  | text content =>
    cases h
    have := byteLength_pos hp
    simp only [Piece.source] at this
    refine ⟨Nat.le_refl _, ?_, Nat.le_refl _, by rintro t ⟨⟩⟩
    simp only [TextRun.span, Span.ofText]
    omega
  | openTag u content =>
    simp only [Piece.text?] at h
    split at h <;> cases h
    rename_i hcontent
    have : 0 < byteLength content := byteLength_pos (by simp_all)
    refine ⟨Nat.le_add_right .., ?_, ?_, by rintro t ⟨⟩; rfl⟩
    · simp only [TextRun.span, Span.ofText]
      omega
    · simp [TextRun.span, Span.ofText, Located.stop, Piece.source, Nat.add_assoc]
  | _ => cases h

/-! ## Asking for places -/

/-- Whether a document is what a reading of a text shows. -/
structure Document.Sound (d : Document) : Prop where
  tokens : d.tokens = .ofLocated d.pieces
  inOrder : InOrder d.pieces 0 d.size
  closers : d.closers = closerTable d.tags
  nextOpens : d.nextOpens = nextOpenTable d.tags

theorem Document.sound_parse (source : List Char) : (parse source).Sound :=
  ⟨rfl, Document.inOrder source, rfl, rfl⟩

theorem InOrder.before_behind {before behind : List (Located Piece)} {p : Located Piece}
    {start stop : Nat} (h : InOrder (before ++ p :: behind) start stop) :
    (∀ q ∈ before, q.stop ≤ p.start) ∧ ∀ q ∈ behind, p.stop ≤ q.start := by
  obtain ⟨-, hbehind, hbefore⟩ := List.pairwise_append.1 h.pairwise
  exact ⟨fun q hq => hbefore q hq p (by simp), (List.pairwise_cons.1 hbehind).1⟩

theorem InOrder.eq_or_before {ps : List (Located Piece)} {start stop : Nat}
    (h : InOrder ps start stop) {p q : Located Piece} (hp : p ∈ ps) (hq : q ∈ ps) :
    p = q ∨ p.stop ≤ q.start ∨ q.stop ≤ p.start := by
  obtain ⟨before, behind, rfl⟩ := List.append_of_mem hp
  obtain ⟨hbefore, hbehind⟩ := h.before_behind
  rcases List.mem_append.1 hq with hq | hq
  · exact .inr (.inr (hbefore q hq))
  · rcases List.mem_cons.1 hq with rfl | hq
    · exact .inl rfl
    · exact .inr (.inl (hbehind q hq))

/-- The pieces of the content of an element, of those behind its open tag: up to the next tag of its
name. -/
def contentPieces (t : Tag) (behind : List (Located Piece)) : List (Located Piece) :=
  if t.isChildless then []
  else behind.takeWhile fun q => (Piece.tag? q).all fun u => u.name ≠ t.name

/-- The runs of text in the content of an element whose open tag is that of a piece. -/
def contentTexts (p : Located Piece) (t : Tag) (behind : List (Located Piece)) : List (List Char) :=
  if t.isChildless then []
  else ((p :: contentPieces t behind).filterMap Piece.text?).map TextRun.text

/-- The first tag of a name is that of the piece where the pieces of other names end. -/
theorem find?_namesake (name : List Char) (ps : List (Located Piece)) :
    (ps.filterMap Piece.tag?).find? (fun u => u.name = name)
      = (ps.dropWhile fun q => (Piece.tag? q).all fun u => u.name ≠ name).head?.bind
        Piece.tag? := by
  induction ps with
  | nil => rfl
  | cons q ps ih =>
    cases hq : Piece.tag? q with
    | none => simp [hq, ih]
    | some u => by_cases hu : u.name = name <;> simp [hq, hu, ih]

/-- The alternative text that a tag contributes to the element around it. -/
def imageText? (u : Tag) : Option (List Char) :=
  if u.isOpen && u.name = "img".toList then
    (u.value? "alt").bind fun alt => if isBlank alt then none else some (trim alt)
  else none

/-- A test that holds of all that a part of a list leads to, and of nothing else, picks it out. -/
theorem filter_filterMap_between {α β : Type} {f : α → Option β} {inRange : β → Bool}
    {front between back : List α} (hin : ∀ a ∈ between, ∀ b, f a = some b → inRange b)
    (hout : ∀ a ∈ front ++ back, ∀ b, f a = some b → inRange b = false) :
    ((front ++ (between ++ back)).filterMap f).filter inRange = between.filterMap f := by
  have hkeep : (between.filterMap f).filter inRange = between.filterMap f :=
    List.filter_eq_self.2 fun b hb => by
      obtain ⟨a, ha, hab⟩ := List.mem_filterMap.1 hb
      exact hin a ha b hab
  have hdrop : ∀ part ⊆ front ++ back, (part.filterMap f).filter inRange = [] := fun part hpart =>
    List.filter_eq_nil_iff.2 fun b hb => by
      obtain ⟨a, ha, hab⟩ := List.mem_filterMap.1 hb
      simp [hout a (hpart ha) b hab]
  rw [List.filterMap_append, List.filterMap_append, List.filter_append, List.filter_append, hkeep,
    hdrop front (by simp), hdrop back (by simp)]
  simp

namespace Document

variable {d : Document} {before behind : List (Located Piece)} {p : Located Piece} {t : Tag}

theorem Sound.tags_eq (hd : d.Sound) : d.tags = d.pieces.filterMap Piece.tag? := by
  rw [Document.tags, hd.tokens]
  rfl

theorem Sound.text_eq (hd : d.Sound) : d.tokens.text = d.pieces.filterMap Piece.text? := by
  rw [hd.tokens]
  rfl

/-- The runs of text of a document stand one behind another. -/
theorem Sound.pairwise_text (hd : d.Sound) :
    d.tokens.text.Pairwise fun r r' => r.span.stop ≤ r'.start := by
  rw [hd.text_eq, List.pairwise_filterMap]
  refine hd.inOrder.pairwise.imp_of_mem ?_
  intro q q' hq hq' hqq' r hr r' hr'
  have := Piece.text?_range hr (hd.inOrder.source_ne_nil q hq)
  have := Piece.text?_range hr' (hd.inOrder.source_ne_nil q' hq')
  omega

theorem Sound.text_lt (hd : d.Sound) {r : TextRun} (hr : r ∈ d.tokens.text) :
    r.start < r.span.stop ∧ r.span.stop ≤ d.size := by
  rw [hd.text_eq] at hr
  obtain ⟨p, hp, htext⟩ := List.mem_filterMap.1 hr
  have := Piece.text?_range htext (hd.inOrder.source_ne_nil p hp)
  have := hd.inOrder.stop_le p hp
  omega

/-- The runs of text that are found in a range are those that lie in it. -/
theorem Sound.runsIn_eq (hd : d.Sound) (range : Span) :
    d.runsIn range
      = d.tokens.text.filter fun r => range.contains r.start && r.span.stop ≤ range.stop := by
  have hpairwise := hd.pairwise_text
  have hfirst : Descends (fun r : TextRun => r.start < range.start) d.tokens.text := by
    refine hpairwise.imp_of_mem fun hr hr' h => ?_
    have := hd.text_lt hr
    simp only [decide_eq_true_eq]
    omega
  have hlast : Descends (fun r : TextRun => r.span.stop ≤ range.stop) d.tokens.text := by
    refine hpairwise.imp_of_mem fun hr hr' h => ?_
    have := hd.text_lt hr'
    simp only [decide_eq_true_eq]
    omega
  rw [runsIn, drop_partitionPoint hfirst,
    ← Descends.filter_eq (hlast.sublist List.filter_sublist), List.filter_filter]
  apply List.filter_congr
  intro r hr
  have := hd.text_lt hr
  simp only [Span.contains]
  grind

/-- The tags of a document stand one behind another. -/
theorem Sound.pairwise_tags (hd : d.Sound) : d.tags.Pairwise fun u v => u.stop ≤ v.start := by
  rw [hd.tags_eq, List.pairwise_filterMap]
  refine hd.inOrder.pairwise.imp ?_
  intro q r hqr u hu v hv
  have := Piece.tag?_range hu
  have := Piece.tag?_range hv
  omega

theorem Sound.tag_lt (hd : d.Sound) (ht : t ∈ d.tags) : t.start < t.stop ∧ t.stop ≤ d.size := by
  rw [hd.tags_eq] at ht
  obtain ⟨p, hp, htag⟩ := List.mem_filterMap.1 ht
  have := Piece.tag?_range htag
  have := hd.inOrder.stop_le p hp
  omega

/-- The tags of a document are those of the pieces before a tag, the tag and those behind it. -/
theorem Sound.tags_split (hd : d.Sound) (hp : d.pieces = before ++ p :: behind)
    (ht : Piece.tag? p = some t) :
    d.tags = before.filterMap Piece.tag? ++ t :: behind.filterMap Piece.tag? := by
  rw [hd.tags_eq, hp]
  simp [ht]

/-- A tag has the index at which it stands. -/
theorem Sound.indexOf?_eq (hd : d.Sound) {front back : List Tag} (h : d.tags = front ++ t :: back) :
    d.indexOf? t = some front.length := by
  have hfront : ∀ u ∈ front, u.start ≠ t.start := by
    intro u hu
    have hlt := hd.tag_lt (t := u) (by simp [h, hu])
    have hpairwise := h ▸ hd.pairwise_tags
    have := (List.pairwise_append.1 hpairwise).2.2 u hu t (by simp)
    omega
  rw [indexOf?, h, List.findIdx?_append, List.findIdx?_eq_none_iff.2 (by simpa using hfront)]
  simp [List.findIdx?_cons]

/-- The close tag of an element lies behind its open tag. -/
theorem closer?_eq (hd : d.Sound) (hp : d.pieces = before ++ p :: behind)
    (ht : Piece.tag? p = some t) : d.closer? t = closerAmong? t (behind.filterMap Piece.tag?) := by
  have hsplit := hd.tags_split hp ht
  rw [closer?, hd.indexOf?_eq hsplit, ← closerIndex?_bind (before.filterMap Piece.tag?), ← hsplit,
    Option.bind_some, closingIndex?, hd.closers]
  rfl

theorem Sound.closer?_spec (hd : d.Sound) (ht : t ∈ d.tags) {c : Tag} (h : d.closer? t = some c) :
    c ∈ d.tags ∧ c.isClose := by
  rw [hd.tags_eq] at ht
  obtain ⟨p, hp, htag⟩ := List.mem_filterMap.1 ht
  obtain ⟨before, behind, hsplit⟩ := List.append_of_mem hp
  rw [closer?_eq hd hsplit htag, closerAmong?, Option.ite_none_right_eq_some,
    findCloser_eq_some_iff] at h
  obtain ⟨-, between, rest, hbehind, hcloses, -⟩ := h
  refine ⟨?_, (Tag.closes_iff.1 hcloses).1⟩
  rw [hd.tags_split hsplit htag, hbehind]
  simp

/-- So does the next open tag of its name. -/
theorem nextOpen?_eq (hd : d.Sound) (hp : d.pieces = before ++ p :: behind)
    (ht : Piece.tag? p = some t) (hopen : t.isOpen) :
    d.nextOpen? t = (behind.filterMap Piece.tag?).find? (·.begins t.name) := by
  have hsplit := hd.tags_split hp ht
  rw [nextOpen?, hd.indexOf?_eq hsplit, Option.bind_some, hd.nextOpens,
    ← nextOpenTable_bind (before.filterMap Piece.tag?) _ hopen, ← hsplit]

/-- The content of an element ends where the next tag of its name begins: its close tag if that comes
first, else the open tag. -/
theorem min_closer_nextOpen (hd : d.Sound) (hp : d.pieces = before ++ p :: behind)
    (ht : Piece.tag? p = some t) (hawaits : t.awaitsCloser) :
    min (((d.closer? t).map Tag.start).getD d.size) (((d.nextOpen? t).map Tag.start).getD d.size)
      = (((behind.filterMap Piece.tag?).find? fun u => u.name = t.name).map Tag.start).getD d.size := by
  have hopen : t.isOpen := (Bool.and_eq_true _ _ ▸ hawaits).1
  have hsplit := hd.tags_split hp ht
  have hpairwise := (List.pairwise_cons.1 (List.pairwise_append.1 (hsplit ▸ hd.pairwise_tags)).2.1).2
  have hsize : ∀ u ∈ behind.filterMap Piece.tag?, u.start < u.stop ∧ u.stop ≤ d.size := fun u hu =>
    hd.tag_lt (by simp [hsplit, List.mem_filterMap.1 hu])
  rw [closer?_eq hd hp ht, nextOpen?_eq hd hp ht hopen, closerAmong?, if_pos hawaits]
  generalize behind.filterMap Piece.tag? = tags at hpairwise hsize
  clear hp hsplit
  induction tags with
  | nil => simp [findCloser]
  | cons u tags ih =>
    by_cases hname : u.name = t.name
    · obtain ⟨hbehind, -⟩ := List.pairwise_cons.1 hpairwise
      have hu := hsize u (by simp)
      -- Whatever else is found lies behind the namesake.
      have hlater : ∀ x : Option Tag, (∀ v, x = some v → v ∈ tags) →
          u.start ≤ (x.map Tag.start).getD d.size := by
        intro x hx
        cases x with
        | none => exact Nat.le_trans (Nat.le_of_lt hu.1) hu.2
        | some v => exact Nat.le_trans (Nat.le_of_lt hu.1) (hbehind v (hx v rfl))
      have hclose := u.isClose_eq_not_isOpen
      by_cases hopens : u.isOpen
      · have hfound : ∀ n v, findCloser t.name n tags = some v → v ∈ tags := by
          intro n v hv
          obtain ⟨between, rest, rfl, -⟩ := findCloser_eq_some_iff.1 hv
          simp
        have hstart : ∀ n, u.start ≤ ((findCloser t.name n tags).map Tag.start).getD d.size :=
          fun n => hlater _ (hfound n)
        by_cases hless : u.isChildless <;>
          simp [findCloser, Tag.begins, hname, hclose, hopens, hless, hstart]
      · have hstart := hlater (tags.find? (·.begins t.name)) fun v hv => List.mem_of_find?_eq_some hv
        simpa [findCloser, Tag.begins, hname, hclose, hopens] using hstart
    · have hrest := ih (List.pairwise_cons.1 hpairwise).2 fun v hv => hsize v (by simp [hv])
      simpa [findCloser, Tag.begins, hname] using hrest

/-- Where the pieces of the content of an element lie, and where those behind it. -/
theorem contentRange_spec (hd : d.Sound) (hp : d.pieces = before ++ p :: behind)
    (ht : Piece.tag? p = some t) (hopen : t.isOpen) (hchild : t.isChildless = false) :
    ∃ outer, behind = contentPieces t behind ++ outer ∧ (d.contentRange t).start = t.stop
      ∧ p.stop ≤ (d.contentRange t).stop
      ∧ (∀ q ∈ contentPieces t behind, p.stop ≤ q.start ∧ q.stop ≤ (d.contentRange t).stop)
      ∧ ∀ q ∈ outer, (d.contentRange t).stop ≤ q.start := by
  obtain ⟨-, hbehind⟩ := (hp ▸ hd.inOrder).before_behind
  obtain ⟨hstart, hlt, hstop⟩ := Piece.tag?_range ht
  have hsize : ∀ q ∈ d.pieces, q.stop ≤ d.size := hd.inOrder.stop_le
  have hpsize := hsize p (by simp [hp])
  let other (q : Located Piece) : Bool := (Piece.tag? q).all fun u => u.name ≠ t.name
  have hcontent : contentPieces t behind = behind.takeWhile other := by
    simp [contentPieces, hchild, other]
  have hsplit : behind = behind.takeWhile other ++ behind.dropWhile other :=
    List.takeWhile_append_dropWhile.symm
  have hawaits : t.awaitsCloser := by simp [Tag.awaitsCloser, hopen, hchild]
  have hend := min_closer_nextOpen hd hp ht hawaits
  rw [find?_namesake] at hend
  refine ⟨behind.dropWhile other, hcontent ▸ hsplit, by simp [contentRange, hchild], ?_⟩
  rw [hcontent]
  have hinner : ∀ q ∈ behind.takeWhile other, p.stop ≤ q.start ∧ q.stop ≤ d.size := fun q hq => by
    have hq := List.takeWhile_subset _ hq
    exact ⟨hbehind q hq, hsize q (by simp [hp, hq])⟩
  simp only [contentRange, hchild, Bool.false_eq_true, if_false, hend]
  cases hdrop : behind.dropWhile other with
  | nil =>
    simp only [List.head?_nil, Option.bind_none, Option.map_none, Option.getD_none]
    rw [Nat.max_eq_left (by omega)]
    exact ⟨hpsize, hinner, by simp⟩
  | cons q qs =>
    -- The content ends at the piece of the namesake, which lies in front of all that follow it.
    have hq : other q = false := by
      have := List.head?_dropWhile_not other behind
      simpa [hdrop] using this
    obtain ⟨u, hu, -⟩ : ∃ u, Piece.tag? q = some u ∧ u.name = t.name := by
      simpa [other, Option.all_eq_false] using hq
    have hpieces : d.pieces = (before ++ p :: behind.takeWhile other) ++ q :: qs := by
      rw [hp, List.append_assoc, List.cons_append, ← hdrop, ← hsplit]
    obtain ⟨hfront, hback⟩ := (hpieces ▸ hd.inOrder).before_behind
    obtain ⟨hustart, -, -⟩ := Piece.tag?_range hu
    have hpq := hfront p (by simp)
    have hqstop := (hpieces ▸ hd.inOrder).start_lt_stop (p := q) (by simp)
    simp only [List.head?_cons, Option.bind_some, hu, Option.map_some, Option.getD_some]
    rw [Nat.max_eq_left (by omega), hustart]
    refine ⟨hpq, fun r hr => ⟨(hinner r hr).1, hfront r (by simp [hr])⟩, fun r hr => ?_⟩
    rcases List.mem_cons.1 hr with rfl | hr
    · exact Nat.le_refl _
    · have := hback r hr
      omega

/-- The text in the content of an element is that of its pieces. -/
theorem textIn_contentRange (hd : d.Sound) (hp : d.pieces = before ++ p :: behind)
    (ht : Piece.tag? p = some t) (hopen : t.isOpen) :
    d.textIn (d.contentRange t) = readable ([' '].intercalate (contentTexts p t behind)) := by
  let inRange (r : TextRun) : Bool :=
    (d.contentRange t).contains r.start && r.span.stop ≤ (d.contentRange t).stop
  suffices hruns : ((d.pieces.filterMap Piece.text?).filter inRange).map TextRun.text
      = contentTexts p t behind by
    rw [textIn, hd.runsIn_eq, hd.text_eq, ← hruns]
  by_cases hchild : t.isChildless
  · have hnone : ∀ r, inRange r = false := by
      intro r
      simp only [inRange, contentRange, hchild, if_true, Span.contains, Bool.and_eq_false_iff,
        decide_eq_false_iff_not]
      omega
    simp [contentTexts, hchild, hnone]
  rw [Bool.not_eq_true] at hchild
  obtain ⟨outer, hbehind, hstart, hstop, hinner, houter⟩ := contentRange_spec hd hp ht hopen hchild
  obtain ⟨hbefore, -⟩ := (hp ▸ hd.inOrder).before_behind
  obtain ⟨-, -, htstop⟩ := Piece.tag?_range ht
  have hrange : ∀ q ∈ d.pieces, ∀ r, Piece.text? q = some r → q.start ≤ r.start
      ∧ r.start < r.span.stop ∧ r.span.stop ≤ q.stop
      ∧ ∀ u, Piece.tag? q = some u → r.start = u.stop := fun q hq r hr =>
    Piece.text?_range hr (hd.inOrder.source_ne_nil q hq)
  have hin : ∀ q ∈ p :: contentPieces t behind, ∀ r, Piece.text? q = some r → inRange r := by
    intro q hq r hr
    simp only [inRange, Span.contains, Bool.and_eq_true, decide_eq_true_eq, hstart]
    rcases List.mem_cons.1 hq with rfl | hq
    · obtain ⟨-, hlt, hle, htag⟩ := hrange q (by simp [hp]) r hr
      have := htag t ht
      omega
    · obtain ⟨hge, hlt, hle, -⟩ := hrange q (by rw [hp, hbehind]; simp [hq]) r hr
      have := hinner q hq
      omega
  have hout : ∀ q ∈ before ++ outer, ∀ r, Piece.text? q = some r → inRange r = false := by
    intro q hq r hr
    simp only [inRange, Span.contains, Bool.and_eq_false_iff, decide_eq_false_iff_not, hstart]
    rcases List.mem_append.1 hq with hq | hq
    · obtain ⟨hge, hlt, hle, -⟩ := hrange q (by simp [hp, hq]) r hr
      have := hbefore q hq
      have := Piece.tag?_range ht
      omega
    · obtain ⟨hge, hlt, hle, -⟩ := hrange q (by rw [hp, hbehind]; simp [hq]) r hr
      have := houter q hq
      omega
  have hsplit : d.pieces = before ++ ((p :: contentPieces t behind) ++ outer) := by
    rw [hp, List.cons_append, ← hbehind]
  rw [hsplit, filter_filterMap_between hin hout]
  simp [contentTexts, hchild]

/-- The images in the content of an element are those of its pieces. -/
theorem imageTextsIn_contentRange (hd : d.Sound) (hp : d.pieces = before ++ p :: behind)
    (ht : Piece.tag? p = some t) (hopen : t.isOpen) :
    d.imageTextsIn (d.contentRange t)
      = ((contentPieces t behind).filterMap Piece.tag?).filterMap imageText? := by
  suffices htags : (d.pieces.filterMap Piece.tag?).filter (fun u => (d.contentRange t).contains
      u.start) = (contentPieces t behind).filterMap Piece.tag? by
    rw [imageTextsIn, hd.tags_eq, htags, List.filterMap_filter]
    rfl
  by_cases hchild : t.isChildless
  · have hnone : ∀ u : Tag, (d.contentRange t).contains u.start = false := by
      intro u
      simp only [contentRange, hchild, if_true, Span.contains, Bool.and_eq_false_iff,
        decide_eq_false_iff_not]
      omega
    simp [contentPieces, hchild, hnone]
  rw [Bool.not_eq_true] at hchild
  obtain ⟨outer, hbehind, hstart, hstop, hinner, houter⟩ := contentRange_spec hd hp ht hopen hchild
  obtain ⟨hbefore, -⟩ := (hp ▸ hd.inOrder).before_behind
  obtain ⟨htstart, htlt, htstop⟩ := Piece.tag?_range ht
  have hin : ∀ q ∈ contentPieces t behind, ∀ u, Piece.tag? q = some u →
      (d.contentRange t).contains u.start := by
    intro q hq u hu
    have := hinner q hq
    have := Piece.tag?_range hu
    simp only [Span.contains, Bool.and_eq_true, decide_eq_true_eq, hstart]
    omega
  have hout : ∀ q ∈ (before ++ [p]) ++ outer, ∀ u, Piece.tag? q = some u →
      (d.contentRange t).contains u.start = false := by
    intro q hq u hu
    have := Piece.tag?_range hu
    simp only [Span.contains, Bool.and_eq_false_iff, decide_eq_false_iff_not, hstart]
    rcases List.mem_append.1 hq with hq | hq
    · rcases List.mem_append.1 hq with hq | hq
      · have := hbefore q hq
        omega
      · obtain rfl := List.mem_singleton.1 hq
        obtain rfl : t = u := Option.some.inj (ht.symm.trans hu)
        omega
    · have := houter q hq
      omega
  have hsplit : d.pieces = (before ++ [p]) ++ (contentPieces t behind ++ outer) := by
    rw [hp, ← hbehind]
    simp
  rw [hsplit, filter_filterMap_between hin hout]

end Document

/-! ## Code -/

/-- The code of a piece, with its place and tag, if it belongs to an element of a name. -/
def codeNamed? (name : String) (p : Located Piece) : Option (Nat × List Char × Tag) :=
  (Piece.tag? p).bind fun t =>
    if t.name = name.toList then (Piece.raw? p 0).map fun b => (b.start, b.text, t) else none

theorem Piece.raw?_eq (p : Located Piece) (i : Nat) :
    Piece.raw? p i = (Piece.raw? p 0).map fun b => { b with tag := i } := by
  obtain ⟨start, item⟩ := p
  cases item with
  | openTag t content => by_cases h : t.opensRaw <;> simp [Piece.raw?, h]
  | _ => rfl

/-- Code finds its tag at the index it was given. -/
theorem filterMap_raw_zipIdx (name : String) (front : List Tag) (ps : List (Located Piece)) :
    ((((ps.filter fun p => (Piece.tag? p).isSome).zipIdx front.length).filterMap fun (p, i) =>
        Piece.raw? p i).filterMap fun b => (front ++ ps.filterMap Piece.tag?)[b.tag]?.bind fun t =>
          if t.name = name.toList then some (b, t) else none).map
        (fun (b, t) => (b.start, b.text, t))
      = ps.filterMap (codeNamed? name) := by
  induction ps generalizing front with
  | nil => rfl
  | cons p ps ih =>
    cases ht : Piece.tag? p with
    | none => simpa [ht, codeNamed?] using ih front
    | some t =>
      have hrest := ih (front ++ [t])
      simp only [List.append_assoc, List.singleton_append, List.length_append,
        List.length_singleton] at hrest
      simp only [ht, Option.isSome_some, List.filter_cons_of_pos, List.zipIdx_cons,
        List.filterMap_cons]
      rw [Piece.raw?_eq]
      cases hraw : Piece.raw? p 0 with
      | none => simp [hrest, codeNamed?, ht, hraw]
      | some b =>
        by_cases hname : t.name = name.toList
        · simp [hrest, codeNamed?, ht, hraw, hname]
        · simp [hrest, codeNamed?, ht, hraw, hname]

/-- Each body of code is found with the tag of its own piece. -/
theorem Document.rawBlocksNamed_eq {d : Document} (hd : d.Sound) (name : String) :
    (d.rawBlocksNamed name).map (fun (b, t) => (b.start, b.text, t))
      = d.pieces.filterMap (codeNamed? name) := by
  rw [rawBlocksNamed, hd.tags_eq, hd.tokens]
  exact filterMap_raw_zipIdx name [] d.pieces

/-- What is found in the code of a piece, from where it stands, what it says and its tag. -/
def codeFindings {β : Type} (name : String) (find : Nat → List Char → Tag → List β)
    (p : Located Piece) : List β :=
  ((codeNamed? name p).map fun code => find code.1 code.2.1 code.2.2).getD []

/-- What is found in all code is found piece by piece. -/
theorem Document.flatMap_rawBlocksNamed {β : Type} {d : Document} (hd : d.Sound) (name : String)
    (find : Nat → List Char → Tag → List β) :
    (d.rawBlocksNamed name).flatMap (fun (b, t) => find b.start b.text t)
      = d.pieces.flatMap (codeFindings name find) := by
  have hblocks := congrArg (List.flatMap fun code => find code.1 code.2.1 code.2.2)
    (rawBlocksNamed_eq hd name)
  rw [List.flatMap_map] at hblocks
  refine hblocks.trans ?_
  induction d.pieces with
  | nil => rfl
  | cons p ps ih => cases hp : codeNamed? name p <;> simp [codeFindings, hp, ih]

end MarkupGate
