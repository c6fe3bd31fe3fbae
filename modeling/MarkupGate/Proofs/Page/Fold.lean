import MarkupGate.Page.Fold
import MarkupGate.Proofs.Markup.Accounting
import MarkupGate.Proofs.Markup.Order

/-!
# What lies above the fold

Images are judged on one way through the page, on which content, images and open headers are counted.
`Document.AboveFold` judges one image on its own: it asks for what the attributes of the image say,
for an element around it and for what stands in the page before it. Both agree on every page.

* `foldl_depthBehind_pos_iff`: a header is open where one that began before is not closed yet.
* `foldl_pass`: what has been counted behind some pieces.
* `Document.Sound.liesIn_iff`, `Document.Sound.contentBefore_eq`, `Document.Sound.imagesBefore_eq`:
  the counts at a tag.
* `FoldPolicy.mem_deferrable_iff`: the images that should load lazily.
-/

namespace MarkupGate

/-! ## Keywords -/

theorem hasInfix_iff {pattern s : List Char} : hasInfix pattern s ↔ pattern <:+: s := by
  rw [hasInfix]
  cases h : breakOn? pattern s with
  | none => simpa using breakOn?_eq_none h
  | some parts => exact iff_of_true rfl ⟨parts.1, parts.2, append_of_breakOn? h⟩

/-- A text holds a keyword if one occurs in it up to case. -/
theorem holdsKeyword_iff {keywords : List (List Char)} {value : List Char} :
    holdsKeyword keywords value ↔ ∃ k ∈ keywords, asciiLower k <:+: asciiLower value := by
  simp only [holdsKeyword, List.any_eq_true, hasInfix_iff]

/-! ## Open elements -/

theorem findCloser_spec {name : List Char} {pending : Nat} {ts : List Tag} {c : Tag}
    (h : findCloser name pending ts = some c) : c ∈ ts ∧ c.isClose := by
  induction ts generalizing pending with
  | nil => simp [findCloser] at h
  | cons t ts ih =>
    have hrest : ∀ n, findCloser name n ts = some c → c ∈ t :: ts ∧ c.isClose := fun n h =>
      ⟨List.mem_cons_of_mem _ (ih h).1, (ih h).2⟩
    simp only [findCloser] at h
    split at h
    · exact hrest _ h
    split at h
    · rename_i hclose
      cases pending with
      | zero =>
        cases h
        exact ⟨by simp, hclose⟩
      | succ n => exact hrest _ h
    split at h <;> exact hrest _ h

/-- A close tag that is not among some tags is looked for among those behind them. -/
theorem exists_findCloser_append (name : List Char) (pending : Nat) (ts us : List Tag) :
    ∃ later, findCloser name pending (ts ++ us)
      = (findCloser name pending ts).or (findCloser name later us) := by
  induction ts generalizing pending with
  | nil => exact ⟨pending, rfl⟩
  | cons t ts ih =>
    by_cases hname : t.name = name
    · by_cases hclose : t.isClose
      · cases pending with
        | zero => exact ⟨0, by simp [findCloser, hname, hclose]⟩
        | succ n => simpa [findCloser, hname, hclose] using ih n
      · by_cases hless : t.isChildless
        · simpa [findCloser, hname, hclose, hless] using ih pending
        · simpa [findCloser, hname, hclose, hless] using ih (pending + 1)
    · simpa [findCloser, hname] using ih pending

/-- Whether an element of a name begins among some tags and is not closed by them. -/
def LeavesOpen (name : List Char) (ts : List Tag) : Prop :=
  ∃ front u behind, ts = front ++ u :: behind ∧ u.awaitsCloser ∧ u.name = name
    ∧ findCloser name 0 behind = none

theorem leavesOpen_nil (name : List Char) : ¬LeavesOpen name [] := by
  rintro ⟨front, u, behind, h, -⟩
  simp at h

theorem leavesOpen_cons {name : List Char} {t : Tag} {ts : List Tag} : LeavesOpen name (t :: ts)
    ↔ (t.awaitsCloser ∧ t.name = name ∧ findCloser name 0 ts = none) ∨ LeavesOpen name ts := by
  constructor
  · rintro ⟨_ | ⟨t', front⟩, u, behind, hsplit, h⟩
    · cases hsplit
      exact .inl h
    · cases hsplit
      exact .inr ⟨front, u, behind, rfl, h⟩
  · rintro (h | ⟨front, u, behind, rfl, h⟩)
    · exact ⟨[], t, ts, rfl, h⟩
    · exact ⟨t :: front, u, behind, rfl, h⟩

/-- The depth behind some tags is positive where an element is open: one that begins among them, or
the first one of those that were open before. -/
theorem foldl_depthBehind_pos_iff (name : List Char) (depth : Nat) (ts : List Tag) :
    0 < ts.foldl (fun n t => t.depthBehind name n) depth
      ↔ LeavesOpen name ts ∨ 0 < depth ∧ findCloser name (depth - 1) ts = none := by
  induction ts generalizing depth with
  | nil => simp [findCloser, leavesOpen_nil]
  | cons t ts ih =>
    rw [List.foldl_cons, ih, leavesOpen_cons]
    have hopen := t.isClose_eq_not_isOpen
    by_cases hname : t.name = name
    · by_cases hclose : t.isClose
      · have hawaits : t.awaitsCloser = false := by simp_all [Tag.awaitsCloser]
        rcases depth with _ | _ | n <;>
          simp [Tag.depthBehind, findCloser, hname, hclose, hawaits]
      · by_cases hless : t.isChildless
        · have hawaits : t.awaitsCloser = false := by simp [Tag.awaitsCloser, hless]
          simp [Tag.depthBehind, findCloser, hname, hclose, hless, hawaits]
        · -- An element that begins here is open where it is not closed, and so are those around it.
          have hawaits : t.awaitsCloser = true := by simp_all [Tag.awaitsCloser]
          have houter : findCloser name 0 ts = none → findCloser name depth ts = none :=
            findCloser_eq_none_of_le (Nat.zero_le _)
          rcases depth with _ | n
          · simp [Tag.depthBehind, hname, hclose, hless, hawaits, or_comm]
          · simp only [Tag.depthBehind, findCloser, hname, hclose, hless, hawaits, ne_eq,
              not_true_eq_false, Bool.false_eq_true, if_false, true_and, Nat.add_one_sub_one,
              Nat.succ_pos]
            rw [or_assoc, or_left_comm, or_iff_right_of_imp houter]
    · simp [Tag.depthBehind, findCloser, hname]

/-! ## On the way through a page -/

/-- Whether a tag is an image in a range. -/
def Tag.isImageIn (scope : Span) (t : Tag) : Bool :=
  t.isOpen && t.name = "img".toList && scope.contains t.start

/-- A tag comes with what has been counted on the pieces before it. -/
theorem mem_readTags {scope : Span} {st st' : ReadingState} {t : Tag} {ps : List (Located Piece)} :
    (t, st') ∈ readTags scope st ps ↔ ∃ before p behind, ps = before ++ p :: behind
      ∧ Piece.tag? p = some t ∧ st' = before.foldl (fun st p => st.pass scope p) st := by
  induction ps generalizing st with
  | nil => simp [readTags]
  | cons p ps ih =>
    have hrest : (t, st') ∈ readTags scope (st.pass scope p) ps → ∃ before q behind,
        p :: ps = before ++ q :: behind ∧ Piece.tag? q = some t
          ∧ st' = before.foldl (fun st p => st.pass scope p) st := by
      intro h
      obtain ⟨before, q, behind, rfl, ht, rfl⟩ := ih.1 h
      exact ⟨p :: before, q, behind, rfl, ht, rfl⟩
    rw [readTags]
    constructor
    · intro h
      cases hp : Piece.tag? p with
      | none => exact hrest (by simpa [hp] using h)
      | some u =>
        rcases List.mem_cons.1 (by simpa only [hp] using h) with h | h
        · cases h
          exact ⟨[], p, ps, rfl, hp, rfl⟩
        · exact hrest h
    · rintro ⟨_ | ⟨p', before⟩, q, behind, hsplit, ht, hst⟩
      · cases hsplit
        simp [ht, hst]
      · rw [List.cons_append, List.cons.injEq] at hsplit
        obtain ⟨rfl, rfl⟩ := hsplit
        have hmem : (t, st') ∈ readTags scope (st.pass scope p) (before ++ q :: behind) :=
          ih.2 ⟨before, q, behind, rfl, ht, hst⟩
        cases hp : Piece.tag? p with
        | none => simpa only [hp] using hmem
        | some u => simpa only [hp] using List.mem_cons_of_mem _ hmem

/-- What is counted on the way is the sum of what the tags and texts count for, the number of images,
and the depth in headers. -/
theorem foldl_pass (scope : Span) (st : ReadingState) (ps : List (Located Piece)) :
    let tags := ps.filterMap Piece.tag?
    ps.foldl (fun st p => st.pass scope p) st = {
      units := st.units + ((tags.map (tagUnits scope)).sum
        + ((ps.filterMap Piece.text?).map (textUnits scope)).sum)
      images := st.images + tags.countP (Tag.isImageIn scope)
      headers := tags.foldl (fun n t => t.depthBehind "header".toList n) st.headers } := by
  induction ps generalizing st with
  | nil => rfl
  | cons p ps ih =>
    simp only at ih ⊢
    rw [List.foldl_cons, ih, ReadingState.pass]
    cases ht : Piece.tag? p with
    | none =>
      cases hr : Piece.text? p with
      | none => simp [ht, hr]
      | some r => simp [ht, hr, ReadingState.passText, Nat.add_assoc, Nat.add_left_comm]
    | some t =>
      have himage : (if t.isOpen && t.name = "img".toList && scope.contains t.start
          then st.images + 1 else st.images) + (ps.filterMap Piece.tag?).countP (Tag.isImageIn scope)
          = st.images + (t :: ps.filterMap Piece.tag?).countP (Tag.isImageIn scope) := by
        rw [List.countP_cons, Tag.isImageIn]
        split <;> omega
      cases hr : Piece.text? p <;>
        simp only [ht, hr, Option.elim_some, Option.elim_none, ReadingState.passTag,
          ReadingState.passText, List.filterMap_cons, List.map_cons, List.sum_cons, List.foldl_cons,
          himage, ReadingState.mk.injEq, and_true] <;>
        omega

/-! ## What stands before a place -/

namespace Document

/-- The content of the fold scope in front of an offset: that of its tags and of its runs of text. -/
def contentBefore (d : Document) (offset : Nat) : Nat :=
  ((d.tags.filter fun u => u.start < offset).map (tagUnits d.foldScope)).sum
    + ((d.tokens.text.filter fun r => r.start < offset).map (textUnits d.foldScope)).sum

/-- How many images of the fold scope begin in front of an offset. -/
def imagesBefore (d : Document) (offset : Nat) : Nat :=
  (d.openTagsNamed "img").countP fun u => u.start < offset && d.foldScope.contains u.start

/-- Whether an offset lies in an element of a name that begins in front of it. -/
def LiesIn (d : Document) (name : String) (offset : Nat) : Prop :=
  ∃ u ∈ d.openTagsNamed name, u.start < offset ∧ (d.elementRange u).contains offset

end Document

/-- What is picked out of pieces and begins in front of one of them is picked out of those before
it. -/
theorem InOrder.filter_filterMap {β : Type} {before behind : List (Located Piece)}
    {p : Located Piece} {first last : Nat} (h : InOrder (before ++ p :: behind) first last)
    {pick : Located Piece → Option β} {start : β → Nat}
    (hpick : ∀ q ∈ before ++ p :: behind, ∀ b, pick q = some b →
      q.start ≤ start b ∧ start b < q.stop) :
    (((before ++ p :: behind).filterMap pick).filter fun b => start b < p.start)
      = before.filterMap pick := by
  obtain ⟨hbefore, hbehind⟩ := h.before_behind
  have hin : ∀ q ∈ before, ∀ b, pick q = some b → decide (start b < p.start) := by
    intro q hq b hqb
    have := hbefore q hq
    have := hpick q (List.mem_append_left _ hq) b hqb
    simp only [decide_eq_true_eq]
    omega
  have hout : ∀ q ∈ [] ++ p :: behind, ∀ b, pick q = some b →
      decide (start b < p.start) = false := by
    intro q hq b hqb
    have hstart : p.start ≤ q.start := by
      rcases List.mem_cons.1 hq with rfl | hq
      · exact Nat.le_refl _
      · have := hbehind q hq
        have := h.start_lt_stop (List.mem_append_right before List.mem_cons_self)
        omega
    have := hpick q (List.mem_append_right _ hq) b hqb
    simp only [decide_eq_false_iff_not]
    omega
  exact filter_filterMap_between hin hout

namespace Document

variable {d : Document} {before behind : List (Located Piece)} {p : Located Piece} {t : Tag}

/-- Further on in a page there is no less content. -/
theorem contentBefore_mono (d : Document) {m n : Nat} (h : m ≤ n) :
    d.contentBefore m ≤ d.contentBefore n := by
  have hsum : ∀ {α : Type} (start units : α → Nat) (l : List α),
      ((l.filter fun x => start x < m).map units).sum
        ≤ ((l.filter fun x => start x < n).map units).sum := by
    intro α start units l
    refine List.Sublist.sum_le_sum (.map _ ?_) fun _ _ => Nat.zero_le _
    refine List.monotone_filter_right l fun x hx => ?_
    simp only [decide_eq_true_eq] at hx ⊢
    omega
  exact Nat.add_le_add (hsum Tag.start _ _) (hsum TextRun.start _ _)

theorem mem_openTagsNamed {name : String} :
    t ∈ d.openTagsNamed name ↔ t ∈ d.tags ∧ t.isOpen ∧ t.name = name.toList := by
  simp only [openTagsNamed, openTags, List.mem_filter, decide_eq_true_eq, and_assoc]

namespace Sound

/-- The tags in front of a tag are those of the pieces before its own. -/
theorem filter_tags (hd : d.Sound) (hp : d.pieces = before ++ p :: behind)
    (ht : Piece.tag? p = some t) :
    (d.tags.filter fun u => u.start < t.start) = before.filterMap Piece.tag? := by
  rw [hd.tags_eq, hp, (Piece.tag?_range ht).1]
  refine (hp ▸ hd.inOrder).filter_filterMap fun q _ u hu => ?_
  have := Piece.tag?_range hu
  omega

/-- The texts in front of a tag are those of the pieces before its own. -/
theorem filter_text (hd : d.Sound) (hp : d.pieces = before ++ p :: behind)
    (ht : Piece.tag? p = some t) :
    (d.tokens.text.filter fun r => r.start < t.start) = before.filterMap Piece.text? := by
  have hinOrder := hp ▸ hd.inOrder
  rw [hd.text_eq, hp, (Piece.tag?_range ht).1]
  refine hinOrder.filter_filterMap fun q hq r hr => ?_
  have := Piece.text?_range hr (hinOrder.source_ne_nil q hq)
  omega

/-- An element holds a tag behind its open tag where no close tag stands between them. -/
theorem contains_elementRange_iff (hd : d.Sound) {between : List (Located Piece)}
    {q : Located Piece} {u : Tag} (hq : d.pieces = before ++ q :: (between ++ p :: behind))
    (hu : Piece.tag? q = some u) (hopen : u.isOpen) (ht : Piece.tag? p = some t) :
    (d.elementRange u).contains t.start
      ↔ u.awaitsCloser ∧ findCloser u.name 0 (between.filterMap Piece.tag?) = none := by
  have hp : d.pieces = (before ++ q :: between) ++ p :: behind := by simp [hq]
  obtain ⟨hbefore, hbehind⟩ := (hp ▸ hd.inOrder).before_behind
  have hustop : u.stop ≤ t.start := by
    have := hbefore q (by simp)
    have := Piece.tag?_range hu
    have := Piece.tag?_range ht
    omega
  have hustart := (Piece.tag?_range hu).2.1
  simp only [elementRange, rangeTo, closer?_eq hd hq hu, closerAmong?]
  by_cases hless : u.isChildless
  · simp [hless, Tag.awaitsCloser, Span.contains, Nat.not_lt.2 hustop]
  have hawaits : u.awaitsCloser := by simp [Tag.awaitsCloser, hopen, hless]
  obtain ⟨later, happend⟩ := exists_findCloser_append u.name 0 (between.filterMap Piece.tag?)
    ((p :: behind).filterMap Piece.tag?)
  rw [← List.filterMap_append] at happend
  simp only [hless, Bool.false_eq_true, if_false, hawaits, if_true, true_and, happend]
  cases hfind : findCloser u.name 0 (between.filterMap Piece.tag?) with
  | some c =>
    obtain ⟨r, hr, hrc⟩ := List.mem_filterMap.1 (findCloser_spec hfind).1
    have hcstop : c.stop ≤ t.start := by
      have := hbefore r (by simp [hr])
      have := Piece.tag?_range hrc
      have := Piece.tag?_range ht
      omega
    simp [Span.contains, Nat.not_lt.2 hcstop]
  | none =>
    -- A close tag that comes later ends behind the start of the tag, and so does the page.
    have hlater : t.start < ((findCloser u.name later ((p :: behind).filterMap Piece.tag?)).map
        Tag.stop).getD d.size := by
      cases hc : findCloser u.name later ((p :: behind).filterMap Piece.tag?) with
      | none =>
        have := hd.inOrder.stop_le p (by simp [hp])
        have := Piece.tag?_range ht
        simp only [Option.map_none, Option.getD_none]
        omega
      | some c =>
        obtain ⟨r, hr, hrc⟩ := List.mem_filterMap.1 (findCloser_spec hc).1
        have := Piece.tag?_range hrc
        have := Piece.tag?_range ht
        simp only [Option.map_some, Option.getD_some]
        rcases List.mem_cons.1 hr with rfl | hr
        · omega
        · have := hbehind r hr
          omega
    simpa [Span.contains, hlater] using (by omega : u.start ≤ t.start)

/-- A tag lies in an element of a name where the depth of the name is positive. -/
theorem liesIn_iff (hd : d.Sound) (hp : d.pieces = before ++ p :: behind)
    (ht : Piece.tag? p = some t) (name : String) :
    d.LiesIn name t.start
      ↔ 0 < (before.filterMap Piece.tag?).foldl (fun n u => u.depthBehind name.toList n) 0 := by
  have hsplit : ∀ front q between, before = front ++ q :: between →
      d.pieces = front ++ q :: (between ++ p :: behind) := by
    rintro front q between rfl
    simp [hp]
  rw [foldl_depthBehind_pos_iff]
  simp only [Nat.lt_irrefl, false_and, or_false]
  constructor
  · rintro ⟨u, hmem, hlt, hin⟩
    obtain ⟨htags, hopen, hname⟩ := mem_openTagsNamed.1 hmem
    have hbefore : u ∈ before.filterMap Piece.tag? := by
      rw [← hd.filter_tags hp ht]
      exact List.mem_filter.2 ⟨htags, by simpa using hlt⟩
    obtain ⟨q, hq, hqu⟩ := List.mem_filterMap.1 hbefore
    obtain ⟨front, between, rfl⟩ := List.append_of_mem hq
    obtain ⟨hawaits, hnone⟩ :=
      (hd.contains_elementRange_iff (hsplit _ _ _ rfl) hqu hopen ht).1 hin
    exact ⟨_, u, _, by rw [List.filterMap_append, List.filterMap_cons_some hqu], hawaits, hname,
      hname ▸ hnone⟩
  · rintro ⟨tags, u, tags', heq, hawaits, hname, hnone⟩
    obtain ⟨front, back, rfl, -, hback⟩ := List.filterMap_eq_append_iff.1 heq
    obtain ⟨others, q, between, rfl, -, hqu, rfl⟩ := List.filterMap_eq_cons_iff.1 hback
    have hopen : u.isOpen := (Bool.and_eq_true _ _ ▸ hawaits).1
    have hmem : u ∈ d.tags.filter fun u => u.start < t.start := by
      rw [hd.filter_tags hp ht, heq]
      simp
    obtain ⟨htags, hlt⟩ := List.mem_filter.1 hmem
    refine ⟨u, mem_openTagsNamed.2 ⟨htags, hopen, hname⟩, by simpa using hlt, ?_⟩
    exact (hd.contains_elementRange_iff (hsplit (front ++ others) _ _ (by simp)) hqu hopen ht).2
      ⟨hawaits, hname ▸ hnone⟩

/-- Every tag is come upon on the way through a page. -/
theorem exists_mem_tagsRead (hd : d.Sound) (ht : t ∈ d.tags) : ∃ st, (t, st) ∈ d.tagsRead := by
  rw [hd.tags_eq] at ht
  obtain ⟨p, hp, htag⟩ := List.mem_filterMap.1 ht
  obtain ⟨before, behind, hsplit⟩ := List.append_of_mem hp
  exact ⟨_, mem_readTags.2 ⟨before, p, behind, hsplit, htag, rfl⟩⟩

/-- Nothing else is. -/
theorem mem_tags_of_tagsRead (hd : d.Sound) {st : ReadingState} (h : (t, st) ∈ d.tagsRead) :
    t ∈ d.tags := by
  obtain ⟨before, p, behind, hp, ht, -⟩ := mem_readTags.1 h
  rw [hd.tags_eq, hp]
  exact List.mem_filterMap.2 ⟨p, by simp, ht⟩

/-- The content in front of a tag. -/
theorem contentBefore_eq (hd : d.Sound) (hp : d.pieces = before ++ p :: behind)
    (ht : Piece.tag? p = some t) :
    d.contentBefore t.start
      = (before.foldl (fun st p => st.pass d.foldScope p) ReadingState.top).units := by
  rw [foldl_pass, contentBefore, hd.filter_tags hp ht, hd.filter_text hp ht]
  exact (Nat.zero_add _).symm

/-- The images in front of a tag. -/
theorem imagesBefore_eq (hd : d.Sound) (hp : d.pieces = before ++ p :: behind)
    (ht : Piece.tag? p = some t) :
    d.imagesBefore t.start
      = (before.foldl (fun st p => st.pass d.foldScope p) ReadingState.top).images := by
  rw [foldl_pass, ← hd.filter_tags hp ht]
  simp only [imagesBefore, openTagsNamed, openTags, List.countP_filter, ReadingState.top,
    Nat.zero_add]
  congr 1
  funext u
  simp only [Tag.isImageIn]
  grind

/-- The content of the whole scope. -/
theorem contentTotal_eq (hd : d.Sound) : d.contentTotal = d.contentBefore d.size := by
  have htags : (d.tags.filter fun u => u.start < d.size) = d.tags := by
    rw [List.filter_eq_self, hd.tags_eq]
    intro u hu
    obtain ⟨q, hq, hqu⟩ := List.mem_filterMap.1 hu
    have := hd.inOrder.stop_le q hq
    have := Piece.tag?_range hqu
    simp only [decide_eq_true_eq]
    omega
  have htext : (d.tokens.text.filter fun r => r.start < d.size) = d.tokens.text := by
    rw [List.filter_eq_self, hd.text_eq]
    intro r hr
    obtain ⟨q, hq, hqr⟩ := List.mem_filterMap.1 hr
    have := hd.inOrder.stop_le q hq
    have := Piece.text?_range hqr (hd.inOrder.source_ne_nil q hq)
    simp only [decide_eq_true_eq]
    omega
  simp only [contentTotal]
  rw [foldl_pass, contentBefore, htags, htext, hd.tags_eq, hd.text_eq]
  exact Nat.zero_add _

end Sound

/-! ## The fold -/

/-- Why an image lies above the fold of a page. What is early is decided by a comparison of the
content in front of the image with that of the whole scope. -/
inductive AboveFold (d : Document) (f : FoldPolicy) (early : Nat → Nat → Prop) (t : Tag) : Prop
  /-- the first attribute of some name says a keyword, in any case -/
  | keyword {name : String} {value k : List Char} (watched : name ∈ keywordAttributes)
      (stated : t.value? name = some value) (known : k ∈ f.keywords)
      (holds : asciiLower k <:+: asciiLower value)
  /-- it lies inside a header -/
  | header (inside : d.LiesIn "header" t.start)
  /-- it is one of the first images of the scope -/
  | leading (scope : d.foldScope.contains t.start) (few : d.imagesBefore t.start < f.leadingImages)
  /-- it stands early in the content of the scope -/
  | early (scope : d.foldScope.contains t.start)
      (first : early (d.contentBefore t.start) (d.contentBefore d.size))

/-- What it takes of a tag to be told to load lazily. -/
structure Deferrable (d : Document) (f : FoldPolicy) (early : Nat → Nat → Prop) (t : Tag) :
    Prop where
  image : t ∈ d.openTagsNamed "img"
  unsaid : t.hasAttr "loading" = false
  below : ¬d.AboveFold f early t

end Document

/-- Whether a position lies below a part of a total, in exact numbers. -/
def belowRatio (ratio : ℚ) (position total : Nat) : Prop := (position : ℚ) < ratio * total

namespace FoldPolicy

/-- Whether a comparison of positions with a total agrees with that of a policy. The policy compares
doubles. What it compares itself agrees, so that nothing said of all such comparisons depends on how
doubles are rounded; and `belowRatio` agrees where the rounding decides nothing. -/
def ComparesLike (f : FoldPolicy) (early : Nat → Nat → Prop) (total : Nat) : Prop :=
  ∀ position ≤ total, f.isEarly position total ↔ early position total

variable {f : FoldPolicy} {early : Nat → Nat → Prop} {d : Document} {t : Tag} {st : ReadingState}

/-- An image is judged on the way through the page as it is on its own. -/
theorem protects_iff (hd : d.Sound) (hearly : f.ComparesLike early (d.contentBefore d.size))
    (h : (t, st) ∈ d.tagsRead) :
    f.protects d.foldScope d.contentTotal t st ↔ d.AboveFold f early t := by
  obtain ⟨before, p, behind, hp, ht, rfl⟩ := mem_readTags.1 h
  have hheader := hd.liesIn_iff hp ht "header"
  have hunits := hd.contentBefore_eq hp ht
  have himages := hd.imagesBefore_eq hp ht
  have hheaders : (before.foldl (fun st p => st.pass d.foldScope p) ReadingState.top).headers
      = (before.filterMap Piece.tag?).foldl (fun n u => u.depthBehind "header".toList n) 0 := by
    rw [foldl_pass]
    rfl
  have hle : d.contentBefore t.start ≤ d.contentBefore d.size := by
    have := hd.inOrder.stop_le p (by simp [hp])
    have := Piece.tag?_range ht
    exact d.contentBefore_mono (by omega)
  rw [protects, hheaders, ← hunits, ← himages, hd.contentTotal_eq]
  simp only [Bool.or_eq_true, Bool.and_eq_true, decide_eq_true_eq, List.any_eq_true,
    List.mem_filterMap, holdsKeyword_iff, hearly _ hle, ← hheader]
  constructor
  · rintro ((⟨value, ⟨name, hname, hvalue⟩, k, hk, hholds⟩ | hin) | ⟨hscope, hfew | hfirst⟩)
    · exact .keyword hname hvalue hk hholds
    · exact .header hin
    · exact .leading hscope hfew
    · exact .early hscope hfirst
  · rintro (⟨hname, hvalue, hk, hholds⟩ | hin | ⟨hscope, hfew⟩ | ⟨hscope, hfirst⟩)
    · exact .inl (.inl ⟨_, ⟨_, hname, hvalue⟩, _, hk, hholds⟩)
    · exact .inl (.inr hin)
    · exact .inr ⟨hscope, .inl hfew⟩
    · exact .inr ⟨hscope, .inr hfirst⟩

/-- The images that should load lazily are those that do not say how they load and do not lie above
the fold. -/
theorem mem_deferrable_iff (hd : d.Sound)
    (hearly : f.ComparesLike early (d.contentBefore d.size)) :
    t ∈ f.deferrable d ↔ d.Deferrable f early t := by
  have hjudged : ∀ st, (t, st) ∈ d.tagsRead →
      ((t.isOpen && t.name = "img".toList && !t.hasAttr "loading"
          && !f.protects d.foldScope d.contentTotal t st) ↔ d.Deferrable f early t) := by
    intro st h
    have hprotects := protects_iff hd hearly h
    have htags := hd.mem_tags_of_tagsRead h
    simp only [Bool.and_eq_true, Bool.not_eq_true', decide_eq_true_eq, ← Bool.not_eq_true,
      hprotects]
    constructor
    · rintro ⟨⟨⟨hopen, hname⟩, hload⟩, hbelow⟩
      exact ⟨Document.mem_openTagsNamed.2 ⟨htags, hopen, hname⟩, by simpa using hload, hbelow⟩
    · rintro ⟨himage, hload, hbelow⟩
      exact ⟨⟨(Document.mem_openTagsNamed.1 himage).2, by simp [hload]⟩, hbelow⟩
  simp only [deferrable, List.mem_filterMap]
  constructor
  · rintro ⟨⟨u, st⟩, hread, h⟩
    obtain ⟨hcond, hu⟩ := Option.ite_none_right_eq_some.1 h
    cases hu
    exact (hjudged st hread).1 hcond
  · intro h
    obtain ⟨st, hread⟩ := hd.exists_mem_tagsRead (Document.mem_openTagsNamed.1 h.image).1
    exact ⟨(t, st), hread, if_pos ((hjudged st hread).2 h)⟩

end FoldPolicy

end MarkupGate
