import MarkupGate.Proofs.Markup.Order

/-!
# Nested elements

What follows for elements from the balance of the tags between an open tag and its close tag.

* `PairedTags.nested`, `PairedTags.unique`: elements of one name lie apart or one in the other, and no two
  of them share a close tag.
* `closerIndex?_eraseIdx`: an element keeps its close tag where a tag of another name is left out, or a
  close tag that closes nothing.
* `Document.pairsTags_parse`: both for the tags of a document, with the ranges of its elements.
-/

namespace MarkupGate

/-! ## How pairs lie -/

/-- The tags between two indices are those in front of a tag between them, the tag and those behind
it. -/
theorem tagsBetween_split {tags : List Tag} {i k c : Nat} {x : Tag} (hik : i < k) (hkc : k < c)
    (hx : tags[k]? = some x) :
    tagsBetween tags i c = tagsBetween tags i k ++ x :: tagsBetween tags k c := by
  have hx' : (tags.take c)[k]? = some x := by rwa [List.getElem?_take_of_lt hkc]
  have htake : (tags.take c).take k = tags.take k := by rw [List.take_take, Nat.min_eq_left (by omega)]
  have hlength := length_take_of_getElem? hx
  rw [tagsBetween, ← take_append_cons_drop hx', htake, List.drop_append_of_le_length (by omega)]
  rfl

/-- Of two elements of one name, the second one begins behind the first or ends inside it. -/
theorem PairedTags.nested {tags : List Tag} {i j c e : Nat} {t u t' u' : Tag}
    (h : PairedTags tags i c t u) (h' : PairedTags tags j e t' u') (hname : t'.name = t.name)
    (hij : i < j) : c < j ∨ e < c := by
  by_contra hcross
  rw [not_or, Nat.not_lt, Nat.not_lt] at hcross
  have hne : j ≠ c := by
    rintro rfl
    obtain rfl : t' = u := Option.some.inj (h'.opening.symm.trans h.closing)
    have hopens := Tag.opens_eq_false_of_closes h.closes
    simp [Tag.opens, h'.awaits, hname] at hopens
  have hjc : j < c := by omega
  have hopens : t'.opens t.name := Tag.opens_iff.2 ⟨h'.awaits, hname⟩
  have hcloses : ¬t'.closes t.name := by
    intro hcloses
    simp [Tag.opens_eq_false_of_closes hcloses] at hopens
  -- Between the inner open tag and the outer close tag more are closed than opened.
  have hlevel := h.balanced.level
  have hfront := h.balanced.front (tagsBetween tags i j)
    (by rw [tagsBetween_split hij hjc h'.opening]; exact List.prefix_append _ _)
  have hinner := h'.balanced.front (tagsBetween tags j c) (by
    rcases Nat.lt_or_eq_of_le hcross.2 with hce | rfl
    · rw [tagsBetween_split hjc hce h.closing]
      exact List.prefix_append _ _
    · exact List.prefix_rfl)
  rw [hname] at hinner
  rw [tagsBetween_split hij hjc h'.opening] at hlevel
  simp only [List.countP_append, List.countP_cons, hopens, hcloses, if_true, if_false,
    Bool.false_eq_true] at hlevel
  omega

/-- A close tag closes one element at most. -/
theorem PairedTags.unique {tags : List Tag} {i j c : Nat} {t u t' u' : Tag}
    (h : PairedTags tags i c t u) (h' : PairedTags tags j c t' u') : i = j := by
  obtain rfl : u = u' := Option.some.inj (h.closing.symm.trans h'.closing)
  have hname : t'.name = t.name :=
    (Tag.closes_iff.1 h'.closes).2.symm.trans (Tag.closes_iff.1 h.closes).2
  have hlt := h.before
  have hlt' := h'.before
  rcases Nat.lt_trichotomy i j with hij | hij | hij
  · have := h.nested h' hname hij
    omega
  · exact hij
  · have := h'.nested h hname.symm hij
    omega

/-! ## What does not matter to a pair -/

/-- A close tag closes something where an element of its name is open. -/
theorem OpenBehind.exists_pairedTags {tags : List Tag} {name : List Char} {i k inside : Nat} {x : Tag}
    (h : OpenBehind (tags.take k) name i inside) (hx : tags[k]? = some x) (hcloses : x.closes name) :
    ∃ j t, PairedTags tags j k t x := by
  have hlen := length_take_of_getElem? hx
  obtain ⟨st, hst, -⟩ := exists_holds_closerTable (tags.take k)
  have hsome := (hst.stack name inside i).2 h
  -- The stack is not empty, so an element is on top of it.
  cases hstack : st.stack name with
  | nil => simp [hstack] at hsome
  | cons j outer =>
    obtain ⟨t, ht, hopens, hdepth⟩ := (hst.stack name 0 j).1 (by simp [hstack])
    have hj : j < k := by
      have := (List.getElem?_eq_some_iff.1 ht).1
      omega
    obtain ⟨hawaits, rfl⟩ := Tag.opens_iff.1 hopens
    rw [List.getElem?_take_of_lt hj] at ht
    exact ⟨j, t, ht, hx, hj, hawaits, hcloses, balanced_iff.2 hdepth⟩

/-- The index that a tag has where the tag of another index is left out. -/
def indexWithout (k n : Nat) : Nat := if n < k then n else n - 1

theorem getElem?_eraseIdx_indexWithout {tags : List Tag} {k n : Nat} (h : n ≠ k) :
    (tags.eraseIdx k)[indexWithout k n]? = tags[n]? := by
  rw [indexWithout, List.getElem?_eraseIdx]
  grind

theorem indexWithout_lt_iff {k i c : Nat} (hi : i ≠ k) (hc : c ≠ k) :
    indexWithout k i < indexWithout k c ↔ i < c := by
  simp only [indexWithout]
  grind

theorem getElem?_tagsBetween (tags : List Tag) (i c n : Nat) :
    (tagsBetween tags i c)[n]? = if i + 1 + n < c then tags[i + 1 + n]? else none := by
  rw [tagsBetween, List.getElem?_drop, List.getElem?_take]

theorem length_tagsBetween {tags : List Tag} {i c : Nat} (hc : c ≤ tags.length) :
    (tagsBetween tags i c).length = c - (i + 1) := by
  rw [tagsBetween, List.length_drop, List.length_take, Nat.min_eq_left hc]

theorem tagsBetween_eraseIdx {tags : List Tag} {i k c : Nat} (hi : i ≠ k) (hc : c ≠ k)
    (hk : k < tags.length) :
    tagsBetween (tags.eraseIdx k) (indexWithout k i) (indexWithout k c)
      = if i < k ∧ k < c then tagsBetween tags i k ++ tagsBetween tags k c
        else tagsBetween tags i c := by
  have hlength := length_tagsBetween (i := i) (Nat.le_of_lt hk)
  apply List.ext_getElem?
  intro n
  rw [getElem?_tagsBetween, List.getElem?_eraseIdx]
  simp only [indexWithout]
  split_ifs <;> grind [getElem?_tagsBetween]

/-- Between the tags of a pair, a tag of another name does not count, and neither does a close tag that
closes nothing: none can stand there. -/
theorem balanced_without_iff {tags : List Tag} {i k : Nat} {t x : Tag} (ht : tags[i]? = some t)
    (hawaits : t.awaitsCloser) (hx : tags[k]? = some x) (hik : i < k)
    (h : x.name ≠ t.name ∨ x.isClose ∧ ∀ j, closerIndex? tags j ≠ some k) (us : List Tag) :
    Balanced t.name (tagsBetween tags i k ++ us)
      ↔ Balanced t.name (tagsBetween tags i k ++ x :: us) := by
  by_cases hname : x.name = t.name
  · obtain ⟨hclose, hstray⟩ := h.resolve_left (not_not_intro hname)
    -- If the tags in front of it are fine, the element is open there, so something is closed.
    have hbroken : ∀ vs, ¬Balanced t.name (tagsBetween tags i k ++ vs) := by
      intro vs hbal
      rw [balanced_iff, openDepth?_append, Option.bind_eq_some_iff] at hbal
      obtain ⟨d, hd, -⟩ := hbal
      have hopen : OpenBehind (tags.take k) t.name i d :=
        ⟨t, by rwa [List.getElem?_take_of_lt hik], Tag.opens_iff.2 ⟨hawaits, rfl⟩, hd⟩
      obtain ⟨j, y, hpair⟩ := hopen.exists_pairedTags hx (Tag.closes_iff.2 ⟨hclose, hname⟩)
      exact hstray j (closerIndex?_eq_some_iff.2 ⟨y, x, hpair⟩)
    exact iff_of_false (hbroken us) (hbroken (x :: us))
  · have hcloses : x.closes t.name = false := by simp [Tag.closes, hname]
    have hopens : x.opens t.name = false := by simp [Tag.opens, hname]
    simp [balanced_iff, openDepth?_append, openDepth?, hcloses, hopens]

theorem pairedTags_eraseIdx_iff {tags : List Tag} {i k c : Nat} {t u x : Tag} (hx : tags[k]? = some x)
    (hi : i ≠ k) (hc : c ≠ k)
    (h : x.name ≠ t.name ∨ x.isClose ∧ ∀ j, closerIndex? tags j ≠ some k) :
    PairedTags (tags.eraseIdx k) (indexWithout k i) (indexWithout k c) t u
      ↔ PairedTags tags i c t u := by
  obtain ⟨hk, -⟩ := List.getElem?_eq_some_iff.1 hx
  have hbal : tags[i]? = some t → t.awaitsCloser →
      (Balanced t.name (tagsBetween (tags.eraseIdx k) (indexWithout k i) (indexWithout k c))
        ↔ Balanced t.name (tagsBetween tags i c)) := by
    intro ht hawaits
    rw [tagsBetween_eraseIdx hi hc hk]
    split_ifs with hinside
    · rw [tagsBetween_split hinside.1 hinside.2 hx]
      exact balanced_without_iff ht hawaits hx hinside.1 h _
    · rfl
  constructor
  · rintro ⟨ht, hu, hlt, hawaits, hcloses, hb⟩
    rw [getElem?_eraseIdx_indexWithout hi] at ht
    rw [getElem?_eraseIdx_indexWithout hc] at hu
    exact ⟨ht, hu, (indexWithout_lt_iff hi hc).1 hlt, hawaits, hcloses, (hbal ht hawaits).1 hb⟩
  · rintro ⟨ht, hu, hlt, hawaits, hcloses, hb⟩
    refine ⟨?_, ?_, (indexWithout_lt_iff hi hc).2 hlt, hawaits, hcloses, (hbal ht hawaits).2 hb⟩
    · rwa [getElem?_eraseIdx_indexWithout hi]
    · rwa [getElem?_eraseIdx_indexWithout hc]

/-- Where a tag is left out that has another name, or that is a close tag and closes nothing, an element
keeps its close tag. -/
theorem closerIndex?_eraseIdx {tags : List Tag} {i k : Nat} {t x : Tag} (ht : tags[i]? = some t)
    (hx : tags[k]? = some x) (hi : i ≠ k)
    (h : x.name ≠ t.name ∨ x.isClose ∧ ∀ j, closerIndex? tags j ≠ some k) :
    closerIndex? (tags.eraseIdx k) (indexWithout k i)
      = (closerIndex? tags i).map (indexWithout k) := by
  have hkept : ∀ c, c ≠ k → ((∃ y u, PairedTags (tags.eraseIdx k) (indexWithout k i)
      (indexWithout k c) y u) ↔ closerIndex? tags i = some c) := by
    intro c hc
    rw [closerIndex?_eq_some_iff]
    constructor
    · rintro ⟨y, u, hpair⟩
      have hy := hpair.opening
      rw [getElem?_eraseIdx_indexWithout hi, ht] at hy
      cases hy
      exact ⟨t, u, (pairedTags_eraseIdx_iff hx hi hc h).1 hpair⟩
    · rintro ⟨y, u, hpair⟩
      obtain rfl : t = y := Option.some.inj (ht.symm.trans hpair.opening)
      exact ⟨t, u, (pairedTags_eraseIdx_iff hx hi hc h).2 hpair⟩
  apply Option.ext
  intro c'
  rw [closerIndex?_eq_some_iff, Option.map_eq_some_iff]
  constructor
  · intro hpair
    -- Every index but one is that of a tag that is kept.
    obtain ⟨c, hc, rfl⟩ : ∃ c, c ≠ k ∧ indexWithout k c = c' := by
      refine ⟨if c' < k then c' else c' + 1, ?_, ?_⟩ <;> grind [indexWithout]
    exact ⟨c, (hkept c hc).1 hpair, rfl⟩
  · rintro ⟨c, hc, rfl⟩
    have hck : c ≠ k := by
      rintro rfl
      obtain ⟨y, u, hpair⟩ := closerIndex?_eq_some_iff.1 hc
      obtain rfl : t = y := Option.some.inj (ht.symm.trans hpair.opening)
      obtain rfl : x = u := Option.some.inj (hx.symm.trans hpair.closing)
      rcases h with hname | ⟨-, hstray⟩
      · exact hname (Tag.closes_iff.1 hpair.closes).2
      · exact hstray i hc
    exact (hkept c hck).2 hc

/-! ## In a document -/

namespace Span

/-- Whether two ranges have no offset in common. -/
def Apart (r s : Span) : Prop := r.stop ≤ s.start ∨ s.stop ≤ r.start

/-- Whether a range lies in another one. -/
def Within (r s : Span) : Prop := s.start ≤ r.start ∧ r.stop ≤ s.stop

instance (r s : Span) : Decidable (r.Within s) := inferInstanceAs (Decidable (_ ∧ _))

end Span

namespace Document

variable {d : Document} {t t' u u' : Tag} {i j c e : Nat}

theorem Sound.closingIndex?_eq (hd : d.Sound) (i : Nat) :
    d.closingIndex? i = closerIndex? d.tags i := by
  rw [closingIndex?, closerIndex?, hd.closers]

theorem Sound.stop_le_start (hd : d.Sound) (ht : d.tags[i]? = some t) (hu : d.tags[j]? = some u)
    (h : i < j) : t.stop ≤ u.start := by
  obtain ⟨hi, rfl⟩ := List.getElem?_eq_some_iff.1 ht
  obtain ⟨hj, rfl⟩ := List.getElem?_eq_some_iff.1 hu
  exact List.pairwise_iff_getElem.1 hd.pairwise_tags i j hi hj h

theorem Sound.indexOf?_eq_some (hd : d.Sound) (ht : d.tags[i]? = some t) : d.indexOf? t = some i := by
  rw [hd.indexOf?_eq (take_append_cons_drop ht).symm, length_take_of_getElem? ht]

theorem Sound.closer?_eq_bind (hd : d.Sound) (ht : d.tags[i]? = some t) :
    d.closer? t = (d.closingIndex? i).bind fun c => d.tags[c]? := by
  rw [closer?, hd.indexOf?_eq_some ht, Option.bind_some]

/-- The range of an element that is closed ends with its close tag. -/
theorem Sound.elementRange_of_paired (hd : d.Sound) (h : PairedTags d.tags i c t u) :
    d.elementRange t = ⟨t.start, u.stop⟩ := by
  have hclosing : d.closingIndex? i = some c := by
    rw [hd.closingIndex?_eq]
    exact closerIndex?_eq_some_iff.2 ⟨t, u, h⟩
  have hchild : t.isChildless = false := by
    have hawaits := h.awaits
    simp only [Tag.awaitsCloser, Bool.and_eq_true, Bool.not_eq_true'] at hawaits
    exact hawaits.2
  rw [elementRange, rangeTo, hchild, hd.closer?_eq_bind h.opening, hclosing, Option.bind_some,
    h.closing]
  rfl

/-- Elements of one name that are closed lie apart or one in the other. -/
theorem Sound.apart_or_within (hd : d.Sound) (h : PairedTags d.tags i c t u)
    (h' : PairedTags d.tags j e t' u') (hname : t'.name = t.name) (hij : i < j) :
    (d.elementRange t).Apart (d.elementRange t') ∨ (d.elementRange t').Within (d.elementRange t) := by
  rw [hd.elementRange_of_paired h, hd.elementRange_of_paired h']
  rcases h.nested h' hname hij with hcj | hec
  · exact .inl (.inl (hd.stop_le_start h.closing h'.opening hcj))
  · refine .inr ⟨?_, ?_⟩
    · have := hd.stop_le_start h.opening h'.opening hij
      have := hd.tag_lt (List.mem_of_getElem? h.opening)
      simp only
      omega
    · have := hd.stop_le_start h'.closing h.closing hec
      have := hd.tag_lt (List.mem_of_getElem? h.closing)
      simp only
      omega

/-- How the tags of a document belong together and which ranges their elements have. -/
structure PairsTags (d : Document) : Prop where
  /-- a close tag closes the element of an open tag that the tags between them leave balanced -/
  closing_iff : ∀ i c, d.closingIndex? i = some c ↔ ∃ t u, PairedTags d.tags i c t u
  /-- it closes no other element -/
  unique : ∀ i j c, d.closingIndex? i = some c → d.closingIndex? j = some c → i = j
  /-- elements of one name that are closed lie apart or one in the other -/
  nested : ∀ i j t t', d.tags[i]? = some t → d.tags[j]? = some t' → t'.name = t.name → i < j →
    (d.closingIndex? i).isSome → (d.closingIndex? j).isSome →
    (d.elementRange t).Apart (d.elementRange t') ∨ (d.elementRange t').Within (d.elementRange t)
  /-- a tag of another name or a close tag that closes nothing could as well be missing -/
  unaffected : ∀ i k t x, d.tags[i]? = some t → d.tags[k]? = some x → i ≠ k →
    (x.name ≠ t.name ∨ x.isClose ∧ ∀ j, d.closingIndex? j ≠ some k) →
    closerIndex? (d.tags.eraseIdx k) (indexWithout k i) = (d.closingIndex? i).map (indexWithout k)
  /-- an element that is closed ends with its close tag -/
  range_closed : ∀ i c t u, d.closingIndex? i = some c → d.tags[i]? = some t → d.tags[c]? = some u →
    d.elementRange t = ⟨t.start, u.stop⟩
  /-- any other one extends to the end, unless its tag stands for it -/
  range_unclosed : ∀ i t, d.tags[i]? = some t → d.closingIndex? i = none →
    d.elementRange t = if t.isChildless then ⟨t.start, t.stop⟩ else ⟨t.start, byteLength d.source⟩

/-- The tags of every text are paired so. -/
theorem pairsTags_parse (source : List Char) : (parse source).PairsTags where
  closing_iff i c := by
    rw [(sound_parse source).closingIndex?_eq, closerIndex?_eq_some_iff]
  unique i j c hi hj := by
    rw [(sound_parse source).closingIndex?_eq, closerIndex?_eq_some_iff] at hi hj
    obtain ⟨t, u, h⟩ := hi
    obtain ⟨t', u', h'⟩ := hj
    exact h.unique h'
  nested i j t t' ht ht' hname hij hi hj := by
    have hd := sound_parse source
    obtain ⟨c, hc⟩ := Option.isSome_iff_exists.1 hi
    obtain ⟨e, he⟩ := Option.isSome_iff_exists.1 hj
    rw [hd.closingIndex?_eq, closerIndex?_eq_some_iff] at hc he
    obtain ⟨x, u, h⟩ := hc
    obtain ⟨x', u', h'⟩ := he
    obtain rfl : t = x := Option.some.inj (ht.symm.trans h.opening)
    obtain rfl : t' = x' := Option.some.inj (ht'.symm.trans h'.opening)
    exact hd.apart_or_within h h' hname hij
  unaffected i k t x ht hx hik hx' := by
    simp only [(sound_parse source).closingIndex?_eq] at hx' ⊢
    exact closerIndex?_eraseIdx ht hx hik hx'
  range_closed i c t u hc ht hu := by
    have hd := sound_parse source
    rw [hd.closingIndex?_eq, closerIndex?_eq_some_iff] at hc
    obtain ⟨x, y, h⟩ := hc
    obtain rfl : t = x := Option.some.inj (ht.symm.trans h.opening)
    obtain rfl : u = y := Option.some.inj (hu.symm.trans h.closing)
    exact hd.elementRange_of_paired h
  range_unclosed i t ht hnone := by
    rw [elementRange, rangeTo, (sound_parse source).closer?_eq_bind ht, hnone]
    rfl

/-- An element that is not closed need not extend to the end, void or not: a self-closing tag stands for
it. -/
theorem elementRange_selfClosing_p :
    let d := parse "<p/>x".toList
    (d.tags[0]?.map fun t => (t.isOpen, isVoidName t.name, d.elementRange t))
        = some (true, false, ⟨0, 4⟩)
      ∧ d.closingIndex? 0 = none ∧ d.size = 5 := by
  decide +kernel

end Document

end MarkupGate
