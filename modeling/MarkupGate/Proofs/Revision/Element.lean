import MarkupGate.Proofs.Revision.Document

/-!
# Elements of revised documents

Corresponding tags have corresponding elements: their close tags correspond, what they contain reads
the same, and a tag lies inside one where its counterpart lies inside the other. The elements that a
repair inserts hold no text and no images and close nothing but themselves, so they are never missed.

* `accessibleText`: what an element says.
* `filterMap_tagsInside`: what lies inside the elements of a name.
* `inHead`: what lies in the head, also where a repair has inserted the head.
* `flatMap_rawBlocksNamed`: the scripts and styles.
-/

namespace MarkupGate

/-- Close tags are found for corresponding tags or for neither. -/
theorem findCloser_new {unread : List String} {T : Track Tag} (name : List Char)
    (hmatched : ∀ t t', (some t, t') ∈ T → t.Alike unread t')
    (hadded : ∀ t', (none, t') ∈ T → t'.name ≠ name) (pending : Nat) :
    Option.Rel (fun t t' => (some t, t') ∈ T) (findCloser name pending (Track.old T))
      (findCloser name pending (Track.new T)) := by
  induction T generalizing pending with
  | nil => exact .none
  | cons x T ih =>
    have ih : ∀ n, Option.Rel (fun t t' => (some t, t') ∈ x :: T) (findCloser name n (Track.old T))
        (findCloser name n (Track.new T)) := by
      intro n
      exact Track.rel_mono (fun _ => List.mem_cons_of_mem _)
        (ih (fun t t' h => hmatched t t' (List.mem_cons_of_mem _ h))
          (fun t' h => hadded t' (List.mem_cons_of_mem _ h)) n)
    obtain ⟨o, t'⟩ := x
    cases o with
    | none =>
      have hne := hadded t' (by simp)
      simpa [findCloser, hne] using ih pending
    | some t =>
      have halike := hmatched t t' (by simp)
      simp only [Track.old_cons_some, Track.new_cons, findCloser, halike.name, halike.isClose,
        halike.isChildless]
      split
      · exact ih pending
      split
      · cases pending with
        | zero => exact .some (by simp)
        | succ n => exact ih n
      split
      · exact ih pending
      · exact ih (pending + 1)

/-- Marking what lies inside elements of a name. -/
theorem filterMap_markInside {unread : List String} {β : Type} {T : Track Tag} {name : List Char}
    {f f' : Tag × Bool → Option β} (hmatched : ∀ t t', (some t, t') ∈ T → t.Alike unread t')
    (hadded : ∀ t', (none, t') ∈ T → t'.name ≠ name)
    (hf : ∀ t t', (some t, t') ∈ T → ∀ b, f' (t', b) = f (t, b))
    (hf' : ∀ t', (none, t') ∈ T → ∀ b, f' (t', b) = none) (depth : Nat) :
    (markInside name depth (Track.new T)).filterMap f'
      = (markInside name depth (Track.old T)).filterMap f := by
  induction T generalizing depth with
  | nil => rfl
  | cons x T ih =>
    have ih := ih (fun t t' h => hmatched t t' (List.mem_cons_of_mem _ h))
      (fun t' h => hadded t' (List.mem_cons_of_mem _ h))
      (fun t t' h => hf t t' (List.mem_cons_of_mem _ h))
      (fun t' h => hf' t' (List.mem_cons_of_mem _ h))
    obtain ⟨o, t'⟩ := x
    cases o with
    | none =>
      have hdepth : t'.depthBehind name depth = depth := by
        simp [Tag.depthBehind, hadded t' (by simp)]
      simp only [Track.old_cons_none, Track.new_cons, markInside, List.filterMap_cons,
        hf' t' (by simp), hdepth, ih]
    | some t =>
      simp only [Track.old_cons_some, Track.new_cons, markInside, List.filterMap_cons,
        hf t t' (by simp), (hmatched t t' (by simp)).depthBehind, ih]

namespace Document.Revision

variable {kind : FixKind} {g g' : Nat → Nat} {d d' : Document} {p p' q q' : Located Piece}
  {t t' : Tag}

/-- A piece and its counterpart split their documents into corresponding parts. -/
theorem split (rev : d.Revision kind g g' d') (h : (some p, p') ∈ rev.track) :
    ∃ T U, rev.track = T ++ (some p, p') :: U ∧ d.pieces = (rev.lead ++ (Track.old T)) ++ p :: (Track.old U)
      ∧ d'.pieces = (rev.lead' ++ (Track.new T)) ++ p' :: (Track.new U) := by
  obtain ⟨T, U, htrack⟩ := List.append_of_mem h
  refine ⟨T, U, htrack, ?_, ?_⟩
  · rw [rev.pieces, htrack]
    simp
  · rw [rev.pieces', htrack]
    simp

theorem closer? (rev : d.Revision kind g g' d') (h : (some t, t') ∈ rev.tags)
    (hname : ∀ u', (none, u') ∈ rev.tags → u'.name ≠ t.name) :
    Option.Rel (fun t t' => (some t, t') ∈ rev.tags) (d.closer? t) (d'.closer? t') := by
  obtain ⟨p, p', hp, ht, ht'⟩ := rev.mem_tags.1 h
  obtain ⟨T, U, htrack, hpieces, hpieces'⟩ := rev.split hp
  have halike := rev.alike h
  rw [Document.closer?_eq rev.sound hpieces ht, Document.closer?_eq rev.sound' hpieces' ht']
  simp only [closerAmong?, halike.awaitsCloser, halike.name]
  by_cases hcloser : t.awaitsCloser
  · have hsub : ∀ x ∈ Track.pick Piece.tag? U, x ∈ rev.tags := by
      rintro ⟨o, u'⟩ hu
      obtain ⟨v, q', hq, h1, h2⟩ := Track.mem_pick.1 hu
      exact Track.mem_pick.2 ⟨v, q', by rw [htrack]; simp [hq], h1, h2⟩
    have hclosers := findCloser_new (T := Track.pick Piece.tag? U) t.name
      (fun u u' hu => rev.alike (hsub _ hu)) (fun u' hu => hname u' (hsub _ hu)) 0
    rw [Track.new_pick, Track.old_pick fun a b hab =>
      (rev.matched a b (by rw [htrack]; simp [hab])).item.opens] at hclosers
    rw [if_pos hcloser, if_pos hcloser]
    exact Track.rel_mono hsub hclosers
  · rw [if_neg hcloser, if_neg hcloser]
    exact .none

/-! ### Content -/

/-- The pieces of the content of corresponding elements correspond. -/
theorem contentPieces_new (rev : d.Revision kind g g' d') {U : Track (Located Piece)}
    (hU : ∀ x ∈ U, x ∈ rev.track) (h : t.Alike kind.writes t') (hname : isHeadName t.name = false) :
    ∃ V : Track (Located Piece), (∀ x ∈ V, x ∈ rev.track) ∧ contentPieces t (Track.old U) = (Track.old V)
      ∧ contentPieces t' (Track.new U) = (Track.new V) := by
  simp only [contentPieces, h.isChildless, h.name]
  by_cases hchild : t.isChildless
  · exact ⟨[], by simp, by simp [hchild], by simp [hchild]⟩
  · simp only [hchild, Bool.false_eq_true, if_false]
    let other (q : Located Piece) : Bool := (Piece.tag? q).all fun u => u.name ≠ t.name
    obtain ⟨hold, hnew⟩ := Track.takeWhile_new (T := U) other other
      (fun p p' hp => by
        simp only [other]
        have := (rev.matched p p' (hU _ hp)).item.tag?
        revert this
        generalize Piece.tag? p = o
        generalize Piece.tag? p' = o'
        rintro (hu | _)
        · simp [hu.name]
        · rfl)
      (fun p' hp => by
        cases ht : Piece.tag? p' with
        | none => simp [other, ht]
        | some u =>
          have := rev.ne_of_added t.name hname u
            (Track.mem_pick.2 ⟨none, p', hU _ hp, ht, rfl⟩)
          simpa [other, ht] using this)
    exact ⟨_, fun x hx => hU x (List.takeWhile_subset _ hx), hold, hnew⟩

/-- An added piece has neither text nor code. -/
theorem text?_of_added (rev : d.Revision kind g g' d') (h : (none, p') ∈ rev.track) :
    Piece.text? p' = none ∧ ∀ i, Piece.raw? p' i = none := by
  obtain ⟨start, item⟩ := p'
  rcases rev.item_of_added h with rfl | rfl | ⟨u, hu, rfl⟩
  · exact ⟨rfl, fun _ => rfl⟩
  · exact ⟨rfl, fun _ => rfl⟩
  · obtain ⟨-, rfl⟩ | ⟨-, rfl⟩ := FixKind.headTag?_eq_some hu <;> exact ⟨rfl, fun _ => rfl⟩

/-- The texts of corresponding pieces are the same. -/
theorem filterMap_text? (rev : d.Revision kind g g' d') {V : Track (Located Piece)}
    (hV : ∀ x ∈ V, x ∈ rev.track) :
    ((Track.new V).filterMap Piece.text?).map TextRun.text
      = ((Track.old V).filterMap Piece.text?).map TextRun.text := by
  simp only [List.map_filterMap]
  exact Track.filterMap_new (fun p p' h => (rev.matched p p' (hV _ h)).item.text?)
    (fun p' h => by rw [(rev.text?_of_added (hV _ h)).1]; rfl)

/-- What an element says is what it said before. -/
theorem accessibleText (rev : d.Revision kind g g' d') (h : (some t, t') ∈ rev.tags)
    (hopen : t.isOpen) (hname : isHeadName t.name = false) :
    d'.accessibleText t' = d.accessibleText t ∧ d'.innerText t' = d.innerText t := by
  obtain ⟨p, p', hp, ht, ht'⟩ := rev.mem_tags.1 h
  obtain ⟨T, U, htrack, hpieces, hpieces'⟩ := rev.split hp
  have halike := rev.alike h
  have hU : ∀ x ∈ U, x ∈ rev.track := fun x hx => by rw [htrack]; simp [hx]
  obtain ⟨V, hV, hold, hnew⟩ := rev.contentPieces_new hU halike hname
  have htexts : contentTexts p' t' (Track.new U) = contentTexts p t (Track.old U) := by
    have := rev.filterMap_text? (V := (some p, p') :: V) (fun x hx => by
      rcases List.mem_cons.1 hx with rfl | hx
      · exact hp
      · exact hV x hx)
    simp only [contentTexts, halike.isChildless, hold, hnew]
    simp only [Track.old_cons_some, Track.new_cons] at this
    rw [this]
  have himages : ((contentPieces t' (Track.new U)).filterMap Piece.tag?).filterMap imageText?
      = ((contentPieces t (Track.old U)).filterMap Piece.tag?).filterMap imageText? := by
    rw [hold, hnew, List.filterMap_filterMap, List.filterMap_filterMap]
    apply Track.filterMap_new
    · intro q q' hq
      have := (rev.matched q q' (hV _ hq)).item.tag?
      revert this
      generalize Piece.tag? q = o
      generalize Piece.tag? q' = o'
      rintro (hu | _)
      · simp only [Option.bind_some, imageText?, hu.isOpen, hu.name,
          hu.value? (kind.not_mem_writes "alt" (by decide))]
      · rfl
    · intro q' hq
      cases hu : Piece.tag? q' with
      | none => rfl
      | some u =>
        have := rev.ne_of_added "img".toList (by decide) u
          (Track.mem_pick.2 ⟨none, q', hV _ hq, hu, rfl⟩)
        rw [Option.bind_some, imageText?, decide_eq_false this, Bool.and_false,
          if_neg Bool.false_ne_true]
  have htext : d'.textIn (d'.contentRange t') = d.textIn (d.contentRange t) := by
    rw [Document.textIn_contentRange rev.sound' hpieces' ht' (halike.isOpen ▸ hopen),
      Document.textIn_contentRange rev.sound hpieces ht hopen, htexts]
  refine ⟨?_, htext⟩
  simp only [Document.accessibleText, htext]
  rw [Document.imageTextsIn_contentRange rev.sound' hpieces' ht' (halike.isOpen ▸ hopen),
    Document.imageTextsIn_contentRange rev.sound hpieces ht hopen, himages]

/-- What lies inside the elements of a name, if none of the name is added. -/
theorem filterMap_tagsInside {β : Type} (rev : d.Revision kind g g' d') {name : String}
    (hname : isHeadName name.toList = false) {f f' : Tag × Bool → Option β}
    (hf : ∀ t t', (some t, t') ∈ rev.tags → ∀ b, f' (t', b) = f (t, b))
    (hf' : ∀ t', (none, t') ∈ rev.tags → ∀ b, f' (t', b) = none) :
    (d'.tagsInside name).filterMap f' = (d.tagsInside name).filterMap f := by
  simp only [Document.tagsInside]
  rw [← rev.old_tags, ← rev.new_tags]
  exact filterMap_markInside (fun t t' h => rev.alike h) (rev.ne_of_added _ hname) hf hf' 0

/-- What is found in the code of a piece is found in that of its counterpart, if it depends on what the
code says and on the lines it is on. -/
theorem codeFindings_eq {β : Type} (rev : d.Revision kind g g' d') (hp : (some p, p') ∈ rev.track)
    {name : String} {F F' : Nat → List Char → Tag → List β}
    (hF : ∀ t t' s s' text, (some t, t') ∈ rev.tags →
      (∀ n ≤ byteLength text, g' (d'.line (s' + n)) = g (d.line (s + n))) →
      F' s' text t' = F s text t) :
    codeFindings name F' p' = codeFindings name F p := by
  have hmatches := rev.matched p p' hp
  have hraw := hmatches.item.raw? 0
  have hopens := hmatches.item.opens
  cases ht : Piece.tag? p with
  | none =>
    have : Piece.tag? p' = none := by simpa [ht] using hopens
    simp [codeFindings, codeNamed?, ht, this]
  | some t =>
    obtain ⟨t', ht'⟩ : ∃ t', Piece.tag? p' = some t' := Option.isSome_iff_exists.1 (by
      simpa [ht] using hopens)
    have hmem : (some t, t') ∈ rev.tags := rev.mem_tags.2 ⟨p, p', hp, ht, ht'⟩
    cases hb : Piece.raw? p 0 with
    | none =>
      have : Piece.raw? p' 0 = none := by simpa [hb] using hraw
      simp [codeFindings, codeNamed?, ht, ht', hb, this]
    | some b =>
      obtain ⟨b', hb', htext⟩ : ∃ b', Piece.raw? p' 0 = some b' ∧ b'.text = b.text := by
        simpa [hb] using hraw
      have := hF t t' b.start b'.start b.text hmem (hmatches.codeLine b b' hb hb')
      by_cases hname : t.name = name.toList <;>
        simp [codeFindings, codeNamed?, ht, ht', hb, hb', (rev.alike hmem).name, hname, htext, this]

/-- What is found in scripts or styles, if it depends on what they say and on the lines it is on. -/
theorem flatMap_rawBlocksNamed {β : Type} (rev : d.Revision kind g g' d') (name : String)
    (F F' : Nat → List Char → Tag → List β)
    (hF : ∀ t t' s s' text, (some t, t') ∈ rev.tags →
      (∀ n ≤ byteLength text, g' (d'.line (s' + n)) = g (d.line (s + n))) →
      F' s' text t' = F s text t) :
    (d'.rawBlocksNamed name).flatMap (fun (b, t) => F' b.start b.text t)
      = (d.rawBlocksNamed name).flatMap fun (b, t) => F b.start b.text t := by
  have hlead : ∀ (G : Nat → List Char → Tag → List β) (ps : List (Located Piece)),
      (∀ p ∈ ps, Piece.tag? p = none) → ps.flatMap (codeFindings name G) = [] := by
    intro G ps hps
    apply List.flatMap_eq_nil_iff.2
    intro p hp
    simp [codeFindings, codeNamed?, hps p hp]
  rw [Document.flatMap_rawBlocksNamed rev.sound', Document.flatMap_rawBlocksNamed rev.sound,
    rev.pieces, rev.pieces', List.flatMap_append, List.flatMap_append,
    hlead F rev.lead fun p hp => rev.lead_tag p (by simp [hp]),
    hlead F' rev.lead' fun p hp => rev.lead_tag p (by simp [hp])]
  simp only [List.nil_append]
  apply Track.flatMap_new
  · exact fun p p' hp => rev.codeFindings_eq hp hF
  · intro p' hp
    have := (rev.text?_of_added hp).2 0
    cases ht : Piece.tag? p' <;> simp [codeFindings, codeNamed?, ht, this]

/-! ### Ranges -/

/-- A tag and a piece stand in the same order as their counterparts. -/
theorem tag_start_le_iff (rev : d.Revision kind g g' d') (h : (some t, t') ∈ rev.tags)
    (hp : (some p, p') ∈ rev.track) :
    (t'.start ≤ p'.start ↔ t.start ≤ p.start) ∧ (p'.start ≤ t'.start ↔ p.start ≤ t.start)
      ∧ (p'.start < t'.stop ↔ p.start < t.stop) := by
  obtain ⟨q, q', hq, ht, ht'⟩ := rev.mem_tags.1 h
  have hstart := (Piece.tag?_range ht).1
  have hstart' := (Piece.tag?_range ht').1
  have hle := rev.start_le_iff hp hq
  have hge := rev.start_le_iff hq hp
  rw [rev.sound.start_lt_stop_iff (rev.mem_pieces hp).1 (rev.mem_pieces hq).1 ht,
    rev.sound'.start_lt_stop_iff (rev.mem_pieces hp).2 (rev.mem_pieces hq).2 ht', hstart, hstart']
  exact ⟨hge, hle, hle⟩

/-- A piece begins in the range of an element where its counterpart begins in the range of the
counterpart. -/
theorem contains_rangeTo (rev : d.Revision kind g g' d') (h : (some t, t') ∈ rev.tags)
    (hp : (some p, p') ∈ rev.track) {c c' : Option Tag}
    (hc : Option.Rel (fun t t' => (some t, t') ∈ rev.tags) c c') :
    (d'.rangeTo t' c').contains p'.start = (d.rangeTo t c).contains p.start := by
  obtain ⟨hle, -, hlt⟩ := rev.tag_start_le_iff h hp
  simp only [Document.rangeTo, (rev.alike h).isChildless]
  split
  · simp [Span.contains, hle, hlt]
  · rcases hc with hc | _
    · obtain ⟨-, -, hlt⟩ := rev.tag_start_le_iff hc hp
      simp [Span.contains, hle, hlt]
    · have hsize : p.start < d.size := by
        have := rev.sound.inOrder.start_lt_stop (rev.mem_pieces hp).1
        have := rev.sound.inOrder.stop_le p (rev.mem_pieces hp).1
        omega
      have hsize' : p'.start < d'.size := by
        have := rev.sound'.inOrder.start_lt_stop (rev.mem_pieces hp).2
        have := rev.sound'.inOrder.stop_le p' (rev.mem_pieces hp).2
        omega
      simp [Span.contains, hle, hsize, hsize']

/-- Where no head was opened, one that is added in front of all else that is added is the first. -/
theorem firstOpen?_of_inserted (rev : d.Revision kind g g' d') (hhead : d.firstOpen? "head" = none)
    {T U : Track (Located Piece)} {h : Located Piece} {th : Tag}
    (htrack : rev.track = T ++ (none, h) :: U) (hrest : ∀ q', (none, q') ∉ T)
    (hth : Piece.tag? h = some th) (hopen : th.isOpen) (hname : th.name = "head".toList) :
    d'.firstOpen? "head" = some th := by
  -- No tag in front of the new head opens a head: it would have done so before.
  have hnone : ∀ t' ∈ (rev.lead' ++ T.new).filterMap Piece.tag?,
      ¬(t'.isOpen && t'.name = "head".toList) := by
    intro t' ht'
    obtain ⟨q', hq', hqt'⟩ := List.mem_filterMap.1 ht'
    rcases List.mem_append.1 hq' with hq' | hq'
    · simp [rev.lead_tag q' (by simp [hq'])] at hqt'
    obtain ⟨⟨o, r⟩, hr, rfl⟩ := List.mem_map.1 hq'
    cases o with
    | none => exact absurd hr (hrest r)
    | some q =>
      have hmem : (some q, r) ∈ rev.track := by rw [htrack]; simp [hr]
      obtain ⟨t, ht⟩ : ∃ t, Piece.tag? q = some t := Option.isSome_iff_exists.1 (by
        rw [← (rev.matched q r hmem).item.opens, hqt']
        rfl)
      have halike := rev.alike (rev.mem_tags.2 ⟨q, r, hmem, ht, hqt'⟩)
      have htags : t ∈ d.tags := by
        rw [rev.sound.tags_eq]
        exact List.mem_filterMap.2 ⟨q, (rev.mem_pieces hmem).1, ht⟩
      have := List.find?_eq_none.1 hhead t htags
      rw [halike.isOpen, halike.name]
      exact this
  have hpieces' : d'.pieces = (rev.lead' ++ T.new) ++ h :: U.new := by
    rw [rev.pieces', htrack]
    simp
  rw [Document.firstOpen?, rev.sound'.tags_eq, hpieces', List.filterMap_append, List.find?_append,
    List.find?_eq_none.2 hnone]
  simp [hth, hopen, hname]

/-- A head that a repair has inserted is the head of the document, and holds nothing else. -/
theorem inHead_of_inserted (rev : d.Revision kind g g' d') (hhead : d.firstOpen? "head" = none)
    {u : OpenTag} {T U : Track (Located Piece)} {h m c : Located Piece}
    (hu : kind.headTag? = some u)
    (htrack : rev.track = T ++ (none, h) :: (none, m) :: (none, c) :: U) (hh : h.item = headOpening)
    (hm : m.item = .openTag u []) (hc : c.item = headClosing) (hrest : ∀ q', (none, q') ∉ T ++ U)
    (hp : (some p, p') ∈ T ++ U) : d'.inHead p'.start = false := by
  obtain ⟨th, hth, hthname⟩ : ∃ th, Piece.tag? h = some th ∧ th.isOpen ∧ th.selfClosing = false
      ∧ th.name = "head".toList := by
    obtain ⟨start, item⟩ := h
    subst hh
    exact ⟨_, rfl, rfl, rfl, rfl⟩
  obtain ⟨tm, htm, htmname⟩ : ∃ tm, Piece.tag? m = some tm ∧ tm.name = "meta".toList := by
    obtain ⟨start, item⟩ := m
    subst hm
    refine ⟨_, rfl, ?_⟩
    obtain ⟨-, rfl⟩ | ⟨-, rfl⟩ := FixKind.headTag?_eq_some hu <;> rfl
  obtain ⟨tc, htc, htcname⟩ : ∃ tc, Piece.tag? c = some tc ∧ tc.isClose
      ∧ tc.name = "head".toList := by
    obtain ⟨start, item⟩ := c
    subst hc
    exact ⟨_, rfl, rfl, rfl⟩
  have hpieces' : d'.pieces = (rev.lead' ++ T.new) ++ h :: ([m, c] ++ U.new) := by
    rw [rev.pieces', htrack]
    simp
  have hfirst : d'.firstOpen? "head" = some th :=
    rev.firstOpen?_of_inserted hhead htrack (fun q' hq' => hrest q' (List.mem_append_left U hq')) hth
      hthname.1 hthname.2.2
  have hcloser : d'.closer? th = some tc := by
    rw [Document.closer?_eq rev.sound' hpieces' hth]
    simp [closerAmong?, Tag.awaitsCloser, Tag.isChildless, hthname, htm, htc, findCloser, htmname,
      htcname, isVoidName, voidNames]
  have hrange : d'.headRange? = some ⟨th.start, tc.stop⟩ := by
    simp [Document.headRange?, hfirst, hcloser, Document.elementRange, Document.rangeTo,
      Tag.isChildless, hthname, isVoidName, voidNames]
  obtain ⟨hbefore, hbehind⟩ := (hpieces' ▸ rev.sound'.inOrder).before_behind
  have hhstart := (Piece.tag?_range hth).1
  have hcstop := (Piece.tag?_range htc).2.2
  have hin : p' ∈ T.new ∨ p' ∈ U.new := by
    rcases List.mem_append.1 hp with hp | hp
    · exact .inl (List.mem_map.2 ⟨_, hp, rfl⟩)
    · exact .inr (List.mem_map.2 ⟨_, hp, rfl⟩)
  have hpp' := rev.sound'.inOrder.start_lt_stop (p := p') (by
    rw [hpieces']
    rcases hin with hin | hin <;> simp [hin])
  rw [Document.inHead, hrange]
  simp only [Option.any_some, Span.contains, Bool.and_eq_false_iff, decide_eq_false_iff_not]
  rcases hin with hin | hin
  · have := hbefore p' (by simp [hin])
    omega
  · obtain ⟨-, hbehind⟩ := (show d'.pieces = (rev.lead' ++ T.new ++ [h, m]) ++ c :: U.new by
      simp [hpieces']) ▸ rev.sound'.inOrder |>.before_behind
    have := hbehind p' hin
    omega

/-- A piece lies in the head where its counterpart does. -/
theorem inHead (rev : d.Revision kind g g' d') (hp : (some p, p') ∈ rev.track) :
    d'.inHead p'.start = d.inHead p.start := by
  rcases rev.inserted with hins | ⟨hhead, u, T, U, h, m, c, hu, htrack, hh, hm, hc, hrest⟩
  · have hadded : ∀ t', (none, t') ∈ rev.tags → t'.name ≠ "head".toList := by
      intro t' ht'
      obtain ⟨⟨start, item⟩, hp', htag⟩ := rev.mem_tags_none ht'
      obtain ⟨u, hu, rfl⟩ := hins _ hp'
      cases htag
      obtain ⟨-, rfl⟩ | ⟨-, rfl⟩ := FixKind.headTag?_eq_some hu <;>
        simp [OpenTag.place, charsetTag, viewportTag, metaTag, asciiLower]
    have hbody := rev.firstOpen? "body" fun t' h _ =>
      rev.ne_of_added _ (by decide) t' h
    have hfirst := rev.firstOpen? "head" fun t' h _ => hadded t' h
    have hname := fun t (h : d.firstOpen? "head" = some t) => List.find?_some h
    simp only [Document.inHead, Document.headRange?, Document.elementRange]
    revert hfirst hname
    generalize d.firstOpen? "head" = o
    generalize d'.firstOpen? "head" = o'
    rintro (h | _) hname
    · rename_i t t'
      have hcloser := rev.closer? h fun u' hu' => by
        have := hname t rfl
        simp only [Bool.and_eq_true, decide_eq_true_eq] at this
        rw [this.2]
        exact hadded u' hu'
      have helement := rev.contains_rangeTo h hp hcloser
      obtain ⟨hle, -, -⟩ := rev.tag_start_le_iff h hp
      simp only [Option.map_some, Option.any_some]
      revert hcloser hbody helement
      generalize d.closer? t = c
      generalize d'.closer? t' = c'
      generalize d.firstOpen? "body" = b
      generalize d'.firstOpen? "body" = b'
      rintro (hb | _) (hc | _) helement
      · exact helement
      · obtain ⟨hble, -, -⟩ := rev.tag_start_le_iff hb hp
        rw [Bool.eq_iff_iff]
        simp only [Span.contains, Bool.and_eq_true, decide_eq_true_eq]
        omega
      · exact helement
      · exact helement
    · rfl
  · have hin : d.inHead p.start = false := by simp [Document.inHead, Document.headRange?, hhead]
    rw [hin]
    refine rev.inHead_of_inserted hhead hu htrack hh hm hc hrest (p := p) ?_
    rw [htrack] at hp
    simpa using hp

end Document.Revision

end MarkupGate
