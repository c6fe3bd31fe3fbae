import MarkupGate.Fix.Repair
import MarkupGate.Proofs.Markup.Order
import MarkupGate.Proofs.Markup.Track
import MarkupGate.Proofs.Revision.Tag

/-!
# Revised documents

What a repair does to a document, as far as rules can tell: open tags say something else about the
attributes that the repair writes, and the elements that it inserts stand between the others. A
`Revision` follows every piece of the old document into the new one.

The queries of a document are answered alike on both sides of a revision. Tags correspond to tags,
and what is asked about a tag is answered as it was for the tag it comes from: its element, its text,
the images in it, whether it lies in the head.

Lines need not stay. A revision comes with two functions of line numbers, one for each side, that
agree on the lines of corresponding places: a repair that adds a line says how lines move, and where
lines do not matter both functions forget them.
-/

namespace MarkupGate

/-! ## What repairs write -/

/-- The opening of a new head. -/
def headOpening : Piece := .openTag ⟨"head".toList, [], false⟩ []

/-- The end of a new head. -/
def headClosing : Piece := .closeTag "head".toList []

/-- A `meta` tag with some attributes in double quotes. -/
def metaTag (attrs : List (String × String)) : OpenTag where
  name := "meta".toList
  parts := attrs.flatMap fun (name, text) =>
    [.filler [' '], .attr (WrittenAttr.quoted name.toList text.toList)]
  selfClosing := false

/-- The tag that declares UTF-8. -/
def charsetTag : OpenTag := metaTag [("charset", "UTF-8")]

/-- The tag that sets the viewport. -/
def viewportTag : OpenTag :=
  metaTag [("name", "viewport"), ("content", "width=device-width, initial-scale=1.0")]

namespace FixKind

/-- The attributes that a repair writes. -/
def writes : FixKind → List String
  | insertCharset => ["charset", "content"]
  | insertLang => ["lang"]
  | lazyLoadImages => ["loading"]
  | secureTargetBlank => ["rel"]
  | insertDoctype | insertViewport => []

/-- The attributes that repairs write are few. -/
theorem not_mem_writes (kind : FixKind) (name : String)
    (h : name ∉ ["charset", "content", "lang", "loading", "rel"]) : name ∉ kind.writes := by
  cases kind <;> simp_all [writes]

/-- No attribute is written by two repairs. -/
theorem not_mem_writes_of_ne {kind other : FixKind} {name : String} (hname : name ∈ other.writes)
    (hkind : kind ≠ other) : name ∉ kind.writes := by
  intro h
  cases kind <;> cases other <;> simp_all [writes]

/-- The tag that a repair puts into the head. -/
def headTag? : FixKind → Option OpenTag
  | insertCharset => some charsetTag
  | insertViewport => some viewportTag
  | _ => none

theorem headTag?_eq_some {kind : FixKind} {t : OpenTag} (h : kind.headTag? = some t) :
    kind = insertCharset ∧ t = charsetTag ∨ kind = insertViewport ∧ t = viewportTag := by
  cases kind <;> cases h
  · exact .inl ⟨rfl, rfl⟩
  · exact .inr ⟨rfl, rfl⟩

theorem names_headTag? {kind : FixKind} {t : OpenTag} (h : kind.headTag? = some t) :
    ∀ c ∈ t.contents, c.1 ∈ ["charset", "name", "content"].map String.toList := by
  obtain ⟨-, rfl⟩ | ⟨-, rfl⟩ := headTag?_eq_some h <;> decide

end FixKind

/-! ## Revised pieces -/

/-- A piece and what a repair that writes some attributes makes of it. -/
inductive Piece.Revised (written : List String) : Piece → Piece → Prop
  | same (p : Piece) : Revised written p p
  | tag {t t' : OpenTag} (content : List Char) (name : t'.name = t.name)
      (selfClosing : t'.selfClosing = t.selfClosing)
      (contents : t'.contents.filter (fun c => c.1 ∉ written.map String.toList)
        = t.contents.filter fun c => c.1 ∉ written.map String.toList)
      (missing : isMissing ((t'.place 0).value? "content")
        = isMissing ((t.place 0).value? "content")) :
      Revised written (.openTag t content) (.openTag t' content)

theorem OpenTag.value?_place (t : OpenTag) (start : Nat) (name : String) :
    (t.place start).value? name = (t.place 0).value? name := by
  rw [Tag.value?_eq, Tag.value?_eq, Tag.map_content_attr?, Tag.map_content_attr?, Tag.contents,
    Tag.contents, OpenTag.map_content_place, OpenTag.map_content_place]

namespace Piece.Revised

variable {written : List String} {p p' : Located Piece}

/-- A revised piece has a tag like the old one, or neither has a tag. -/
theorem tag? (h : Revised written p.item p'.item) :
    Option.Rel (Tag.Alike written) (Piece.tag? p) (Piece.tag? p') := by
  obtain ⟨start, item⟩ := p
  obtain ⟨start', item'⟩ := p'
  have hopen : ∀ t t' : OpenTag, t'.name = t.name → t'.selfClosing = t.selfClosing →
      t'.contents.filter (fun c => c.1 ∉ written.map String.toList)
        = t.contents.filter (fun c => c.1 ∉ written.map String.toList) →
      isMissing ((t'.place 0).value? "content") = isMissing ((t.place 0).value? "content") →
      Tag.Alike written (t.place start) (t'.place start') := by
    intro t t' hname hself hcontents hmissing
    refine ⟨by simp [OpenTag.place, hname], rfl, hself, ?_, ?_⟩
    · simpa only [Tag.contents, OpenTag.map_content_place] using hcontents
    · rwa [OpenTag.value?_place, OpenTag.value?_place t]
  cases h with
  | same =>
    cases item with
    | openTag t content => exact .some (hopen t t rfl rfl rfl rfl)
    | closeTag name trailing => exact .some ⟨rfl, rfl, rfl, rfl, rfl⟩
    | _ => exact .none
  | tag content name selfClosing contents missing =>
    exact .some (hopen _ _ name selfClosing contents missing)

theorem opens (h : Revised written p.item p'.item) :
    (Piece.tag? p').isSome = (Piece.tag? p).isSome := by
  have := h.tag?
  revert this
  generalize Piece.tag? p = o
  generalize Piece.tag? p' = o'
  rintro (_ | _) <;> rfl

/-- The text of a piece is not revised. -/
theorem text? (h : Revised written p.item p'.item) :
    (Piece.text? p').map TextRun.text = (Piece.text? p).map TextRun.text := by
  obtain ⟨start, item⟩ := p
  obtain ⟨start', item'⟩ := p'
  cases h with
  | same =>
    cases item with
    | openTag t content => simp only [Piece.text?]; split <;> rfl
    | _ => rfl
  | tag content name selfClosing contents missing =>
    simp only [Piece.text?, OpenTag.opensTextOnly, name, selfClosing]
    split <;> rename_i hopens <;> simp [hopens]

/-- Nor is its code. -/
theorem raw? (h : Revised written p.item p'.item) (i : Nat) :
    (Piece.raw? p' i).map RawBlock.text = (Piece.raw? p i).map RawBlock.text := by
  obtain ⟨start, item⟩ := p
  obtain ⟨start', item'⟩ := p'
  cases h with
  | same =>
    cases item with
    | openTag t content => simp only [Piece.raw?]; split <;> rfl
    | _ => rfl
  | tag content name selfClosing contents missing =>
    simp only [Piece.raw?, OpenTag.opensRaw, name, selfClosing]
    split <;> rename_i hopens <;> simp [hopens]

theorem isDoctype (h : Revised written p.item p'.item) :
    p'.item.isDoctype = p.item.isDoctype := by
  obtain ⟨start, item⟩ := p
  obtain ⟨start', item'⟩ := p'
  cases h <;> rfl

end Piece.Revised

/-! ## Revisions -/

/-- A piece and the one that comes from it, each in its document: it is revised at most, and the two
functions of lines agree on where it begins and on where its code stands. -/
structure Piece.Matches (written : List String) (g g' : Nat → Nat) (d d' : Document)
    (p p' : Located Piece) : Prop where
  item : Piece.Revised written p.item p'.item
  line : g' (d'.line p'.start) = g (d.line p.start)
  codeLine : ∀ b b', Piece.raw? p 0 = some b → Piece.raw? p' 0 = some b' →
    ∀ n ≤ byteLength b.text, g' (d'.line (b'.start + n)) = g (d.line (b.start + n))

/-- What a repair adds: a tag for the head, or that tag in a new head of a document without one. -/
def InsertedBy (kind : FixKind) (d : Document) (track : Track (Located Piece)) : Prop :=
  (∀ p', (none, p') ∈ track → ∃ t, kind.headTag? = some t ∧ p'.item = .openTag t [])
    ∨ d.firstOpen? "head" = none ∧ ∃ t T U h m c, kind.headTag? = some t
      ∧ track = T ++ (none, h) :: (none, m) :: (none, c) :: U
      ∧ h.item = headOpening ∧ m.item = .openTag t [] ∧ c.item = headClosing
      ∧ ∀ p', (none, p') ∉ T ++ U

/-- The content of some pieces of text. -/
def solidUnits (ps : List (Located Piece)) : Nat :=
  (ps.map fun p => ((Piece.text? p).map fun r =>
    byteLength (r.text.filter fun c => !isMarkupSpace c)).getD 0).sum

/-- A document and what a repair makes of it. Only a document type comes with pieces in front of all
others that correspond to nothing. -/
structure Document.Revision (kind : FixKind) (g g' : Nat → Nat) (d d' : Document) where
  sound : d.Sound
  sound' : d'.Sound
  /-- pieces in front of all that are followed -/
  lead : List (Located Piece)
  /-- pieces in front of all that are followed, in the new document -/
  lead' : List (Located Piece)
  /-- the other pieces -/
  track : Track (Located Piece)
  pieces : d.pieces = lead ++ track.old
  pieces' : d'.pieces = lead' ++ track.new
  lead_eq_nil : kind ≠ .insertDoctype → lead = [] ∧ lead' = []
  lead_tag : ∀ p ∈ lead ++ lead', Piece.tag? p = none
  lead_units : solidUnits lead' = solidUnits lead
  matched : ∀ p p', (some p, p') ∈ track → Piece.Matches kind.writes g g' d d' p p'
  inserted : InsertedBy kind d track

namespace Document.Revision

variable {kind : FixKind} {g g' : Nat → Nat} {d d' : Document} {p p' q q' : Located Piece}
  {t t' : Tag}

/-! ### Tags -/

/-- The tags of both documents. -/
def tags (rev : d.Revision kind g g' d') : Track Tag := rev.track.pick Piece.tag?

theorem filterMap_lead (rev : d.Revision kind g g' d') :
    rev.lead.filterMap Piece.tag? = [] ∧ rev.lead'.filterMap Piece.tag? = [] := by
  simp only [List.filterMap_eq_nil_iff]
  exact ⟨fun p hp => rev.lead_tag p (by simp [hp]), fun p hp => rev.lead_tag p (by simp [hp])⟩

theorem old_tags (rev : d.Revision kind g g' d') : rev.tags.old = d.tags := by
  rw [rev.sound.tags_eq, rev.pieces, List.filterMap_append, rev.filterMap_lead.1, List.nil_append]
  exact Track.old_pick fun p p' h => (rev.matched p p' h).item.opens

theorem new_tags (rev : d.Revision kind g g' d') : rev.tags.new = d'.tags := by
  rw [rev.sound'.tags_eq, rev.pieces', List.filterMap_append, rev.filterMap_lead.2, List.nil_append]
  exact Track.new_pick Piece.tag? rev.track

/-- Corresponding tags are those of corresponding pieces. -/
theorem mem_tags (rev : d.Revision kind g g' d') :
    (some t, t') ∈ rev.tags
      ↔ ∃ p p', (some p, p') ∈ rev.track ∧ Piece.tag? p = some t ∧ Piece.tag? p' = some t' := by
  simp only [tags, Track.mem_pick, Option.bind_eq_some_iff]
  exact ⟨fun ⟨u, p', h, ht', p, hu, ht⟩ => ⟨p, p', hu ▸ h, ht, ht'⟩,
    fun ⟨p, p', h, ht, ht'⟩ => ⟨some p, p', h, ht', p, rfl, ht⟩⟩

theorem alike (rev : d.Revision kind g g' d') (h : (some t, t') ∈ rev.tags) :
    t.Alike kind.writes t' := by
  obtain ⟨p, p', hp, ht, ht'⟩ := rev.mem_tags.1 h
  have := (rev.matched p p' hp).item.tag?
  rw [ht, ht'] at this
  cases this
  assumption

theorem tag_line (rev : d.Revision kind g g' d') (h : (some t, t') ∈ rev.tags) :
    g' (d'.line t'.start) = g (d.line t.start) := by
  obtain ⟨p, p', hp, ht, ht'⟩ := rev.mem_tags.1 h
  rw [(Piece.tag?_range ht).1, (Piece.tag?_range ht').1]
  exact (rev.matched p p' hp).line

/-- A piece that is added is part of a head. -/
theorem item_of_added (rev : d.Revision kind g g' d') (h : (none, p') ∈ rev.track) :
    p'.item = headOpening ∨ p'.item = headClosing
      ∨ ∃ t, kind.headTag? = some t ∧ p'.item = .openTag t [] := by
  rcases rev.inserted with hins | ⟨-, t, T, U, hd, m, c, ht, htrack, hh, hm, hc, hrest⟩
  · exact .inr (.inr (hins p' h))
  · have hp' := hrest p'
    rw [htrack] at h
    simp only [List.mem_append, List.mem_cons, Prod.mk.injEq, true_and, not_or] at h hp'
    rcases h with h | rfl | rfl | rfl | h
    · exact absurd h hp'.1
    · exact .inl hh
    · exact .inr (.inr ⟨t, ht, hm⟩)
    · exact .inr (.inl hc)
    · exact absurd h hp'.2

/-- Added tags are those of added pieces. -/
theorem mem_tags_none (rev : d.Revision kind g g' d') (h : (none, t') ∈ rev.tags) :
    ∃ p', (none, p') ∈ rev.track ∧ Piece.tag? p' = some t' := by
  obtain ⟨o, p', hp', ht', ho⟩ := Track.mem_pick.1 h
  cases o with
  | none => exact ⟨p', hp', ht'⟩
  | some p =>
    have := (rev.matched p p' hp').item.opens
    simp_all

/-- A tag that is added belongs to the head. -/
theorem added_tag (rev : d.Revision kind g g' d') (h : (none, t') ∈ rev.tags) :
    (t'.name = "head".toList ∧ t'.contents = [])
      ∨ t'.name = "meta".toList ∧ ∃ u, kind.headTag? = some u ∧ t'.contents = u.contents := by
  obtain ⟨p', hadded, ht'⟩ := rev.mem_tags_none h
  obtain ⟨start, item⟩ := p'
  rcases rev.item_of_added hadded with rfl | rfl | ⟨u, hu, rfl⟩
  · cases ht'
    exact .inl ⟨rfl, rfl⟩
  · cases ht'
    exact .inl ⟨rfl, rfl⟩
  · cases ht'
    refine .inr ⟨?_, u, hu, OpenTag.map_content_place u start⟩
    obtain ⟨-, rfl⟩ | ⟨-, rfl⟩ := FixKind.headTag?_eq_some hu <;> rfl

/-- Added tags have few attributes. -/
theorem attr?_of_added (rev : d.Revision kind g g' d') (h : (none, t') ∈ rev.tags) (name : String)
    (hname : name ∉ ["charset", "name", "content"]) : t'.attr? name = none := by
  suffices hnone : (t'.attr? name).map Attr.content = none by simpa using hnone
  rw [Tag.map_content_attr?, List.find?_eq_none]
  intro c hc heq
  have hhead : c.1 ∈ ["charset", "name", "content"].map String.toList := by
    rcases rev.added_tag h with ⟨-, hempty⟩ | ⟨-, u, hu, hu'⟩
    · simp [hempty] at hc
    · exact FixKind.names_headTag? hu c (hu' ▸ hc)
  obtain ⟨other, hother, hsame⟩ := List.mem_map.1 hhead
  rw [of_decide_eq_true heq] at hsame
  exact hname (String.toList_inj.1 hsame ▸ hother)

/-- The names that added tags have. -/
def isHeadName (name : List Char) : Bool := name = "head".toList || name = "meta".toList

theorem isHeadName_of_added (rev : d.Revision kind g g' d') (h : (none, t') ∈ rev.tags) :
    isHeadName t'.name := by
  rcases rev.added_tag h with ⟨h, -⟩ | ⟨h, -⟩ <;> simp [isHeadName, h]

/-- What is picked out of the tags of the new document was picked out of the old ones. -/
theorem filterMap_tags {β : Type} (rev : d.Revision kind g g' d') {f f' : Tag → Option β}
    (hmatched : ∀ t t', (some t, t') ∈ rev.tags → f' t' = f t)
    (hadded : ∀ t', (none, t') ∈ rev.tags → f' t' = none) :
    d'.tags.filterMap f' = d.tags.filterMap f := by
  rw [← rev.old_tags, ← rev.new_tags]
  exact Track.filterMap_new hmatched hadded

/-- What is picked out of the open tags of a name, if no tag of the name is added. -/
theorem filterMap_openTagsNamed {β : Type} (rev : d.Revision kind g g' d') {name : String}
    (hname : isHeadName name.toList = false) {f f' : Tag → Option β}
    (hmatched : ∀ t t', (some t, t') ∈ rev.tags → t.isOpen → t.name = name.toList → f' t' = f t) :
    (d'.openTagsNamed name).filterMap f' = (d.openTagsNamed name).filterMap f := by
  simp only [Document.openTagsNamed, Document.openTags, List.filterMap_filter]
  apply rev.filterMap_tags
  · intro t t' h
    have halike := rev.alike h
    rw [halike.isOpen, halike.name]
    by_cases hopen : t.isOpen <;> by_cases hn : t.name = name.toList <;>
      simp only [hopen, hn, decide_true, decide_false, if_true, if_false, Bool.false_eq_true]
    exact hmatched t t' h hopen hn
  · intro t' h
    have hn : t'.name ≠ name.toList := by
      intro hn
      have := rev.isHeadName_of_added h
      rw [hn, hname] at this
      cases this
    simp [hn]

/-- The first open tags of a name correspond, if none is added. -/
theorem firstOpen? (rev : d.Revision kind g g' d') (name : String)
    (hname : ∀ t', (none, t') ∈ rev.tags → t'.isOpen → t'.name ≠ name.toList) :
    Option.Rel (fun t t' => (some t, t') ∈ rev.tags) (d.firstOpen? name) (d'.firstOpen? name) := by
  simp only [Document.firstOpen?]
  rw [← rev.old_tags, ← rev.new_tags]
  refine Track.find?_new (fun t t' h => ?_) (fun t' h => ?_)
  · have halike := rev.alike h
    rw [halike.isOpen, halike.name]
  · have := hname t' h
    cases hopen : t'.isOpen <;> simp_all

theorem ne_of_added (rev : d.Revision kind g g' d') (name : List Char)
    (hname : isHeadName name = false) : ∀ t', (none, t') ∈ rev.tags → t'.name ≠ name := by
  rintro t' h rfl
  rw [rev.isHeadName_of_added h] at hname
  cases hname

/-! ### Places -/

/-- Corresponding pieces stand in the same order. -/
theorem start_le_iff (rev : d.Revision kind g g' d') (hp : (some p, p') ∈ rev.track)
    (hq : (some q, q') ∈ rev.track) : p'.start ≤ q'.start ↔ p.start ≤ q.start := by
  have hold : rev.track.old.Pairwise fun p q => p.start < q.start := by
    have hall := rev.pieces ▸ rev.sound.inOrder
    refine (List.pairwise_append.1 hall.pairwise).2.1.imp_of_mem fun {a b} ha _ hab => ?_
    have := hall.start_lt_stop (List.mem_append_right _ ha)
    omega
  have hnew : rev.track.new.Pairwise fun p q => p.start < q.start := by
    have hall := rev.pieces' ▸ rev.sound'.inOrder
    refine (List.pairwise_append.1 hall.pairwise).2.1.imp_of_mem fun {a b} ha _ hab => ?_
    have := hall.start_lt_stop (List.mem_append_right _ ha)
    omega
  have hboth := (List.pairwise_filterMap.1 hold).and (List.pairwise_map.1 hnew)
  rcases Track.eq_or_before hboth hp hq with heq | ⟨hold, hnew⟩ | ⟨hold, hnew⟩
  · cases heq
    simp
  · have := hold p rfl q rfl
    simp only at hnew
    omega
  · have := hold q rfl p rfl
    simp only at hnew
    omega

theorem mem_pieces (rev : d.Revision kind g g' d') (h : (some p, p') ∈ rev.track) :
    p ∈ d.pieces ∧ p' ∈ d'.pieces := by
  rw [rev.pieces, rev.pieces']
  refine ⟨List.mem_append_right _ (Track.mem_old.2 ⟨p', h⟩), List.mem_append_right _ ?_⟩
  exact List.mem_map.2 ⟨_, h, rfl⟩

/-- Pieces that begin together are the same. -/
theorem eq_of_start_eq (rev : d.Revision kind g g' d') (hp : (some p, p') ∈ rev.track)
    (hq : (some q, q') ∈ rev.track) (h : p.start = q.start) : p = q ∧ p' = q' := by
  have hle := (rev.start_le_iff hp hq).2 (by omega)
  have hle' := (rev.start_le_iff hq hp).2 (by omega)
  have hunique : ∀ {e : Document} {x y : Located Piece}, e.Sound → x ∈ e.pieces → y ∈ e.pieces →
      x.start = y.start → x = y := by
    intro e x y he hx hy hxy
    have := he.inOrder.start_lt_stop hx
    have := he.inOrder.start_lt_stop hy
    rcases he.inOrder.eq_or_before hx hy with heq | hbefore | hbefore
    · exact heq
    · omega
    · omega
  obtain ⟨hpold, hpnew⟩ := rev.mem_pieces hp
  obtain ⟨hqold, hqnew⟩ := rev.mem_pieces hq
  exact ⟨hunique rev.sound hpold hqold h, hunique rev.sound' hpnew hqnew (by omega)⟩

end Document.Revision

/-- A piece begins before the end of a tag where it does not begin behind the tag. -/
theorem Document.Sound.start_lt_stop_iff {d : Document} (hd : d.Sound) {p q : Located Piece} {t : Tag}
    (hp : p ∈ d.pieces) (hq : q ∈ d.pieces) (ht : Piece.tag? q = some t) :
    p.start < t.stop ↔ p.start ≤ t.start := by
  obtain ⟨hstart, hlt, hstop⟩ := Piece.tag?_range ht
  constructor
  · intro h
    obtain ⟨before, behind, hsplit⟩ := List.append_of_mem hp
    obtain ⟨hbefore, hbehind⟩ := (hsplit ▸ hd.inOrder).before_behind
    rw [hsplit] at hq
    rcases List.mem_append.1 hq with hq | hq
    · have := hbefore q hq
      omega
    · rcases List.mem_cons.1 hq with rfl | hq
      · omega
      · have := hbehind q hq
        have := hd.inOrder.start_lt_stop hp
        omega
  · intro h
    omega

end MarkupGate
