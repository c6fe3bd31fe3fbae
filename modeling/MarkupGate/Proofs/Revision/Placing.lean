import MarkupGate.Proofs.Revision.Document

/-!
# Placing revised pieces

Where the pieces of a text are known, and what becomes of each of them, the revision of the document
follows: all places are sums of lengths. `Fits` says what has to be known of a piece and the text in
front of it, before and after; code is not revised, so that its lines can be followed.
-/

namespace MarkupGate

namespace Track

/-- A track of pieces, with the pieces on both sides placed from some offsets on. -/
def place (start start' : Nat) : Track Piece → Track (Located Piece)
  | [] => []
  | (none, q) :: T => (none, ⟨start', q⟩) :: place start (start' + byteLength q.source) T
  | (some p, q) :: T =>
    (some ⟨start, p⟩, ⟨start', q⟩)
      :: place (start + byteLength p.source) (start' + byteLength q.source) T

theorem old_place (start start' : Nat) (T : Track Piece) :
    old (place start start' T) = locate Piece.source start (old T) := by
  induction T generalizing start start' with
  | nil => rfl
  | cons x T ih =>
    obtain ⟨o, q⟩ := x
    cases o <;> simp [place, ih, locate]

theorem new_place (start start' : Nat) (T : Track Piece) :
    new (place start start' T) = locate Piece.source start' (new T) := by
  induction T generalizing start start' with
  | nil => rfl
  | cons x T ih =>
    obtain ⟨o, q⟩ := x
    cases o <;> simp [place, ih, locate]

theorem place_append (start start' : Nat) (T U : Track Piece) :
    place start start' (T ++ U) = place start start' T
      ++ place (start + byteLength (T.old.flatMap Piece.source))
          (start' + byteLength (T.new.flatMap Piece.source)) U := by
  induction T generalizing start start' with
  | nil => simp [place]
  | cons x T ih =>
    obtain ⟨o, q⟩ := x
    cases o <;> simp [place, ih, Nat.add_assoc]

/-- A placed piece stands behind what is written of the pieces before it. -/
theorem mem_place {start start' : Nat} {T : Track Piece} {o : Option (Located Piece)}
    {p' : Located Piece} (h : (o, p') ∈ place start start' T) :
    ∃ U V, T = U ++ (o.map Located.item, p'.item) :: V
      ∧ p'.start = start' + byteLength (U.new.flatMap Piece.source)
      ∧ ∀ p ∈ o, p.start = start + byteLength (U.old.flatMap Piece.source) := by
  induction T generalizing start start' with
  | nil => cases h
  | cons x T ih =>
    obtain ⟨u, q⟩ := x
    cases u with
    | none =>
      rcases List.mem_cons.1 h with h | h
      · cases h
        exact ⟨[], T, rfl, by simp, by simp⟩
      · obtain ⟨U, V, rfl, hstart', hstart⟩ := ih h
        exact ⟨(none, q) :: U, V, rfl, by simp [hstart', Nat.add_assoc], by simpa using hstart⟩
    | some p =>
      rcases List.mem_cons.1 h with h | h
      · cases h
        exact ⟨[], T, rfl, by simp, by simp⟩
      · obtain ⟨U, V, rfl, hstart', hstart⟩ := ih h
        refine ⟨(some p, q) :: U, V, rfl, by simp [hstart', Nat.add_assoc], fun r hr => ?_⟩
        simp [hstart r hr, Nat.add_assoc]

/-- Every piece of a track is placed. -/
theorem exists_mem_place {T : Track Piece} {o : Option Piece} {q : Piece} (h : (o, q) ∈ T)
    (start start' : Nat) : ∃ o' q', (o', q') ∈ place start start' T ∧ o'.map Located.item = o
      ∧ q'.item = q := by
  obtain ⟨U, V, rfl⟩ := List.append_of_mem h
  rw [place_append]
  cases o with
  | none => exact ⟨none, ⟨_, q⟩, List.mem_append_right _ List.mem_cons_self, rfl, rfl⟩
  | some p => exact ⟨some ⟨_, p⟩, ⟨_, q⟩, List.mem_append_right _ List.mem_cons_self, rfl, rfl⟩

/-- If no piece gains or loses line feeds and no added piece has any, the texts have as many. -/
theorem count_feeds {T : Track Piece}
    (h : ∀ o q, (o, q) ∈ T →
      q.source.count '\n' = ((o.map Piece.source).getD []).count '\n') :
    (T.new.flatMap Piece.source).count '\n' = (T.old.flatMap Piece.source).count '\n' := by
  induction T with
  | nil => rfl
  | cons x T ih =>
    obtain ⟨o, q⟩ := x
    have hq := h o q (by simp)
    have ih := ih fun o q hq => h o q (List.mem_cons_of_mem _ hq)
    cases o <;> simp_all

end Track

/-- Whether a piece holds a script or a style. -/
def Piece.holdsCode (p : Piece) : Bool := (Piece.raw? ⟨0, p⟩ 0).isSome

/-- What a revision asks of a piece behind some text, before and after: it is revised at most, and not
at all where it holds code, and the functions of lines agree on its lines. -/
structure Piece.Fits (kind : FixKind) (g g' : Nat → Nat) (front front' : List Char)
    (p p' : Piece) : Prop where
  revised : Revised kind.writes p p'
  line : g' (1 + front'.count '\n') = g (1 + front.count '\n')
  code : p.holdsCode → p' = p
    ∧ ∀ n ≤ p.source.count '\n', g' (1 + front'.count '\n' + n) = g (1 + front.count '\n' + n)

/-- What a repair adds to the pieces of a text. -/
def AddedBy (kind : FixKind) (html : List Char) (T : Track Piece) : Prop :=
  (∀ q, (none, q) ∈ T → ∃ t, kind.headTag? = some t ∧ q = .openTag t [])
    ∨ (Document.parse html).firstOpen? "head" = none ∧ ∃ t A B, kind.headTag? = some t
      ∧ T = A ++ (none, headOpening) :: (none, .openTag t []) :: (none, headClosing) :: B
      ∧ ∀ q, (none, q) ∉ A ++ B

theorem feedsBefore_le (n : Nat) (s : List Char) : feedsBefore n s ≤ s.count '\n' := by
  rw [← length_lineFeeds 0]
  exact List.countP_le_length

/-- The line of a piece and the lines of its code. -/
theorem Piece.Fits.matches_placed {kind : FixKind} {g g' : Nat → Nat} {front front' : List Char}
    {p p' : Piece} (h : Fits kind g g' front front' p p') {html html' rest rest' : List Char}
    (hhtml : html = front ++ (p.source ++ rest)) (hhtml' : html' = front' ++ (p'.source ++ rest')) :
    Piece.Matches kind.writes g g' (.parse html) (.parse html') ⟨byteLength front, p⟩
      ⟨byteLength front', p'⟩ := by
  refine ⟨h.revised, ?_, ?_⟩
  · have := Document.line_eq hhtml 0
    have := Document.line_eq hhtml' 0
    simp_all [h.line]
  · intro b b' hb hb' n hn
    have hcode : p.holdsCode := by
      cases p <;> simp_all [Piece.holdsCode, Piece.raw?]
    obtain ⟨rfl, hlines⟩ := h.code hcode
    obtain ⟨t, content, rfl⟩ : ∃ t content, p' = .openTag t content := by
      cases p' <;> simp_all [Piece.raw?]
    simp only [Piece.raw?, Option.ite_none_right_eq_some, Option.some.injEq] at hb hb'
    obtain ⟨⟨-, rfl⟩, ⟨-, rfl⟩⟩ := And.intro hb hb'
    simp only at hn ⊢
    have hline := Document.line_eq hhtml (byteLength t.source + n)
    have hline' := Document.line_eq hhtml' (byteLength t.source + n)
    have hinside : ∀ r, feedsBefore (byteLength t.source + n) ((Piece.openTag t content).source ++ r)
        = feedsBefore (byteLength t.source + n) (Piece.openTag t content).source := fun r =>
      feedsBefore_append (by simpa [Piece.source] using hn) r
    rw [Nat.add_assoc, Nat.add_assoc, hline, hline', hinside, hinside]
    exact hlines _ (feedsBefore_le _ _)

namespace Document.Revision

/-- A revision follows from the pieces of both texts. -/
theorem exists_of_track {kind : FixKind} {g g' : Nat → Nat} {html : List Char}
    {T : Track Piece} (lead lead' : List Piece) (hold : lex html = lead ++ T.old)
    (hnew : Spelled (lead' ++ T.new)) (hlead : kind ≠ .insertDoctype → lead = [] ∧ lead' = [])
    (htag : ∀ p ∈ lead ++ lead', ∀ start, Piece.tag? ⟨start, p⟩ = none)
    (hunits : solidUnits (locate Piece.source 0 lead') = solidUnits (locate Piece.source 0 lead))
    (hfits : ∀ (U V : Track Piece) (p p' : Piece), T = U ++ (some p, p') :: V →
      Piece.Fits kind g g' ((lead ++ U.old).flatMap Piece.source)
        ((lead' ++ U.new).flatMap Piece.source) p p')
    (hadded : AddedBy kind html T) :
    ∃ rev : (Document.parse html).Revision kind g g'
        (.parse ((lead' ++ T.new).flatMap Piece.source)),
      rev.track = T.place (byteLength (lead.flatMap Piece.source))
        (byteLength (lead'.flatMap Piece.source)) := by
  have hsource : html = (lead ++ T.old).flatMap Piece.source := by
    rw [← hold]
    exact (flatMap_source_lex html).symm
  have hplaced : ∀ (ps qs : List Piece), locate Piece.source 0 (ps ++ qs)
      = locate Piece.source 0 ps ++ locate Piece.source (byteLength (ps.flatMap Piece.source)) qs := by
    intro ps qs
    rw [locate_append, Nat.zero_add]
  have hleadTag : ∀ p ∈ locate Piece.source 0 lead ++ locate Piece.source 0 lead',
      Piece.tag? p = none := by
    intro p hp
    refine htag p.item ?_ p.start
    rw [List.mem_append] at hp ⊢
    exact hp.imp (fun h => map_item_locate Piece.source 0 lead ▸ List.mem_map_of_mem h)
      fun h => map_item_locate Piece.source 0 lead' ▸ List.mem_map_of_mem h
  refine ⟨{
    sound := sound_parse html
    sound' := sound_parse _
    lead := locate Piece.source 0 lead
    lead' := locate Piece.source 0 lead'
    track := T.place (byteLength (lead.flatMap Piece.source))
        (byteLength (lead'.flatMap Piece.source))
    pieces := by rw [Track.old_place, ← hplaced, ← hold]; rfl
    pieces' := by
      rw [Track.new_place, ← hplaced]
      simp only [Document.parse, hnew.lex_eq]
    lead_eq_nil := fun h => by
      obtain ⟨rfl, rfl⟩ := hlead h
      exact ⟨rfl, rfl⟩
    lead_tag := hleadTag
    lead_units := hunits
    matched := ?_
    inserted := ?_ }, rfl⟩
  · intro p p' h
    obtain ⟨U, V, hT, hstart', hstart⟩ := Track.mem_place h
    have hold' : html = (lead ++ U.old).flatMap Piece.source
        ++ (p.item.source ++ (Track.old V).flatMap Piece.source) := by
      rw [hsource, hT]
      simp
    have hnew' : (lead' ++ T.new).flatMap Piece.source = (lead' ++ U.new).flatMap Piece.source
        ++ (p'.item.source ++ (Track.new V).flatMap Piece.source) := by
      rw [hT]
      simp
    have hmatches := (hfits U V p.item p'.item hT).matches_placed hold' hnew'
    obtain ⟨start, item⟩ := p
    obtain ⟨start', item'⟩ := p'
    obtain rfl := hstart ⟨start, item⟩ rfl
    obtain rfl := hstart'
    simpa using hmatches
  · rcases hadded with hadded | ⟨hhead, t, A, B, ht, rfl, hrest⟩
    · refine .inl fun p' h => ?_
      obtain ⟨U, V, rfl, -⟩ := Track.mem_place h
      exact hadded p'.item (by simp)
    · refine .inr ⟨hhead, t, _, _, _, _, _, ht, Track.place_append _ _ A _, rfl, rfl, rfl, ?_⟩
      intro p' h
      rcases List.mem_append.1 h with h | h <;>
        · obtain ⟨U, V, rfl, -⟩ := Track.mem_place h
          exact hrest p'.item (by simp)

end Document.Revision

end MarkupGate
