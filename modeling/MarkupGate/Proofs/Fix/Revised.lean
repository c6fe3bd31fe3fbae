import MarkupGate.Proofs.Fix.Outcome
import MarkupGate.Proofs.Revision.Placing
import MarkupGate.Proofs.Revision.Rule

/-!
# Repairs as revisions

The document that a repair leads to is a revision of the document before, as far as the new text is
read piece by piece as it was written. Lines stay where they are, with two exceptions: a document
type takes a line of its own, and the line feeds of a blank language that is replaced are gone.

* `Revision.exists_of_pieces`: a revision that moves no line, or that forgets about lines.
* `Repair.exists_revision_insert`, `exists_revision_tag` and so on: the revisions of the repairs.
-/

namespace MarkupGate

/-! ## Lines -/

/-- Whether pieces keep their line feeds and those that are added have none. -/
def Track.Steady (T : Track Piece) : Prop :=
  ∀ o q, (o, q) ∈ T → q.source.count '\n' = ((o.map Piece.source).getD []).count '\n'

/-- An element that holds no code is not left alone for the sake of its code. -/
theorem Piece.holdsCode_openTag {t : OpenTag} {content : List Char}
    (h : isRawName (asciiLower t.name) = false) : (Piece.openTag t content).holdsCode = false := by
  simp [holdsCode, raw?, OpenTag.opensRaw, h]

namespace Document.Revision

/-- A revision follows from corresponding pieces, if no line feed is gained or lost or lines do not
matter. -/
theorem exists_of_pieces {kind : FixKind} {move : Nat → Nat} {html : List Char} {T : Track Piece}
    (hold : T.old = lex html) (hnew : Spelled T.new) (hlines : T.Steady ∨ ∀ m n, move m = move n)
    (hrevised : ∀ p p', (some p, p') ∈ T →
      Piece.Revised kind.writes p p' ∧ (p.holdsCode → p' = p))
    (hadded : AddedBy kind html T) :
    ∃ rev : (Document.parse html).Revision kind move move (.parse (T.new.flatMap Piece.source)),
      rev.track = T.place 0 0 := by
  refine exists_of_track [] [] hold.symm hnew (fun _ => ⟨rfl, rfl⟩) (by simp)
    rfl (fun U V p p' hT => ?_) hadded
  obtain ⟨hpiece, hcode⟩ := hrevised p p' (by simp [hT])
  have hmove : ∀ n, move (1 + (U.new.flatMap Piece.source).count '\n' + n)
      = move (1 + (U.old.flatMap Piece.source).count '\n' + n) := by
    intro n
    rcases hlines with hsteady | hconst
    · rw [Track.count_feeds fun o q h => hsteady o q (by simp [hT, h])]
    · exact hconst _ _
  exact ⟨hpiece, hmove 0, fun h => ⟨hcode h, fun n _ => hmove n⟩⟩

/-- The revision with lines moved once more. -/
def mapLines {kind : FixKind} {g g' : Nat → Nat} {d d' : Document} (rev : d.Revision kind g g' d')
    (move : Nat → Nat) : d.Revision kind (move ∘ g) (move ∘ g') d' :=
  { rev with
    matched := fun p p' h =>
      { item := (rev.matched p p' h).item
        line := congrArg move (rev.matched p p' h).line
        codeLine := fun b b' hb hb' n hn =>
          congrArg move ((rev.matched p p' h).codeLine b b' hb hb' n hn) } }

end Document.Revision

/-! ## Insertions -/

theorem spelled_of_lex {ps : List Piece} (h : lex (ps.flatMap Piece.source) = ps) : Spelled ps :=
  h ▸ spelled_lex _

/-- Head elements are read as they are written, show where they end, and have no line feeds. -/
theorem IsHeadElement.spelled {kind : FixKind} {html : List Char} {u : OpenTag} {new : List Piece}
    (h : IsHeadElement html u new) (hu : kind.headTag? = some u) :
    Spelled new ∧ (∀ p ∈ new, p.isDefinite) ∧ ∀ p ∈ new, p.source.count '\n' = 0 := by
  have hnew : lex (new.flatMap Piece.source) = new ∧ (∀ p ∈ new, p.isDefinite)
      ∧ ∀ p ∈ new, p.source.count '\n' = 0 := by
    rcases h with rfl | ⟨-, rfl⟩ <;> cases kind <;> cases hu <;> decide +kernel
  exact ⟨spelled_of_lex hnew.1, hnew.2⟩

namespace Repair

variable {kind : FixKind} {html : List Char} {u : OpenTag} {A B new : List Piece}

/-- The insertion of a head element is a revision that moves no line. -/
theorem exists_revision_insert (hlex : lex html = A ++ B) (hlast : ∀ p ∈ A.getLast?, p.isDefinite)
    (hu : kind.headTag? = some u) (hnew : IsHeadElement html u new) :
    Spelled (A ++ (new ++ B)) ∧ Nonempty ((Document.parse html).Revision kind id id
      (.parse ((A ++ (new ++ B)).flatMap Piece.source))) := by
  obtain ⟨hspelled, hdefinite, hfeeds⟩ := hnew.spelled hu
  have hread : Spelled (A ++ (new ++ B)) :=
    Spelled.insert (hlex ▸ spelled_lex html) hlast hspelled hdefinite
  let T : Track Piece := Track.same A ++ (Track.added new ++ Track.same B)
  have hT : T.new = A ++ (new ++ B) := by simp [T]
  have hcases : ∀ o q, (o, q) ∈ T → o = some q ∨ o = none ∧ q ∈ new := by
    intro o q h
    simp only [T, List.mem_append, Track.mem_same, Track.mem_added] at h
    rcases h with ⟨ho, -⟩ | h | ⟨ho, -⟩
    · exact .inl ho
    · exact .inr h
    · exact .inl ho
  have hadded : AddedBy kind html T := by
    rcases hnew with rfl | ⟨hhead, rfl⟩
    · refine .inl fun q h => ⟨u, hu, ?_⟩
      rcases hcases none q h with ho | ⟨-, hq⟩
      · cases ho
      · exact List.mem_singleton.1 hq
    · refine .inr ⟨hhead, u, Track.same A, Track.same B, hu, rfl, fun q h => ?_⟩
      simp [Track.mem_same] at h
  have hsteady : T.Steady := by
    intro o q h
    rcases hcases o q h with rfl | ⟨rfl, hq⟩
    · rfl
    · exact hfeeds q hq
  have hrevised : ∀ p p', (some p, p') ∈ T →
      Piece.Revised kind.writes p p' ∧ (p.holdsCode → p' = p) := by
    intro p p' h
    rcases hcases _ p' h with ho | ⟨ho, -⟩
    · cases ho
      exact ⟨.same p, fun _ => rfl⟩
    · cases ho
  obtain ⟨rev, -⟩ := Document.Revision.exists_of_pieces (by simp [T, hlex]) (hT ▸ hread)
    (.inl hsteady) hrevised hadded
  exact ⟨hread, ⟨hT ▸ rev⟩⟩

end Repair

/-! ## Single tags -/

theorem Track.split_same {l : List Piece} {U V : Track Piece} {o : Option Piece} {q : Piece}
    (h : same l = U ++ (o, q) :: V) : ∃ l₁ l₂, l = l₁ ++ q :: l₂ ∧ U = same l₁ ∧ o = some q := by
  obtain ⟨l₁, l', rfl, rfl, h'⟩ := List.map_eq_append_iff.1 h
  obtain ⟨p, l₂, rfl, hp, -⟩ := List.map_eq_cons_iff.1 h'
  cases hp
  exact ⟨l₁, l₂, rfl, rfl, rfl⟩

/-- The track of a text in which one tag is written differently. -/
def tagTrack (A : List Piece) (t t' : OpenTag) (content : List Char) (B : List Piece) :
    Track Piece :=
  Track.same A ++ (some (.openTag t content), .openTag t' content) :: Track.same B

namespace Repair

variable {kind : FixKind} {html content : List Char} {A B : List Piece} {t t' : OpenTag}

/-- A text in which one tag is written differently is still read piece by piece. -/
theorem spelled_tagTrack (hlex : lex html = A ++ .openTag t content :: B) (h : t'.Respells t) :
    Spelled (tagTrack A t t' content B).new := by
  have hrespelled : List.Forall₂ Piece.Respelled (tagTrack A t t' content B).old
      (tagTrack A t t' content B).new := by
    apply Track.forall₂_of_matched
    intro o q hq
    simp only [tagTrack, List.mem_append, List.mem_cons, Track.mem_same, Prod.mk.injEq] at hq
    rcases hq with ⟨rfl, -⟩ | ⟨rfl, rfl⟩ | ⟨rfl, -⟩
    · exact ⟨q, rfl, .same q⟩
    · exact ⟨_, rfl, .tag content h⟩
    · exact ⟨q, rfl, .same q⟩
  refine Spelled.respell ?_ hrespelled
  simpa [tagTrack, ← hlex] using spelled_lex html

/-- Writing one tag differently is a revision: lines in front of the tag stay, and those behind it move
by the line feeds that the tag gains or loses. -/
theorem exists_revision_tag {g g' : Nat → Nat} (hlex : lex html = A ++ .openTag t content :: B)
    (hrespells : t'.Respells t)
    (hrevised : Piece.Revised kind.writes (.openTag t content) (.openTag t' content))
    (hraw : isRawName (asciiLower t.name) = false)
    (hbefore : ∀ n ≤ 1 + (A.flatMap Piece.source).count '\n', g' n = g n)
    (hbehind : ∀ n, g' (1 + (A.flatMap Piece.source).count '\n' + t'.source.count '\n' + n)
      = g (1 + (A.flatMap Piece.source).count '\n' + t.source.count '\n' + n)) :
    ∃ rev : (Document.parse html).Revision kind g g'
        (.parse ((A ++ .openTag t' content :: B).flatMap Piece.source)),
      rev.track = (tagTrack A t t' content B).place 0 0 := by
  have hT : (tagTrack A t t' content B).new = A ++ .openTag t' content :: B := by simp [tagTrack]
  rw [← hT]
  refine Document.Revision.exists_of_track [] [] (by simp [tagTrack, hlex])
    (spelled_tagTrack hlex hrespells) (fun _ => ⟨rfl, rfl⟩) (by simp) rfl (fun U V p p' hsplit => ?_)
    (.inl fun q h => ?_)
  · simp only [List.nil_append]
    have htag : Piece.Fits kind g g' (A.flatMap Piece.source) (A.flatMap Piece.source)
        (.openTag t content) (.openTag t' content) := by
      refine ⟨hrevised, hbefore _ (Nat.le_refl _), fun h => ?_⟩
      rw [Piece.holdsCode_openTag hraw] at h
      cases h
    rcases List.append_eq_append_iff.1 hsplit with ⟨W, rfl, hW⟩ | ⟨W, hW, hV⟩
    · rcases List.cons_eq_append_iff.1 hW with ⟨rfl, h⟩ | ⟨W', rfl, hW'⟩
      · cases h
        simpa using htag
      · -- A piece behind the tag.
        obtain ⟨l₁, l₂, rfl, rfl, hp⟩ := Track.split_same hW'
        cases hp
        have hmove := fun n => hbehind
          (content.count '\n' + (l₁.flatMap Piece.source).count '\n' + n)
        simp only [← Nat.add_assoc] at hmove
        exact ⟨.same p, by simpa [Piece.source, ← Nat.add_assoc] using hmove 0, fun _ =>
          ⟨rfl, fun n _ => by simpa [Piece.source, ← Nat.add_assoc] using hmove n⟩⟩
    · rcases List.cons_eq_append_iff.1 hV with ⟨rfl, h⟩ | ⟨W', rfl, -⟩
      · cases h
        obtain rfl : U = Track.same A := by simpa using hW.symm
        simpa using htag
      · -- A piece in front of the tag.
        obtain ⟨l₁, l₂, rfl, rfl, hp⟩ := Track.split_same hW
        cases hp
        have hmove : ∀ n ≤ p.source.count '\n', g' (1 + (l₁.flatMap Piece.source).count '\n' + n)
            = g (1 + (l₁.flatMap Piece.source).count '\n' + n) := fun n hn =>
          hbefore _ (by simp only [List.flatMap_append, List.flatMap_cons, List.count_append]; omega)
        simp only [Track.old_same, Track.new_same]
        exact ⟨.same p, hmove 0 (Nat.zero_le _), fun _ => ⟨rfl, hmove⟩⟩
  · simp [tagTrack, Track.mem_same] at h

end Repair

/-! ## Several tags -/

namespace Repair

variable {kind : FixKind} {html : List Char} {edit? : Tag → Option Edit}
  {R : OpenTag → OpenTag → Prop} {T : Track Piece}

/-- What becomes of each piece where tags are edited. -/
theorem EditsTags.edited (hT : EditsTags html edit? R T) {o : Option Piece} {q : Piece}
    (h : (o, q) ∈ T) : o = some q ∨ ∃ t t' content start, o = some (.openTag t content)
      ∧ q = .openTag t' content ∧ t.place start ∈ (Document.parse html).tags
      ∧ (edit? (t.place start)).isSome ∧ R t t' := by
  obtain ⟨o', q', hplaced, rfl, rfl⟩ := Track.exists_mem_place h 0 0
  obtain ⟨p, rfl, hedited⟩ := hT.2 o' q' hplaced
  rcases hedited with ⟨hsame, -⟩ | ⟨t, t', content, hp, hq, hedit, hR⟩
  · exact .inl (congrArg some hsame.symm)
  · refine .inr ⟨t, t', content, p.start, congrArg some hp, hq, ?_, hedit, hR⟩
    have hmem : p ∈ (Document.parse html).pieces := by
      have hold := Track.mem_old.2 ⟨q', hplaced⟩
      rwa [Track.old_place, hT.1] at hold
    rw [(Document.sound_parse html).tags_eq]
    exact List.mem_filterMap.2 ⟨p, hmem, by rw [Piece.tag?, hp]⟩

/-- What it takes of the edits of tags to be a revision. -/
def EditsKeep (kind : FixKind) (html : List Char) (edit? : Tag → Option Edit)
    (R : OpenTag → OpenTag → Prop) : Prop :=
  ∀ t t' start, t.place start ∈ (Document.parse html).tags → (edit? (t.place start)).isSome →
    R t t' → t'.Respells t ∧ isRawName (asciiLower t.name) = false
      ∧ ∀ content, Piece.Revised kind.writes (.openTag t content) (.openTag t' content)

/-- Editing tags so that they are read as before is a revision. -/
theorem exists_revision_tags {move : Nat → Nat} (hT : EditsTags html edit? R T)
    (hkeep : EditsKeep kind html edit? R)
    (hlines : (∀ t t', R t t' → t'.source.count '\n' = t.source.count '\n')
      ∨ ∀ m n, move m = move n) :
    ∃ rev : (Document.parse html).Revision kind move move (.parse (T.new.flatMap Piece.source)),
      rev.track = T.place 0 0 := by
  have hrespelled : List.Forall₂ Piece.Respelled T.old T.new := by
    apply Track.forall₂_of_matched
    intro o q hq
    rcases hT.edited hq with rfl | ⟨t, t', content, start, rfl, rfl, htag, hedit, hR⟩
    · exact ⟨q, rfl, .same q⟩
    · exact ⟨_, rfl, .tag content (hkeep t t' start htag hedit hR).1⟩
  have hspelled : Spelled T.new := Spelled.respell (hT.1 ▸ spelled_lex html) hrespelled
  refine Document.Revision.exists_of_pieces hT.1 hspelled (hlines.imp_left fun hfeeds o q hq => ?_)
    (fun p p' hp => ?_) (.inl fun q hq => ?_)
  · rcases hT.edited hq with rfl | ⟨t, t', content, start, rfl, rfl, -, -, hR⟩
    · rfl
    · simp [Piece.source, hfeeds t t' hR]
  · rcases hT.edited hp with hsame | ⟨t, t', content, start, ho, rfl, htag, hedit, hR⟩
    · cases hsame
      exact ⟨.same p, fun _ => rfl⟩
    · cases ho
      obtain ⟨-, hraw, hrevised⟩ := hkeep t t' start htag hedit hR
      refine ⟨hrevised content, fun hcode => ?_⟩
      rw [Piece.holdsCode_openTag hraw] at hcode
      cases hcode
  · rcases hT.edited hq with ho | ⟨t, t', content, start, ho, -⟩ <;> cases ho

end Repair

/-! ## The document type -/

/-- The document type that is put in. -/
def doctypePiece : Piece := .declaration '!' "DOCTYPE html".toList

/-- The run of text that some text begins with, if it is not empty. -/
def leadingText (content : List Char) : List Piece := if content = [] then [] else [.text content]

theorem flatMap_source_leadingText (content : List Char) :
    (leadingText content).flatMap Piece.source = content := by
  rw [leadingText]
  split <;> simp_all [Piece.source]

/-- A line feed in front of a text joins the run of text that it begins with. -/
theorem exists_leadingText (html : List Char) :
    ∃ content rest, lex html = leadingText content ++ rest ∧ Spelled (.text ('\n' :: content) :: rest) := by
  have hspelled := spelled_lex html
  have hfeed : ∀ s, readText ('\n' :: s) = ('\n' :: (readText s).1, (readText s).2) := by
    intro s
    rw [readText, beginsMarkup_of_ne (by decide)]
    rfl
  generalize lex html = ps at hspelled
  cases ps with
  | nil => exact ⟨[], [], rfl, Piece.text_readsBefore_iff.2 ⟨by simp, rfl⟩, trivial⟩
  | cons p ps =>
    obtain ⟨hread, hrest⟩ := hspelled
    cases hp : p.isText with
    | true =>
      obtain ⟨content, rfl⟩ : ∃ content, p = .text content := by cases p <;> cases hp; exact ⟨_, rfl⟩
      obtain ⟨hne, hcontent⟩ := Piece.text_readsBefore_iff.1 hread
      refine ⟨content, ps, by simp [leadingText, hne], Piece.text_readsBefore_iff.2 ⟨by simp, ?_⟩, hrest⟩
      rw [List.cons_append, hfeed, hcontent]
    | false =>
      refine ⟨[], p :: ps, rfl, Piece.text_readsBefore_iff.2 ⟨by simp, ?_⟩, hread, hrest⟩
      have hmarkup := hread.beginsMarkup_eq
      obtain ⟨c, cs, hs⟩ := List.exists_cons_of_ne_nil hread.source_ne_nil
      rw [hp, hs, List.cons_append] at hmarkup
      rw [List.flatMap_cons, hs, List.cons_append, List.cons_append, hfeed, List.nil_append, readText,
        hmarkup]
      rfl

namespace Repair

/-- Putting a document type in front is a revision that moves every line down by one. -/
theorem exists_revision_doctype (html : List Char) :
    Nonempty ((Document.parse html).Revision .insertDoctype (· + 1) id
        (.parse (doctypeDeclaration ++ html)))
      ∧ (Document.parse (doctypeDeclaration ++ html)).tokens.doctype.isSome := by
  obtain ⟨content, rest, hlex, hspelled⟩ := exists_leadingText html
  have hdoctype : ∀ r, doctypePiece.ReadsBefore r := by
    have hread : Spelled [doctypePiece] := spelled_of_lex (by decide +kernel)
    exact hread.1.of_isDefinite rfl
  have hnew : Spelled ([doctypePiece, .text ('\n' :: content)] ++ (Track.same rest).new) := by
    simpa using ⟨hdoctype _, hspelled⟩
  have hlead : [doctypePiece, .text ('\n' :: content)].flatMap Piece.source
      = doctypeDeclaration ++ content := by
    have hdeclaration : doctypePiece.source ++ ['\n'] = doctypeDeclaration := by decide
    rw [← hdeclaration]
    simp [Piece.source]
  have hsource : ([doctypePiece, .text ('\n' :: content)] ++ (Track.same rest).new).flatMap
      Piece.source = doctypeDeclaration ++ html := by
    rw [← flatMap_source_lex html, hlex, List.flatMap_append, List.flatMap_append,
      flatMap_source_leadingText, Track.new_same, hlead, List.append_assoc]
  have htag : ∀ p ∈ leadingText content ++ [doctypePiece, .text ('\n' :: content)], ∀ start,
      Piece.tag? ⟨start, p⟩ = none := by
    intro p hp start
    rw [leadingText] at hp
    split at hp <;> simp only [List.mem_append, List.mem_cons, List.not_mem_nil, or_false, false_or] at hp
    · rcases hp with rfl | rfl <;> rfl
    · rcases hp with rfl | rfl | rfl <;> rfl
  have hunits : solidUnits (locate Piece.source 0 [doctypePiece, .text ('\n' :: content)])
      = solidUnits (locate Piece.source 0 (leadingText content)) := by
    rw [leadingText]
    split <;> simp [solidUnits, locate, Piece.text?, doctypePiece, isMarkupSpace, *]
  -- The new declaration has the only line feed that is added.
  have hfits : ∀ (U V : Track Piece) (p p' : Piece), Track.same rest = U ++ (some p, p') :: V →
      Piece.Fits .insertDoctype (· + 1) id ((leadingText content ++ U.old).flatMap Piece.source)
        (([doctypePiece, .text ('\n' :: content)] ++ U.new).flatMap Piece.source) p p' := by
    intro U V p p' hsplit
    obtain ⟨l₁, l₂, rfl, rfl, hp⟩ := Track.split_same hsplit
    cases hp
    have hcount : doctypeDeclaration.count '\n' = 1 := by decide
    rw [List.flatMap_append, List.flatMap_append, hlead, flatMap_source_leadingText, Track.old_same,
      Track.new_same]
    refine ⟨.same p, ?_, fun _ => ⟨rfl, fun n _ => ?_⟩⟩ <;>
      · simp only [List.count_append, hcount, id]
        omega
  have hrev : Nonempty ((Document.parse html).Revision .insertDoctype (· + 1) id
      (.parse (([doctypePiece, .text ('\n' :: content)] ++ (Track.same rest).new).flatMap
        Piece.source))) := by
    obtain ⟨rev, -⟩ := Document.Revision.exists_of_track (leadingText content)
      [doctypePiece, .text ('\n' :: content)] (by simpa using hlex) hnew
      (fun h => absurd rfl h) htag hunits hfits (.inl fun q hq => by simp [Track.mem_same] at hq)
    exact ⟨rev⟩
  refine ⟨hsource ▸ hrev, ?_⟩
  have hpieces : (Document.parse (doctypeDeclaration ++ html)).pieces
      = locate Piece.source 0 ([doctypePiece, .text ('\n' :: content)] ++ (Track.same rest).new) := by
    rw [← hnew.lex_eq, hsource]
    rfl
  have hdoctype : doctypePiece.isDoctype := by decide
  rw [(Document.sound_parse _).isSome_doctype, hpieces]
  simp [locate, hdoctype]

end Repair

end MarkupGate
