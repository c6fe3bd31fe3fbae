import MarkupGate.Proofs.Fix.Agreement
import MarkupGate.Proofs.Fix.Revised

/-!
# Repaired documents

What a repair leads to where it is applied: a revision of the document, in which the rule of the repair
finds nothing any more. Four of the repairs never disturb the reader of the text. The other two do
where a charset inside an expression is overwritten or a bare `rel` value is put in quotes; for these,
`FixKind.ReadsOn` says when the new text is read as it was written.
-/

namespace MarkupGate

/-! ## New tags -/

theorem Document.exists_tag_of_spelled {ps : List Piece} (h : Spelled ps) {t : OpenTag}
    {content : List Char} (ht : .openTag t content ∈ ps) :
    ∃ start, t.place start ∈ (parse (ps.flatMap Piece.source)).tags := by
  obtain ⟨A, B, rfl⟩ := List.append_of_mem ht
  refine ⟨0 + byteLength (A.flatMap Piece.source), ?_⟩
  have hpieces : (parse ((A ++ .openTag t content :: B).flatMap Piece.source)).pieces
      = locate Piece.source 0 (A ++ .openTag t content :: B) := by rw [parse, h.lex_eq]
  rw [(sound_parse _).tags_eq, hpieces, locate_append, List.mem_filterMap]
  exact ⟨_, List.mem_append_right _ List.mem_cons_self, rfl⟩

/-- A document with a tag that declares UTF-8 does so. -/
theorem Document.declaresUtf8_of_mem {d : Document} {t : Tag} (ht : t ∈ d.openTagsNamed "meta")
    (h : ∃ c, CharsetDeclaration.ofTag? t = some c ∧ c.isUtf8) : d.declaresUtf8 := by
  obtain ⟨c, hc, hutf8⟩ := h
  exact List.any_eq_true.2 ⟨c, List.mem_filterMap.2 ⟨t, ht, hc⟩, hutf8⟩

theorem silent_of_charsetTag {ps : List Piece} (h : Spelled ps) (hmem : .openTag charsetTag [] ∈ ps)
    (fold : FoldPolicy) :
    FixKind.insertCharset.Silent fold (.parse (ps.flatMap Piece.source)) := by
  obtain ⟨start, htag⟩ := Document.exists_tag_of_spelled h hmem
  refine Document.declaresUtf8_of_mem (Document.mem_openTagsNamed.2 ⟨htag, rfl, rfl⟩) ?_
  exact ⟨_, rfl, CharsetDeclaration.isUtf8_of_value rfl⟩

theorem silent_of_viewportTag {ps : List Piece} (h : Spelled ps)
    (hmem : .openTag viewportTag [] ∈ ps) (fold : FoldPolicy) :
    FixKind.insertViewport.Silent fold (.parse (ps.flatMap Piece.source)) := by
  obtain ⟨start, htag⟩ := Document.exists_tag_of_spelled h hmem
  refine List.find?_isSome.2 ⟨_, Document.mem_openTagsNamed.2 ⟨htag, rfl, rfl⟩, ?_⟩
  rw [OpenTag.value?_place _ _ "name", OpenTag.value?_place _ _ "content"]
  decide

/-! ## Edited tags -/

theorem exists_of_mem_forall₂ {α : Type} {R : α → α → Prop} {l l' : List α}
    (h : List.Forall₂ R l l') {b : α} (hb : b ∈ l') : ∃ a ∈ l, R a b := by
  induction h with
  | nil => cases hb
  | cons hab _ ih =>
    rcases List.mem_cons.1 hb with rfl | hb
    · exact ⟨_, by simp, hab⟩
    · obtain ⟨a, ha, h⟩ := ih hb
      exact ⟨a, List.mem_cons_of_mem _ ha, h⟩

namespace Repair

variable {kind : FixKind} {g g' : Nat → Nat} {html : List Char} {edit? : Tag → Option Edit}
  {R : OpenTag → OpenTag → Prop} {T : Track Piece} {d' : Document} {t t' : Tag}

/-- A tag that is not edited says the same, one that is edited says what it should. -/
theorem EditsTags.tag_cases (hT : EditsTags html edit? R T)
    {rev : (Document.parse html).Revision kind g g' d'} (hrev : rev.track = T.place 0 0)
    (h : (some t, t') ∈ rev.tags) : (edit? t = none ∧ t.Alike [] t')
      ∨ ∃ u u' start start', t = u.place start ∧ t' = u'.place start' ∧ R u u' := by
  obtain ⟨p, p', hmem, ht, ht'⟩ := rev.mem_tags.1 h
  obtain ⟨q, hq, hedited⟩ := hT.2 _ _ (hrev ▸ hmem)
  cases hq
  rcases hedited with ⟨hsame, hnone⟩ | ⟨u, u', content, hp, hp', -, hR⟩
  · refine .inl ⟨hnone t ht, ?_⟩
    have hrevised : Piece.Revised [] p.item p'.item := by
      rw [hsame]
      exact .same _
    have halike := hrevised.tag?
    rw [ht, ht'] at halike
    cases halike
    assumption
  · refine .inr ⟨u, u', p.start, p'.start, ?_, ?_, hR⟩
    · simpa [Piece.tag?, hp, eq_comm] using ht
    · simpa [Piece.tag?, hp', eq_comm] using ht'

/-- Where links were completed, none lacks tokens. -/
theorem EditsTags.silent_links (hT : EditsTags html (linkEdit? html) CompletesRel T)
    {rev : (Document.parse html).Revision kind g g' d'} (hrev : rev.track = T.place 0 0)
    (fold : FoldPolicy) : FixKind.secureTargetBlank.Silent fold d' := by
  intro t' ht'
  obtain ⟨t, ht, h⟩ := exists_of_mem_forall₂ (rev.forall₂_openTagsNamed "a" (by decide)) ht'
  obtain ⟨-, hopen, hname⟩ := Document.mem_openTagsNamed.1 ht
  rcases hT.tag_cases hrev h with ⟨hnone, halike⟩ | ⟨u, u', start, start', rfl, rfl, hR⟩
  · rw [linkEdit?, hopen, hname] at hnone
    rw [halike.missingRel (by simp) (by simp) (by simp)]
    exact relEdit?_eq_none_iff.1 (by simpa using hnone)
  · obtain ⟨v, hputs, hmissing, htext, -⟩ := hR
    obtain ⟨a, u', ha, hu', -, hu''⟩ := hputs.sets.attr? start'
    have hrel : a.text = mergedRel (u.place 0).relText (u.place 0).missingRel := by
      simp [Attr.text, hu', hu'', htext]
    have hnone : requiredRel.filter
        (fun token => !(words (asciiLower a.text)).contains token.toList) = [] := by
      apply List.filter_eq_nil_iff.2
      intro token htoken
      simpa [hrel] using Tag.mem_words_completed hmissing htoken
    simp only [Tag.missingRel, ha, hnone, ite_self]

/-- Where images were told to load lazily, all images below the fold say how they load. -/
theorem EditsTags.silent_images {fold : FoldPolicy}
    (hT : EditsTags html (lazyEdit? (fold.deferrable (.parse html))) LoadsLazily T)
    {rev : (Document.parse html).Revision kind g g' d'} (hrev : rev.track = T.place 0 0) :
    FixKind.lazyLoadImages.Silent fold d' := by
  rw [FixKind.Silent, FoldPolicy.deferrable_eq, List.filter_eq_nil_iff]
  intro t' ht'
  obtain ⟨t, ht, h⟩ := exists_of_mem_forall₂ (rev.forall₂_belowFold fold) ht'
  rcases hT.tag_cases hrev h with ⟨hnone, halike⟩ | ⟨u, u', start, start', rfl, rfl, hR⟩
  · rw [lazyEdit?, FoldPolicy.deferrable_eq, ite_eq_right_iff] at hnone
    have hload : t.hasAttr "loading" ≠ false := fun hload =>
      Option.some_ne_none _ (hnone (List.mem_filter.2 ⟨ht, by simp [hload]⟩))
    simpa [halike.hasAttr (List.not_mem_nil)] using hload
  · obtain ⟨a, v, ha, -⟩ := hR.1.attr? start'
    simp [Tag.hasAttr, ha]

end Repair

/-! ## Applied repairs -/

/-- How lines move where the language of an `html` tag is set: a value that is replaced leaves none of
its line feeds. -/
def Document.langLine (d : Document) (n : Nat) : Nat :=
  match (d.firstOpen? "html").bind fun t => (t.attr? "lang").bind Attr.value with
  | none => n
  | some v => if n ≤ d.line v.start then n else n - v.text.count '\n'

namespace FixKind

/-- How the lines of findings move under a repair that inserts something. -/
def moveLine (d : Document) : FixKind → Nat → Nat
  | insertDoctype => (· + 1)
  | insertLang => d.langLine
  | _ => id

/-- Whether what a repair writes is read as it was written. -/
def ReadsOn (d : Document) : FixKind → Prop
  | insertCharset => d.declaresUtf8 = false → ∀ c span,
      d.charsetDeclarations.findSome? (fun c => c.span.map fun span => (c, span)) = some (c, span) →
      c.tag.CharsetOverwritable
  | secureTargetBlank => ∀ t ∈ d.openTagsNamed "a", t.missingRel ≠ [] → t.relQuotable
  | _ => True

end FixKind

/-- What a repair that is applied makes of a text. -/
structure Repair.Applied (kind : FixKind) (fold : FoldPolicy) (g g' : Nat → Nat)
    (html html' : List Char) : Prop where
  revision : Nonempty ((Document.parse html).Revision kind g g' (.parse html'))
  silent : kind.Silent fold (.parse html')

namespace Repair

variable {kind : FixKind} {fold : FoldPolicy} {html content : List Char} {A B : List Piece}
  {t t' : OpenTag} {T : Track Piece}

theorem Applied.mapLines {g g' : Nat → Nat} {html' : List Char}
    (h : Applied kind fold g g' html html') (move : Nat → Nat) :
    Applied kind fold (move ∘ g) (move ∘ g') html html' :=
  ⟨h.revision.map fun rev => rev.mapLines move, h.silent⟩

/-- A tag whose language is set moves the lines behind it. -/
theorem langLine_of_writesLang (hlex : lex html = A ++ .openTag t content :: B)
    (hfirst : (Document.parse html).firstOpen? "html"
      = some (t.place (byteLength (A.flatMap Piece.source))))
    {lang : List Char} (h : t.WritesLang t' (byteLength (A.flatMap Piece.source)) lang)
    (hlang : '\n' ∉ lang) :
    (∀ n ≤ 1 + (A.flatMap Piece.source).count '\n', n = (Document.parse html).langLine n)
      ∧ ∀ n, 1 + (A.flatMap Piece.source).count '\n' + t'.source.count '\n' + n
        = (Document.parse html).langLine
            (1 + (A.flatMap Piece.source).count '\n' + t.source.count '\n' + n) := by
  rw [OpenTag.WritesLang] at h
  simp only [Document.langLine, hfirst, Option.bind_some]
  cases hv : ((t.place (byteLength (A.flatMap Piece.source))).attr? "lang").bind Attr.value with
  | none =>
    rw [hv] at h
    obtain ⟨front, new, behind, hold, hnew, hfeed⟩ := h
    have hcount : t'.source.count '\n' = t.source.count '\n' := by
      simp [hold, hnew, List.count_eq_zero.2 (hfeed hlang)]
    simp [hcount]
  | some v =>
    rw [hv] at h
    obtain ⟨front, behind, hold, hnew, hstart⟩ := h
    have hline : (Document.parse html).line v.start
        = 1 + (A.flatMap Piece.source).count '\n' + front.count '\n' := by
      have hhtml : html = A.flatMap Piece.source ++ front
          ++ (v.text ++ behind ++ content ++ B.flatMap Piece.source) := by
        rw [← flatMap_source_lex html, hlex]
        simp [Piece.source, hold]
      rw [hstart, ← byteLength_append]
      have := Document.line_eq hhtml 0
      simpa [feedsBefore, Nat.add_assoc] using this
    simp only [hline]
    have hold : t.source.count '\n' = front.count '\n' + v.text.count '\n' + behind.count '\n' := by
      rw [hold, List.count_append, List.count_append]
    have hnew : t'.source.count '\n' = front.count '\n' + behind.count '\n' := by
      simp [hnew, List.count_eq_zero.2 hlang]
    constructor
    · intro n hn
      split <;> omega
    · intro n
      split <;> omega

theorem applied_doctype (fold : FoldPolicy) (html : List Char) :
    Applied .insertDoctype fold (· + 1) id html (doctypeDeclaration ++ html) :=
  ⟨(exists_revision_doctype html).1, (exists_revision_doctype html).2⟩

theorem applied_charsetTag {new : List Piece} (fold : FoldPolicy) (hlex : lex html = A ++ B)
    (hlast : ∀ p ∈ A.getLast?, p.isDefinite) (hnew : IsHeadElement html charsetTag new) :
    Applied .insertCharset fold id id html ((A ++ (new ++ B)).flatMap Piece.source) := by
  have hu : FixKind.insertCharset.headTag? = some charsetTag := rfl
  obtain ⟨hspelled, hrev⟩ := exists_revision_insert hlex hlast hu hnew
  refine ⟨hrev, silent_of_charsetTag hspelled ?_ fold⟩
  rcases hnew with rfl | ⟨-, rfl⟩ <;> simp

theorem applied_viewportTag {new : List Piece} (fold : FoldPolicy) (hlex : lex html = A ++ B)
    (hlast : ∀ p ∈ A.getLast?, p.isDefinite) (hnew : IsHeadElement html viewportTag new) :
    Applied .insertViewport fold id id html ((A ++ (new ++ B)).flatMap Piece.source) := by
  have hu : FixKind.insertViewport.headTag? = some viewportTag := rfl
  obtain ⟨hspelled, hrev⟩ := exists_revision_insert hlex hlast hu hnew
  refine ⟨hrev, silent_of_viewportTag hspelled ?_ fold⟩
  rcases hnew with rfl | ⟨-, rfl⟩ <;> simp

/-- A tag of an element that is neither a script nor a style. -/
theorem isRawName_of_name {start : Nat} {name : String} (h : (t.place start).name = name.toList)
    (hname : isRawName name.toList = false) : isRawName (asciiLower t.name) = false := by
  rw [← hname, ← h]
  rfl

theorem applied_lang (fold : FoldPolicy) (hlex : lex html = A ++ .openTag t content :: B)
    (hfirst : (Document.parse html).firstOpen? "html"
      = some (t.place (byteLength (A.flatMap Piece.source))))
    {lang : List Char} {v : WrittenValue} (hputs : t.Puts "lang" v t') (hlang : v.text = lang)
    (hwrites : t.WritesLang t' (byteLength (A.flatMap Piece.source)) lang)
    (hrespells : t'.Respells t) (hfeed : '\n' ∉ lang) (hblank : isBlank lang = false) :
    Applied .insertLang fold (Document.parse html).langLine id html
      ((A ++ .openTag t' content :: B).flatMap Piece.source) := by
  have hname := (Document.mem_tags_of_firstOpen? hfirst).2.2
  have hsets := hputs.sets
  have hmissing := hsets.value?_other 0 0 "content" (by decide)
  obtain ⟨hbefore, hbehind⟩ := langLine_of_writesLang hlex hfirst hwrites hfeed
  have hrev : ∃ rev : (Document.parse html).Revision .insertLang (Document.parse html).langLine id
      (.parse ((A ++ .openTag t' content :: B).flatMap Piece.source)),
      rev.track = (tagTrack A t t' content B).place 0 0 :=
    exists_revision_tag hlex hrespells (hsets.revised (by decide) (by rw [hmissing]) content)
      (isRawName_of_name hname (by decide)) hbefore hbehind
  obtain ⟨rev, htrack⟩ := hrev
  refine ⟨⟨rev⟩, ?_⟩
  -- The first `html` tag comes from the first `html` tag, which is the one that was written anew.
  have hhtml := rev.firstOpen? "html" fun t' h _ => rev.ne_of_added _ (by decide) t' h
  rw [hfirst] at hhtml
  generalize hfirst' : (Document.parse ((A ++ .openTag t' content :: B).flatMap
    Piece.source)).firstOpen? "html" = o at hhtml
  obtain ⟨hmem⟩ := hhtml
  rename_i u'
  obtain ⟨p, p', hp, hpt, hpt'⟩ := rev.mem_tags.1 hmem
  have hown : (some ⟨byteLength (A.flatMap Piece.source), .openTag t content⟩,
      ⟨byteLength (A.flatMap Piece.source), .openTag t' content⟩) ∈ rev.track := by
    rw [htrack, tagTrack, Track.place_append, Track.old_same, Track.new_same, Nat.zero_add]
    exact List.mem_append_right _ List.mem_cons_self
  obtain ⟨-, rfl⟩ := rev.eq_of_start_eq hp hown (Piece.tag?_range hpt).1.symm
  cases hpt'
  obtain ⟨a, u, ha, hu, -, htext⟩ := hsets.attr? (byteLength (A.flatMap Piece.source))
  refine ⟨_, hfirst', ?_⟩
  simp [Tag.namesLang, ha, hu, htext, hlang, isMissing, hblank]

/-- Telling images to load lazily is a revision that moves no line. -/
theorem exists_revision_images
    (hT : EditsTags html (lazyEdit? (fold.deferrable (.parse html))) LoadsLazily T) :
    ∃ rev : (Document.parse html).Revision .lazyLoadImages id id
        (.parse (T.new.flatMap Piece.source)), rev.track = T.place 0 0 := by
  have hkeep : EditsKeep .lazyLoadImages html (lazyEdit? (fold.deferrable (.parse html)))
      LoadsLazily := by
    rintro t t' start - hedit ⟨hsets, hrespells, -⟩
    have hmissing := hsets.value?_other 0 0 "content" (by decide)
    have himage : t.place start ∈ fold.deferrable (.parse html) := by
      rw [lazyEdit?] at hedit
      split at hedit
      · assumption
      · cases hedit
    rw [FoldPolicy.deferrable_eq] at himage
    have hname := (isOpen_of_mem_belowFold (List.mem_filter.1 himage).1).2
    exact ⟨hrespells, isRawName_of_name hname (by decide),
      hsets.revised (by decide) (by rw [hmissing])⟩
  exact exists_revision_tags hT hkeep (.inl fun t t' h => h.2.2)

theorem applied_images
    (hT : EditsTags html (lazyEdit? (fold.deferrable (.parse html))) LoadsLazily T) :
    Applied .lazyLoadImages fold id id html (T.new.flatMap Piece.source) := by
  obtain ⟨rev, htrack⟩ := exists_revision_images hT
  exact ⟨⟨rev⟩, hT.silent_images htrack⟩

theorem applied_links (hT : EditsTags html (linkEdit? html) CompletesRel T)
    (hreads : FixKind.secureTargetBlank.ReadsOn (.parse html)) (fold : FoldPolicy) :
    Applied .secureTargetBlank fold (fun _ => 0) (fun _ => 0) html
      (T.new.flatMap Piece.source) := by
  have hkeep : EditsKeep .secureTargetBlank html (linkEdit? html) CompletesRel := by
    rintro t t' start htag hedit ⟨v, hputs, hlacks, -, -, hfits⟩
    have hmissing := hputs.sets.value?_other 0 0 "content" (by decide)
    obtain ⟨hquotable, -, hrel⟩ := t.place_rel start
    rw [linkEdit?] at hedit
    split at hedit
    · rename_i hlink
      obtain ⟨hopen, hname⟩ : (t.place start).isOpen ∧ (t.place start).name = "a".toList := by
        simpa using hlink
      have hsafe := hreads _ (Document.mem_openTagsNamed.2 ⟨htag, hopen, hname⟩) (hrel ▸ hlacks)
      exact ⟨hputs.respells (hfits.2 (hquotable ▸ hsafe)), isRawName_of_name hname (by decide),
        hputs.sets.revised (by decide) (by rw [hmissing])⟩
    · cases hedit
  have hrev : ∃ rev : (Document.parse html).Revision .secureTargetBlank (fun _ => 0) (fun _ => 0)
      (.parse (T.new.flatMap Piece.source)), rev.track = T.place 0 0 :=
    exists_revision_tags hT hkeep (.inr fun _ _ => rfl)
  obtain ⟨rev, htrack⟩ := hrev
  exact ⟨⟨rev⟩, hT.silent_links htrack fold⟩

theorem applied_charset (fold : FoldPolicy) (hlex : lex html = A ++ .openTag t content :: B)
    (htag : t.place (byteLength (A.flatMap Piece.source)) ∈ (Document.parse html).openTagsNamed "meta")
    (hdeclares : t'.Declares t) (hrespells : t'.Respells t) :
    Applied .insertCharset fold (fun _ => 0) (fun _ => 0) html
      ((A ++ .openTag t' content :: B).flatMap Piece.source) := by
  obtain ⟨-, -, hmeta⟩ := Document.mem_openTagsNamed.1 htag
  obtain ⟨name, form, text, hsets, hname⟩ := hdeclares.sets
  have hrev : ∃ rev : (Document.parse html).Revision .insertCharset (fun _ => 0) (fun _ => 0)
      (.parse ((A ++ .openTag t' content :: B).flatMap Piece.source)),
      rev.track = (tagTrack A t t' content B).place 0 0 :=
    exists_revision_tag hlex hrespells (hsets.revised hname hdeclares.missing content)
      (isRawName_of_name hmeta (by decide)) (fun _ _ => rfl) fun _ => rfl
  have hspelled := spelled_tagTrack hlex hrespells
  have hnew : (tagTrack A t t' content B).new = A ++ .openTag t' content :: B := by simp [tagTrack]
  obtain ⟨start, hmem⟩ := Document.exists_tag_of_spelled (hnew ▸ hspelled)
    (List.mem_append_right A List.mem_cons_self)
  refine ⟨⟨hrev.choose⟩, Document.declaresUtf8_of_mem (Document.mem_openTagsNamed.2 ⟨hmem, rfl, ?_⟩)
    (hdeclares.utf8 start)⟩
  rw [← hmeta]
  simp [OpenTag.place, hsets.name]

/-- Every repair but that of links is a revision that moves lines in a known way, unless a charset is
overwritten. -/
theorem applied_of_inserting {repair : Repair} {lang : List Char} (hblank : isBlank lang = false)
    (hplain : ∀ c ∈ lang, isPlainChar c) (hlinks : kind ≠ .secureTargetBlank)
    (hcharset : kind = .insertCharset →
      ∀ c ∈ (Document.parse html).charsetDeclarations, c.span = none)
    (hrun : run kind fold lang html = .ok (some repair)) :
    Applied kind fold (kind.moveLine (.parse html)) id html repair.html := by
  cases kind with
  | insertDoctype =>
    rw [run, insertDoctype_eq] at hrun
    split at hrun
    · cases hrun
    · cases hrun
      exact applied_doctype fold html
  | insertCharset =>
    obtain ⟨-, ⟨-, A, B, new, hlex, hlast, hnew, heq⟩ | ⟨c, span, hspan, -⟩⟩ :=
      exists_of_insertCharset hrun
    · rw [heq]
      exact applied_charsetTag fold hlex hlast hnew
    · obtain ⟨hmem, hspan⟩ := CharsetDeclaration.mem_of_findSome? hspan
      rw [hcharset rfl c hmem] at hspan
      cases hspan
  | insertViewport =>
    obtain ⟨A, B, new, hlex, hlast, hnew, heq⟩ := exists_of_insertViewport hrun
    rw [heq]
    exact applied_viewportTag fold hlex hlast hnew
  | insertLang =>
    obtain ⟨A, t, content, B, t', v, e, hlex, hfirst, hedit, hputs, htext, hform, hwrites, heq⟩ :=
      exists_of_insertLang hrun
    have hne : lang ≠ [] := by
      rintro rfl
      cases hblank
    have hfeed : '\n' ∉ lang := fun hmem => isPlainChar_ne (hplain _ hmem) (by decide) rfl
    have hfits : v.form.Fits v.text := by
      rw [hform, htext]
      exact Tag.fits_langForm hedit hne hplain
    rw [heq]
    exact applied_lang fold hlex hfirst hputs htext hwrites (hputs.respells hfits) hfeed hblank
  | lazyLoadImages =>
    obtain ⟨T, hT, rfl⟩ := exists_of_lazyLoadImages hrun
    exact applied_images hT
  | secureTargetBlank => exact absurd rfl hlinks

/-- Every repair whose text is read as it was written is a revision. -/
theorem applied_of_readsOn {repair : Repair} {lang : List Char} (hblank : isBlank lang = false)
    (hplain : ∀ c ∈ lang, isPlainChar c) (hreads : kind.ReadsOn (.parse html))
    (hrun : run kind fold lang html = .ok (some repair)) :
    Applied kind fold (fun _ => 0) (fun _ => 0) html repair.html := by
  by_cases hlinks : kind = .secureTargetBlank
  · subst hlinks
    obtain ⟨T, hT, rfl⟩ := exists_of_secureTargetBlank hrun
    exact applied_links hT hreads fold
  by_cases hcharset : kind = .insertCharset
  · subst hcharset
    obtain ⟨hutf8, ⟨hspans, -⟩ | ⟨c, span, hspan, A, t, content, B, t', v, hlex, htag, hdeclares, hputs,
      hfits, heq⟩⟩ := exists_of_insertCharset hrun
    · exact (applied_of_inserting hblank hplain hlinks (fun _ => hspans) hrun).mapLines fun _ => 0
    · have hmeta := (Document.mem_charsetDeclarations
        (CharsetDeclaration.mem_of_findSome? hspan).1).1
      rw [heq]
      exact applied_charset fold hlex (htag ▸ hmeta) hdeclares
        (hputs.respells (hfits.2 (hreads hutf8 _ _ hspan)))
  · exact (applied_of_inserting hblank hplain hlinks (fun h => absurd h hcharset) hrun).mapLines
      fun _ => 0

end Repair

end MarkupGate
