import MarkupGate.Proofs.Fix.Effect
import MarkupGate.Proofs.Revision.Fold

/-!
# Outcomes of repairs

For each repair, when it is applied and what text it leads to. No repair ever fails: its edits lie
between pieces of the text or inside tags, and two of them never touch the same tag.

* An insertion goes behind a piece that shows by itself where it ends, or to the very start.
* An edit of tags leads to a text whose pieces correspond to those of the old one.
-/

namespace MarkupGate

/-! ## Insertions -/

/-- Whether pieces are a new head element, or a new head around it in a document without one. -/
def IsHeadElement (html : List Char) (u : OpenTag) (new : List Piece) : Prop :=
  new = [.openTag u []]
    ∨ (Document.parse html).firstOpen? "head" = none
      ∧ new = [headOpening, .openTag u [], headClosing]

/-- The place behind the tag of an element whose content is not opaque. -/
theorem Document.exists_split_behind {html : List Char} {t : Tag}
    (ht : t ∈ (Document.parse html).tags) (hopen : t.isOpen)
    (hname : isOpaqueName t.name = false) :
    ∃ A B, lex html = A ++ B ∧ (∀ p ∈ A.getLast?, p.isDefinite)
      ∧ t.stop = byteLength (A.flatMap Piece.source) := by
  obtain ⟨A, u, content, B, hlex, rfl⟩ := exists_of_mem_tags ht hopen
  have hopens : u.opensOpaque = false := by
    rw [← Bool.not_eq_true, opensOpaque_iff]
    exact fun h => by simp [OpenTag.place, h.2] at hname
  have hcontent : content = [] := by
    have hread := (hlex ▸ spelled_lex html).of_append.1
    simpa [hopens] using (Piece.openTag_readsBefore_iff.1 hread).2.2
  refine ⟨A ++ [.openTag u content], B, by simp [hlex], ?_, ?_⟩
  · simp [Piece.isDefinite, hopens]
  · simp [OpenTag.place, Piece.source, hcontent]

theorem Document.mem_tags_of_firstOpen? {d : Document} {name : String} {t : Tag}
    (h : d.firstOpen? name = some t) : t ∈ d.tags ∧ t.isOpen ∧ t.name = name.toList := by
  refine ⟨List.mem_of_find?_eq_some h, ?_⟩
  simpa using List.find?_some h

theorem CharsetDeclaration.tag_of_ofTag? {t : Tag} {c : CharsetDeclaration} (h : ofTag? t = some c) :
    c.tag = t := by
  rw [ofTag?] at h
  split at h
  · split at h <;> cases h
    rfl
  · split at h
    · simp only [Option.bind_eq_bind, Option.bind_eq_some_iff] at h
      obtain ⟨a, -, v, -, ⟨front, name⟩, -, heq⟩ := h
      cases heq
      rfl
    · cases h

/-- Charsets are declared by `meta` tags. -/
theorem Document.mem_charsetDeclarations {d : Document} {c : CharsetDeclaration}
    (h : c ∈ d.charsetDeclarations) :
    c.tag ∈ d.openTagsNamed "meta" ∧ CharsetDeclaration.ofTag? c.tag = some c := by
  obtain ⟨t, ht, htag⟩ := List.mem_filterMap.1 h
  rw [CharsetDeclaration.tag_of_ofTag? htag]
  exact ⟨ht, htag⟩

/-- The first declaration that can be overwritten is one that can. -/
theorem CharsetDeclaration.mem_of_findSome? {cs : List CharsetDeclaration} {c : CharsetDeclaration}
    {span : Span} (h : cs.findSome? (fun c => c.span.map fun span => (c, span)) = some (c, span)) :
    c ∈ cs ∧ c.span = some span := by
  obtain ⟨c', hmem, hspan⟩ := List.exists_of_findSome?_eq_some h
  obtain ⟨span', hspan, heq⟩ := Option.map_eq_some_iff.1 hspan
  cases heq
  exact ⟨hmem, hspan⟩

/-- Where a head element is inserted. -/
theorem headInsertion_spec (html : List Char) (u : OpenTag) :
    ∃ A B new, lex html = A ++ B ∧ (∀ p ∈ A.getLast?, p.isDefinite) ∧ IsHeadElement html u new
      ∧ Repair.headInsertion (.parse html) u.source
        = .insertion (byteLength (A.flatMap Piece.source)) (new.flatMap Piece.source) := by
  rw [Repair.headInsertion]
  split
  · rename_i t ht
    obtain ⟨hmem, hopen, hname⟩ := Document.mem_tags_of_firstOpen? ht
    obtain ⟨A, B, hlex, hlast, hstop⟩ := Document.exists_split_behind hmem hopen (by
      rw [hname]
      decide)
    exact ⟨A, B, _, hlex, hlast, .inl rfl, by simp [hstop, Piece.source]⟩
  · rename_i hhead
    split
    · rename_i t ht
      obtain ⟨hmem, hopen, hname⟩ := Document.mem_tags_of_firstOpen? ht
      obtain ⟨A, B, hlex, hlast, hstop⟩ := Document.exists_split_behind hmem hopen (by
        rw [hname]
        decide)
      refine ⟨A, B, _, hlex, hlast, .inr ⟨hhead, rfl⟩, ?_⟩
      simp [hstop, Piece.source, headOpening, headClosing, OpenTag.source, OpenTag.ending]
    · cases hfind : (Document.parse html).pieces.find? fun p => p.item.isDoctype with
      | none =>
        refine ⟨[], lex html, [.openTag u []], rfl, by simp, .inl rfl, ?_⟩
        simp [Document.tokens_parse, tokenize, Tokens.ofLocated,
          show (locate Piece.source 0 (lex html)).find? _ = none from hfind, Piece.source]
      | some p =>
        obtain ⟨before, behind, hsplit⟩ := List.append_of_mem (List.mem_of_find?_eq_some hfind)
        obtain ⟨A, B, hlex, -, hstart, -⟩ := locate_split hsplit
        have hdoctype : p.item.isDoctype := by simpa using List.find?_some hfind
        refine ⟨A ++ [p.item], B, [.openTag u []], by simp [hlex], ?_, .inl rfl, ?_⟩
        · cases hitem : p.item <;> simp_all [Piece.isDoctype, Piece.isDefinite]
        · simp [Document.tokens_parse, tokenize, Tokens.ofLocated,
            show (locate Piece.source 0 (lex html)).find? _ = some p from hfind, Piece.source,
            Span.ofText, hstart]

/-- An element that is inserted at the end of some pieces. -/
theorem applyEdits_insertion (fix : FixKind) {html : List Char} {A B : List Piece}
    (hlex : lex html = A ++ B) (text : List Char) :
    applyEdits fix html [.insertion (byteLength (A.flatMap Piece.source)) text]
      = .ok (A.flatMap Piece.source ++ text ++ B.flatMap Piece.source) := by
  have hhtml : html = A.flatMap Piece.source ++ [] ++ B.flatMap Piece.source := by
    rw [List.append_nil, ← List.flatMap_append, ← hlex, flatMap_source_lex]
  rw [hhtml]
  exact applyEdits_single fix _ [] _ text

namespace Repair

theorem ofEdits_nil (fix : FixKind) (html : List Char) (description : String) :
    ofEdits fix html [] description = .ok none := rfl

/-- A repair whose edits can be carried out is applied. -/
theorem ofEdits_of_applyEdits {fix : FixKind} {html edited : List Char} {edits : List Edit}
    (hne : edits ≠ []) (h : applyEdits fix html edits = .ok edited) (description : String) :
    ofEdits fix html edits description = .ok (some ⟨edited, description⟩) := by
  rw [ofEdits, if_neg (by simpa using hne), h]
  rfl

/-- A document type goes in front of everything. -/
theorem insertDoctype_eq (html : List Char) :
    insertDoctype html = .ok (if (Document.parse html).tokens.doctype.isSome then none
      else some ⟨doctypeDeclaration ++ html, "Added <!DOCTYPE html> declaration"⟩) := by
  have hinsert : applyEdits .insertDoctype html [.insertion 0 doctypeDeclaration]
      = .ok (doctypeDeclaration ++ html) :=
    applyEdits_single .insertDoctype [] [] html doctypeDeclaration
  rw [insertDoctype]
  split
  · exact ofEdits_nil _ _ _
  · exact ofEdits_of_applyEdits (by simp) hinsert _

/-- A page that sets no viewport gets an element that does. -/
theorem insertViewport_spec (html : List Char) :
    ((Document.parse html).viewportTag?.isSome → insertViewport html = .ok none)
      ∧ ((Document.parse html).viewportTag? = none →
        ∃ A B new, lex html = A ++ B ∧ (∀ p ∈ A.getLast?, p.isDefinite)
          ∧ IsHeadElement html viewportTag new
          ∧ insertViewport html = .ok (some ⟨(A ++ (new ++ B)).flatMap Piece.source,
              "Added responsive viewport meta tag"⟩)) := by
  have happly : ∀ {A B new : List Piece} {edit : Edit}, lex html = A ++ B →
      edit = .insertion (byteLength (A.flatMap Piece.source)) (new.flatMap Piece.source) →
      ofEdits .insertViewport html [edit] "Added responsive viewport meta tag"
        = .ok (some ⟨(A ++ (new ++ B)).flatMap Piece.source,
            "Added responsive viewport meta tag"⟩) := by
    rintro A B new _ hlex rfl
    refine ofEdits_of_applyEdits (by simp) ?_ _
    rw [applyEdits_insertion _ hlex]
    simp
  refine ⟨fun h => by simp [insertViewport, h], fun h => ?_⟩
  simp only [insertViewport, h, Option.isSome_none, Bool.false_eq_true, if_false]
  split
  · rename_i t ht
    obtain ⟨c, hc, rfl⟩ := Option.map_eq_some_iff.1 ht
    have hmem : c ∈ (Document.parse html).charsetDeclarations := by
      rcases Option.or_eq_some_iff.1 hc with hc | ⟨-, hc⟩
      · exact List.mem_of_find?_eq_some hc
      · exact List.mem_of_head? hc
    obtain ⟨htags, hopen, hname⟩ :=
      Document.mem_openTagsNamed.1 (Document.mem_charsetDeclarations hmem).1
    obtain ⟨A, B, hlex, hlast, hstop⟩ := Document.exists_split_behind htags hopen (by
      rw [hname]
      decide)
    refine ⟨A, B, _, hlex, hlast, .inl rfl, happly hlex ?_⟩
    rw [hstop, List.flatMap_singleton]
    rfl
  · obtain ⟨A, B, new, hlex, hlast, hnew, hedit⟩ := headInsertion_spec html viewportTag
    exact ⟨A, B, new, hlex, hlast, hnew, happly hlex hedit⟩

/-- What setting the viewport writes. -/
theorem exists_of_insertViewport {html : List Char} {repair : Repair}
    (h : insertViewport html = .ok (some repair)) :
    ∃ A B new, lex html = A ++ B ∧ (∀ p ∈ A.getLast?, p.isDefinite)
      ∧ IsHeadElement html viewportTag new
      ∧ repair.html = (A ++ (new ++ B)).flatMap Piece.source := by
  obtain ⟨hnone, hinsert⟩ := insertViewport_spec html
  cases hviewport : (Document.parse html).viewportTag? with
  | some t =>
    rw [hnone (by simp [hviewport])] at h
    cases h
  | none =>
    obtain ⟨A, B, new, hlex, hlast, hnew, hrun⟩ := hinsert hviewport
    rw [hrun] at h
    cases h
    exact ⟨A, B, new, hlex, hlast, hnew, rfl⟩

/-- Without a charset that can be overwritten, a page that does not declare UTF-8 gets an element that
does. -/
theorem insertCharset_spec (html : List Char) :
    ((Document.parse html).declaresUtf8 → insertCharset html = .ok none)
      ∧ ((Document.parse html).declaresUtf8 = false →
        (∀ c ∈ (Document.parse html).charsetDeclarations, c.span = none) →
        ∃ A B new, lex html = A ++ B ∧ (∀ p ∈ A.getLast?, p.isDefinite)
          ∧ IsHeadElement html charsetTag new
          ∧ insertCharset html = .ok (some ⟨(A ++ (new ++ B)).flatMap Piece.source,
              "Added <meta charset=\"UTF-8\">"⟩)) := by
  refine ⟨fun h => by simp [insertCharset, h], fun h hspans => ?_⟩
  have hnone : (Document.parse html).charsetDeclarations.findSome?
      (fun c => c.span.map fun span => (c, span)) = none := by
    simpa [List.findSome?_eq_none_iff] using hspans
  obtain ⟨A, B, new, hlex, hlast, hnew, hedit⟩ := headInsertion_spec html charsetTag
  refine ⟨A, B, new, hlex, hlast, hnew, ?_⟩
  simp only [insertCharset, h, hnone, Bool.false_eq_true, if_false]
  rw [show charsetElement = charsetTag.source from rfl, hedit]
  refine ofEdits_of_applyEdits (by simp) ?_ _
  rw [applyEdits_insertion _ hlex]
  simp

/-! ## Edits of tags -/

/-- A charset that can be overwritten is, on a page that does not declare UTF-8. -/
theorem overwriteCharset_spec {html : List Char} {c : CharsetDeclaration} {span : Span}
    (hutf8 : (Document.parse html).declaresUtf8 = false)
    (h : (Document.parse html).charsetDeclarations.findSome?
      (fun c => c.span.map fun span => (c, span)) = some (c, span)) :
    ∃ A t content B t' v, lex html = A ++ .openTag t content :: B
      ∧ c.tag = t.place (byteLength (A.flatMap Piece.source)) ∧ t'.Declares t
      ∧ t.Puts c.tag.charsetAttr v t' ∧ c.Overwritten v.form v.text
      ∧ (v.form.Fits v.text ↔ c.tag.CharsetOverwritable)
      ∧ insertCharset html = .ok (some ⟨(A ++ .openTag t' content :: B).flatMap Piece.source,
          "Changed declared charset from '" ++ String.ofList (trim c.value) ++ "' to UTF-8"⟩) := by
  obtain ⟨hmem, hspan⟩ := CharsetDeclaration.mem_of_findSome? h
  obtain ⟨hmeta, htag⟩ := Document.mem_charsetDeclarations hmem
  obtain ⟨htags, hopen, -⟩ := Document.mem_openTagsNamed.1 hmeta
  obtain ⟨A, t, content, B, hlex, hplace⟩ := Document.exists_of_mem_tags htags hopen
  rw [hplace] at htag ⊢
  obtain ⟨t', v, hedited, hdeclares, hputs, hover, hfits⟩ := CharsetDeclaration.exists_of_span htag hspan
  refine ⟨A, t, content, B, t', v, hlex, rfl, hdeclares, hputs, hover,
    hfits (.of_lex hlex), ?_⟩
  simp only [insertCharset, hutf8, h, Bool.false_eq_true, if_false]
  exact ofEdits_of_applyEdits (by simp) (applyEdits_tag _ hlex hedited) _

/-- What declaring UTF-8 writes: a new element, or the name of the charset over the first one that can be
overwritten. -/
theorem exists_of_insertCharset {html : List Char} {repair : Repair}
    (h : insertCharset html = .ok (some repair)) :
    (Document.parse html).declaresUtf8 = false
      ∧ (((∀ c ∈ (Document.parse html).charsetDeclarations, c.span = none)
          ∧ ∃ A B new, lex html = A ++ B ∧ (∀ p ∈ A.getLast?, p.isDefinite)
            ∧ IsHeadElement html charsetTag new
            ∧ repair.html = (A ++ (new ++ B)).flatMap Piece.source)
        ∨ ∃ c span, (Document.parse html).charsetDeclarations.findSome?
            (fun c => c.span.map fun span => (c, span)) = some (c, span)
          ∧ ∃ A t content B t' v, lex html = A ++ .openTag t content :: B
            ∧ c.tag = t.place (byteLength (A.flatMap Piece.source)) ∧ t'.Declares t
            ∧ t.Puts c.tag.charsetAttr v t'
            ∧ (v.form.Fits v.text ↔ c.tag.CharsetOverwritable)
            ∧ repair.html = (A ++ .openTag t' content :: B).flatMap Piece.source) := by
  obtain ⟨hnone, hinsert⟩ := insertCharset_spec html
  have hutf8 : (Document.parse html).declaresUtf8 = false := by
    rw [← Bool.not_eq_true]
    intro hutf8
    rw [hnone hutf8] at h
    cases h
  refine ⟨hutf8, ?_⟩
  cases hspan : (Document.parse html).charsetDeclarations.findSome?
      (fun c => c.span.map fun span => (c, span)) with
  | none =>
    have hspans : ∀ c ∈ (Document.parse html).charsetDeclarations, c.span = none := by
      simpa [List.findSome?_eq_none_iff] using hspan
    obtain ⟨A, B, new, hlex, hlast, hnew, hrun⟩ := hinsert hutf8 hspans
    rw [hrun] at h
    cases h
    exact .inl ⟨hspans, A, B, new, hlex, hlast, hnew, rfl⟩
  | some found =>
    obtain ⟨A, t, content, B, t', v, hlex, htag, hdeclares, hputs, -, hfits, hrun⟩ :=
      overwriteCharset_spec hutf8 hspan
    rw [hrun] at h
    cases h
    exact .inr ⟨_, _, rfl, A, t, content, B, t', v, hlex, htag, hdeclares, hputs, hfits, rfl⟩

/-- The first `html` tag gets the language if it can be told that it has none. -/
theorem insertLang_spec (lang html : List Char) :
    (((Document.parse html).firstOpen? "html").bind (langEdit? lang) = none →
        insertLang lang html = .ok none)
      ∧ ∀ u e, (Document.parse html).firstOpen? "html" = some u → langEdit? lang u = some e →
        ∃ A t content B t' v, lex html = A ++ .openTag t content :: B
          ∧ u = t.place (byteLength (A.flatMap Piece.source))
          ∧ t.Puts "lang" v t' ∧ v.text = lang ∧ v.form = u.langForm lang
          ∧ t.WritesLang t' (byteLength (A.flatMap Piece.source)) lang
          ∧ insertLang lang html = .ok (some ⟨(A ++ .openTag t' content :: B).flatMap Piece.source,
              "Added lang=\"" ++ String.ofList lang ++ "\" to <html>"⟩) := by
  refine ⟨fun h => by simp [insertLang, ofEdits, h], fun u e hu he => ?_⟩
  obtain ⟨htags, hopen, -⟩ := Document.mem_tags_of_firstOpen? hu
  obtain ⟨A, t, content, B, hlex, rfl⟩ := Document.exists_of_mem_tags htags hopen
  obtain ⟨t', v, hedited, hputs, htext, hform, hwrites⟩ := OpenTag.exists_of_langEdit? he
  refine ⟨A, t, content, B, t', v, hlex, rfl, hputs, htext, hform, hwrites, ?_⟩
  simp only [insertLang, hu, he, Option.bind_some, Option.toList_some]
  exact ofEdits_of_applyEdits (by simp) (applyEdits_tag _ hlex hedited) _

/-- What naming a language writes. -/
theorem exists_of_insertLang {lang html : List Char} {repair : Repair}
    (h : insertLang lang html = .ok (some repair)) :
    ∃ A t content B t' v e, lex html = A ++ .openTag t content :: B
      ∧ (Document.parse html).firstOpen? "html"
        = some (t.place (byteLength (A.flatMap Piece.source)))
      ∧ langEdit? lang (t.place (byteLength (A.flatMap Piece.source))) = some e
      ∧ t.Puts "lang" v t' ∧ v.text = lang
      ∧ v.form = (t.place (byteLength (A.flatMap Piece.source))).langForm lang
      ∧ t.WritesLang t' (byteLength (A.flatMap Piece.source)) lang
      ∧ repair.html = (A ++ .openTag t' content :: B).flatMap Piece.source := by
  obtain ⟨hnone, hinsert⟩ := insertLang_spec lang html
  cases hfirst : (Document.parse html).firstOpen? "html" with
  | none =>
    rw [hnone (by simp [hfirst])] at h
    cases h
  | some u =>
    cases hedit : langEdit? lang u with
    | none =>
      rw [hnone (by simp [hfirst, hedit])] at h
      cases h
    | some e =>
      obtain ⟨A, t, content, B, t', v, hlex, rfl, hputs, htext, hform, hwrites, hrun⟩ :=
        hinsert u e hfirst hedit
      rw [hrun] at h
      cases h
      exact ⟨A, t, content, B, t', v, e, hlex, rfl, hedit, hputs, htext, hform, hwrites, rfl⟩

/-- The text that edits of tags lead to, with what becomes of its pieces. -/
def EditsTags (html : List Char) (edit? : Tag → Option Edit) (R : OpenTag → OpenTag → Prop)
    (T : Track Piece) : Prop :=
  T.old = lex html ∧ ∀ o q, (o, q) ∈ T.place 0 0 → ∃ p, o = some p ∧ Piece.Edited edit? R p q.item

/-- How a link is written with its tokens completed. -/
def CompletesRel (t t' : OpenTag) : Prop :=
  let u := t.place 0
  ∃ v, t.Puts "rel" v t' ∧ u.missingRel ≠ [] ∧ v.text = mergedRel u.relText u.missingRel
    ∧ (∃ q, v.form.quote = [q]) ∧ (v.form.Fits v.text ↔ u.relQuotable)

/-- The edit that completes a tag if it is a link. -/
def linkEdit? (html : List Char) (u : Tag) : Option Edit :=
  if u.isOpen && u.name = "a".toList then relEdit? html u else none

theorem filterMap_linkEdit? (html : List Char) :
    ((Document.parse html).openTagsNamed "a").filterMap (relEdit? html)
      = (Document.parse html).tags.filterMap (linkEdit? html) := by
  simp only [Document.openTagsNamed, Document.openTags, List.filterMap_filter]
  apply List.filterMap_congr
  intro u _
  rw [linkEdit?]
  cases u.isOpen <;> simp

/-- All links that lack tokens get them. -/
theorem secureTargetBlank_spec (html : List Char) :
    let links := ((Document.parse html).openTagsNamed "a").filterMap (relEdit? html)
    (links = [] → secureTargetBlank html = .ok none)
      ∧ (links ≠ [] → ∃ T, EditsTags html (linkEdit? html) CompletesRel T
        ∧ secureTargetBlank html = .ok (some ⟨T.new.flatMap Piece.source,
            "Added rel=\"noopener noreferrer\" to " ++ toString links.length ++ " external "
              ++ counted links.length "link"⟩)) := by
  intro links
  refine ⟨fun h => ?_, fun h => ?_⟩
  · have hrun : secureTargetBlank html = ofEdits .secureTargetBlank html links _ := rfl
    rw [hrun, h]
    exact ofEdits_nil _ _ _
  have hclose : ∀ u : Tag, u.isOpen = false → linkEdit? html u = none := fun u hu => by
    simp [linkEdit?, hu]
  have hedit : ∀ t content start e, ⟨start, .openTag t content⟩ ∈ (Document.parse html).pieces →
      linkEdit? html (t.place start) = some e → ∃ t', t.EditedBy start e t' ∧ CompletesRel t t' := by
    intro t content start e hmem he
    obtain ⟨before, behind, hsplit⟩ := List.append_of_mem hmem
    obtain ⟨A, B, hlex, -, hstart, -⟩ := locate_split hsplit
    simp only [Nat.zero_add] at hstart
    obtain rfl := hstart
    have hhtml : html = A.flatMap Piece.source ++ t.source
        ++ (content ++ B.flatMap Piece.source) := by
      rw [← flatMap_source_lex html, hlex]
      simp [Piece.source]
    have he := (Option.ite_none_right_eq_some.1 he).2
    rw [hhtml] at he
    obtain ⟨t', v, hedited, hputs, hcompletes⟩ :=
      OpenTag.exists_of_relEdit? (.of_lex hlex) he
    obtain ⟨hquotable, htext, hmissing⟩ := t.place_rel (byteLength (A.flatMap Piece.source))
    rw [hquotable, htext, hmissing] at hcompletes
    exact ⟨t', hedited, v, hputs, hcompletes⟩
  obtain ⟨T, hold, happly, hplace⟩ :=
    applyEdits_tags .secureTargetBlank (linkEdit? html) hclose hedit
  rw [← filterMap_linkEdit?] at happly
  exact ⟨T, ⟨hold, hplace⟩, ofEdits_of_applyEdits h happly _⟩

/-- What completing links writes. -/
theorem exists_of_secureTargetBlank {html : List Char} {repair : Repair}
    (h : secureTargetBlank html = .ok (some repair)) :
    let links := ((Document.parse html).openTagsNamed "a").filterMap (relEdit? html)
    ∃ T, EditsTags html (linkEdit? html) CompletesRel T
      ∧ repair = ⟨T.new.flatMap Piece.source,
          "Added rel=\"noopener noreferrer\" to " ++ toString links.length ++ " external "
            ++ counted links.length "link"⟩ := by
  intro links
  obtain ⟨hnone, hinsert⟩ := secureTargetBlank_spec html
  by_cases hlinks : links = []
  · rw [hnone hlinks] at h
    cases h
  · obtain ⟨T, hT, hrun⟩ := hinsert hlinks
    rw [hrun] at h
    cases h
    exact ⟨T, hT, rfl⟩

/-- The edit that lets a tag load lazily if it is one of some images. -/
def lazyEdit? (images : List Tag) (u : Tag) : Option Edit :=
  if u ∈ images then some (.insertion u.nameEnd " loading=\"lazy\"".toList) else none

/-- What an image that is told to load lazily says. -/
def LoadsLazily (t t' : OpenTag) : Prop :=
  t'.Sets t "loading" .doubleQuoted "lazy".toList ∧ t'.Respells t
    ∧ t'.source.count '\n' = t.source.count '\n'

theorem EditsTags.loadsLazily {html : List Char} {edit? : Tag → Option Edit} {T : Track Piece}
    (hT : EditsTags html edit? (fun t t' => t' = t.prepend "loading".toList "lazy".toList) T) :
    EditsTags html edit? LoadsLazily T := by
  refine ⟨hT.1, fun o q h => ?_⟩
  obtain ⟨p, rfl, hedited⟩ := hT.2 o q h
  refine ⟨p, rfl, hedited.imp_right fun ⟨t, t', content, hp, hq, he, hR⟩ => ?_⟩
  exact ⟨t, t', content, hp, hq, he, hR ▸ (t.sets_loading 0).2⟩

/-- The members of a part of a list are found in the list by asking for them. -/
theorem filter_mem_of_sublist {α : Type} [DecidableEq α] {part l : List α} (h : part.Sublist l)
    (hl : l.Nodup) : l.filter (· ∈ part) = part := by
  induction h with
  | slnil => rfl
  | @cons part l x h ih =>
    obtain ⟨hx, hl⟩ := List.nodup_cons.1 hl
    rw [List.filter_cons_of_neg (by simpa using fun hmem => hx (h.subset hmem)), ih hl]
  | @cons_cons part l x h ih =>
    obtain ⟨hx, hl⟩ := List.nodup_cons.1 hl
    rw [List.filter_cons_of_pos (by simp)]
    congr 1
    refine Eq.trans (List.filter_congr fun y hy => ?_) (ih hl)
    have : y ≠ x := fun heq => hx (heq ▸ hy)
    simp [this]

theorem filterMap_lazyEdit? {images tags : List Tag} (h : images.Sublist tags) (htags : tags.Nodup) :
    tags.filterMap (lazyEdit? images)
      = images.map fun t => .insertion t.nameEnd " loading=\"lazy\"".toList := by
  have hfilter := filter_mem_of_sublist h htags
  calc tags.filterMap (lazyEdit? images)
      = (tags.filter (· ∈ images)).map fun t => .insertion t.nameEnd " loading=\"lazy\"".toList := by
        rw [← List.filterMap_eq_map, List.filterMap_filter]
        apply List.filterMap_congr
        intro u _
        rw [lazyEdit?]
        split <;> rename_i hu <;> simp [hu]
    _ = images.map fun t => .insertion t.nameEnd " loading=\"lazy\"".toList := by rw [hfilter]

theorem map_fst_readTags (scope : Span) (st : ReadingState) (ps : List (Located Piece)) :
    (readTags scope st ps).map Prod.fst = ps.filterMap Piece.tag? := by
  induction ps generalizing st with
  | nil => rfl
  | cons p ps ih =>
    rw [readTags, List.filterMap_cons]
    split <;> rename_i h <;> simp [h, ih]

theorem deferrable_sublist {d : Document} (hd : d.Sound) (fold : FoldPolicy) :
    (fold.deferrable d).Sublist d.tags := by
  rw [FoldPolicy.deferrable_eq, hd.tags_eq, ← map_fst_readTags d.foldScope .top]
  exact (List.filter_sublist).trans (List.filter_sublist.map Prod.fst)

theorem isOpen_of_mem_belowFold {d : Document} {fold : FoldPolicy} {t : Tag}
    (h : t ∈ fold.belowFold d) : t.isOpen ∧ t.name = "img".toList := by
  obtain ⟨⟨u, st⟩, hmem, rfl⟩ := List.mem_map.1 h
  have := (List.mem_filter.1 hmem).2
  simp only [Bool.and_eq_true, decide_eq_true_eq] at this
  exact this.1

/-- No tag comes twice. -/
theorem nodup_tags {d : Document} (hd : d.Sound) : d.tags.Nodup := by
  rw [hd.tags_eq]
  refine List.pairwise_filterMap.2 (hd.inOrder.pairwise.imp_of_mem fun {p q} hp _ hpq t ht u hu => ?_)
  rintro rfl
  have := (Piece.tag?_range ht).1
  have := (Piece.tag?_range hu).1
  have := hd.inOrder.start_lt_stop hp
  omega

/-- What becomes of the pieces of a page when the images that should load lazily are told to. -/
theorem exists_lazyTrack (fold : FoldPolicy) (html : List Char) :
    let images := fold.deferrable (.parse html)
    ∃ T, EditsTags html (lazyEdit? images)
        (fun t t' => t' = t.prepend "loading".toList "lazy".toList) T
      ∧ applyEdits .lazyLoadImages html
          (images.map fun t => .insertion t.nameEnd " loading=\"lazy\"".toList)
        = .ok (T.new.flatMap Piece.source) := by
  intro images
  have hsound := Document.sound_parse html
  have hopen : ∀ u ∈ images, u.isOpen := by
    intro u hu
    simp only [images, FoldPolicy.deferrable_eq] at hu
    exact (isOpen_of_mem_belowFold (List.mem_filter.1 hu).1).1
  have hclose : ∀ u : Tag, u.isOpen = false → lazyEdit? images u = none := fun u hu => by
    rw [lazyEdit?, if_neg fun hmem => by simp [hopen u hmem] at hu]
  obtain ⟨T, hold, happly, hplace⟩ :=
    applyEdits_tags .lazyLoadImages (lazyEdit? images) hclose
      (R := fun t t' => t' = t.prepend "loading".toList "lazy".toList)
      fun t content start e _ he => by
        cases (Option.ite_none_right_eq_some.1 he).2
        exact ⟨_, (t.sets_loading start).1, rfl⟩
  rw [filterMap_lazyEdit? (deferrable_sublist hsound fold) (nodup_tags hsound)] at happly
  exact ⟨T, ⟨hold, hplace⟩, happly⟩

/-- The images that should load lazily are told to. -/
theorem lazyLoadImages_spec (fold : FoldPolicy) (html : List Char) :
    let images := fold.deferrable (.parse html)
    (images = [] → lazyLoadImages fold html = .ok none)
      ∧ (images ≠ [] → ∃ T, EditsTags html (lazyEdit? images) LoadsLazily T
        ∧ lazyLoadImages fold html = .ok (some ⟨T.new.flatMap Piece.source,
            "Added loading=\"lazy\" to " ++ toString images.length ++ " below-the-fold "
              ++ counted images.length "image"⟩)) := by
  intro images
  refine ⟨fun h => ?_, fun h => ?_⟩
  · have hrun : lazyLoadImages fold html = ofEdits .lazyLoadImages html (images.map _) _ := rfl
    rw [hrun, h]
    exact ofEdits_nil _ _ _
  · obtain ⟨T, hT, happly⟩ := exists_lazyTrack fold html
    exact ⟨T, hT.loadsLazily, ofEdits_of_applyEdits (by simpa using h) happly _⟩

/-- What telling images to load lazily writes. -/
theorem exists_of_lazyLoadImages {fold : FoldPolicy} {html : List Char} {repair : Repair}
    (h : lazyLoadImages fold html = .ok (some repair)) :
    let images := fold.deferrable (.parse html)
    ∃ T, EditsTags html (lazyEdit? images) LoadsLazily T
      ∧ repair = ⟨T.new.flatMap Piece.source,
          "Added loading=\"lazy\" to " ++ toString images.length ++ " below-the-fold "
            ++ counted images.length "image"⟩ := by
  intro images
  obtain ⟨hnone, hinsert⟩ := lazyLoadImages_spec fold html
  by_cases himages : images = []
  · rw [hnone himages] at h
    cases h
  · obtain ⟨T, hT, hrun⟩ := hinsert himages
    rw [hrun] at h
    cases h
    exact ⟨T, hT, rfl⟩

end Repair

end MarkupGate
