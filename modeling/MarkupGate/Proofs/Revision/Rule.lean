import MarkupGate.Catalog
import MarkupGate.Proofs.Page.Script
import MarkupGate.Proofs.Regex.Bounds
import MarkupGate.Proofs.Revision.Fold

/-!
# Rules on revised documents

A repair concerns one rule, the one whose findings it removes. All other rules find the same as
before, line numbers apart: rule by rule this follows from what they ask of a document, and
`keeps_builtin` says it of the whole list of built-in rules. The search for secrets is the exception,
as it reads the text itself and not what the text means.
-/

namespace MarkupGate

/-- The finding with its line moved. -/
def Finding.relocate (move : Nat → Nat) (f : Finding) : Finding := { f with line := f.line.map move }

/-- Lists picked out of corresponding lists in the same way. -/
theorem filterMap_forall₂ {α β : Type} {R : α → α → Prop} {f f' : α → Option β} {l l' : List α}
    (h : List.Forall₂ R l l') (hf : ∀ a b, R a b → f' b = f a) : l'.filterMap f' = l.filterMap f := by
  induction h with
  | nil => rfl
  | cons hab _ ih => simp [List.filterMap_cons, hf _ _ hab, ih]

/-- Neighbours in corresponding lists correspond. -/
theorem forall₂_zip_tail {α : Type} {R : α → α → Prop} {l l' : List α} (h : List.Forall₂ R l l') :
    List.Forall₂ (fun x x' => R x.1 x'.1 ∧ R x.2 x'.2) (l.zip l.tail) (l'.zip l'.tail) := by
  induction h with
  | nil => exact .nil
  | cons hab hrest ih =>
    cases hrest with
    | nil => exact .nil
    | cons hcd _ => exact .cons ⟨hab, hcd⟩ ih

theorem Document.Sound.isSome_doctype {d : Document} (hd : d.Sound) :
    d.tokens.doctype.isSome = d.pieces.any fun p => p.item.isDoctype := by
  rw [hd.tokens, Tokens.ofLocated, Option.isSome_map, List.isSome_find?]

namespace Document.Revision

variable {kind : FixKind} {g g' : Nat → Nat} {d d' : Document} {p p' : Located Piece} {t t' : Tag}

/-- Whether a rule finds the same on both sides of a revision, line numbers apart. -/
def Keeps (_ : d.Revision kind g g' d') (r : Rule) : Prop :=
  ∀ css js, (r.run ⟨d', css, js⟩).map (Finding.relocate g')
    = (r.run ⟨d, css, js⟩).map (Finding.relocate g)

/-- Findings at corresponding tags lie on corresponding lines. -/
theorem relocate_findingAt (rev : d.Revision kind g g' d') (h : (some t, t') ∈ rev.tags)
    (css js : Option (List Char)) (info : RuleInfo) (message : String) :
    (Page.findingAt ⟨d', css, js⟩ info t'.start message).relocate g'
      = (Page.findingAt ⟨d, css, js⟩ info t.start message).relocate g := by
  simp only [Page.findingAt, Finding.relocate, Finding.ofRule, Option.map_some, rev.tag_line h]

/-- What is picked out of the open tags corresponds if it does for corresponding tags. -/
theorem forall₂_openTags {β : Type} (rev : d.Revision kind g g' d') {R : β → β → Prop}
    {f f' : Tag → Option β}
    (hmatched : ∀ t t', (some t, t') ∈ rev.tags → t.isOpen → Option.Rel R (f t) (f' t'))
    (hadded : ∀ t', (none, t') ∈ rev.tags → f' t' = none) :
    List.Forall₂ R (d.openTags.filterMap f) (d'.openTags.filterMap f') := by
  simp only [Document.openTags, List.filterMap_filter]
  rw [← rev.old_tags, ← rev.new_tags]
  apply Track.forall₂_filterMap
  · intro t t' h
    rw [(rev.alike h).isOpen]
    split
    · exact hmatched t t' h ‹_›
    · exact .none
  · intro t' h
    rw [hadded t' h]
    split <;> rfl

/-- The open tags of a name that no repair inserts correspond. -/
theorem forall₂_openTagsNamed (rev : d.Revision kind g g' d') (name : String)
    (hname : isHeadName name.toList = false) :
    List.Forall₂ (fun t t' => (some t, t') ∈ rev.tags) (d.openTagsNamed name)
      (d'.openTagsNamed name) := by
  simp only [Document.openTagsNamed, ← List.filterMap_eq_filter]
  apply rev.forall₂_openTags
  · intro t t' h _
    rw [Option.guard, Option.guard, (rev.alike h).name]
    split
    · exact .some h
    · exact .none
  · intro t' h
    rw [Option.guard, if_neg]
    simpa using rev.ne_of_added _ hname t' h

/-- Attributes that no repair writes have the same value in corresponding tags. -/
theorem value? (rev : d.Revision kind g g' d') (h : (some t, t') ∈ rev.tags) (name : String)
    (hname : name ∉ ["charset", "content", "lang", "loading", "rel"]) :
    t'.value? name = t.value? name :=
  (rev.alike h).value? (kind.not_mem_writes name hname)

theorem hasAttr (rev : d.Revision kind g g' d') (h : (some t, t') ∈ rev.tags) (name : String)
    (hname : name ∉ ["charset", "content", "lang", "loading", "rel"]) :
    t'.hasAttr name = t.hasAttr name :=
  (rev.alike h).hasAttr (kind.not_mem_writes name hname)

theorem attr_cases (rev : d.Revision kind g g' d') (h : (some t, t') ∈ rev.tags) (name : String)
    (hname : name ∉ ["charset", "content", "lang", "loading", "rel"]) :
    (t.attr? name = none ∧ t'.attr? name = none)
      ∨ (∃ a a', t.attr? name = some a ∧ t'.attr? name = some a' ∧ a.value = none ∧ a'.value = none)
      ∨ ∃ a a' v v', t.attr? name = some a ∧ t'.attr? name = some a' ∧ a.value = some v
        ∧ a'.value = some v' ∧ v'.form = v.form ∧ v'.text = v.text :=
  (rev.alike h).attr_cases (kind.not_mem_writes name hname)

/-- Lists made of the open tags are the same if no added tag counts. -/
theorem flatMap_openTags {β : Type} (rev : d.Revision kind g g' d') {F F' : Tag → List β}
    (hmatched : ∀ t t', (some t, t') ∈ rev.tags → F' t' = F t)
    (hadded : ∀ t', (none, t') ∈ rev.tags → F' t' = []) :
    d'.openTags.flatMap F' = d.openTags.flatMap F := by
  have hfilter : ∀ (ts : List Tag) (G : Tag → List β), (ts.filter Tag.isOpen).flatMap G
      = ts.flatMap fun t => if t.isOpen then G t else [] := by
    intro ts G
    induction ts with
    | nil => rfl
    | cons t ts ih => cases h : t.isOpen <;> simp [h, ih]
  simp only [Document.openTags, hfilter]
  rw [← rev.old_tags, ← rev.new_tags]
  apply Track.flatMap_new
  · intro t t' h
    rw [(rev.alike h).isOpen, hmatched t t' h]
  · intro t' h
    rw [hadded t' h, ite_self]

/-! ## Structure -/

theorem keeps_doctype (rev : d.Revision kind g g' d') (hkind : kind ≠ .insertDoctype) :
    rev.Keeps .doctype := by
  intro css js
  have hany : d'.tokens.doctype.isSome = d.tokens.doctype.isSome := by
    obtain ⟨hlead, hlead'⟩ := rev.lead_eq_nil hkind
    rw [rev.sound.isSome_doctype, rev.sound'.isSome_doctype, rev.pieces, rev.pieces', hlead, hlead']
    refine Track.any_new (fun p p' h => (rev.matched p p' h).item.isDoctype) ?_
    intro p' h
    obtain ⟨start, item⟩ := p'
    rcases rev.item_of_added h with rfl | rfl | ⟨u, -, rfl⟩ <;> rfl
  simp only [Rule.run, Rule.doctype, Rule.ofFindings, hany]
  split <;> rfl

theorem keeps_htmlLang (rev : d.Revision kind g g' d') (hkind : kind ≠ .insertLang) :
    rev.Keeps .htmlLang := by
  intro css js
  have hfirst := rev.firstOpen? "html" fun t' h _ => rev.ne_of_added _ (by decide) t' h
  simp only [Rule.run, Rule.htmlLang, Rule.ofFindings]
  revert hfirst
  generalize d.firstOpen? "html" = o
  generalize d'.firstOpen? "html" = o'
  rintro (h | _)
  · rename_i t t'
    have hunread : "lang" ∉ kind.writes := FixKind.not_mem_writes_of_ne (by decide) hkind
    have hline := fun message => rev.relocate_findingAt h css js .htmlLang message
    obtain ⟨ha, ha'⟩ | ⟨a, a', ha, ha', hv, hv'⟩ | ⟨a, a', v, v', ha, ha', hv, hv', hform, htext⟩ :=
      (rev.alike h).attr_cases hunread
    · simp [ha, ha', hline]
    · simp [ha, ha', hv, hv', isMissing, hline]
    · simp only [ha, ha', hv, hv', Option.any_some, Option.map_some,
        AttrValue.isExpression_of_form hform, htext]
      split
      · rfl
      · simp [hline]
  · rfl

/-- Corresponding tags declare the same charset, where the repair writes no charset. -/
theorem ofTag?_alike (rev : d.Revision kind g g' d') (hkind : kind ≠ .insertCharset)
    (h : (some t, t') ∈ rev.tags) :
    Option.Rel (fun c c' => (some c.tag, c'.tag) ∈ rev.tags ∧ c'.value = c.value
        ∧ c'.span.isSome = c.span.isSome)
      (CharsetDeclaration.ofTag? t) (CharsetDeclaration.ofTag? t') := by
  have halike := rev.alike h
  have hcharset : "charset" ∉ kind.writes := FixKind.not_mem_writes_of_ne (by decide) hkind
  have hcontent : "content" ∉ kind.writes := FixKind.not_mem_writes_of_ne (by decide) hkind
  have hequiv := halike.value? (kind.not_mem_writes "http-equiv" (by decide))
  simp only [CharsetDeclaration.ofTag?, hequiv]
  obtain ⟨ha, ha'⟩ | ⟨a, a', ha, ha', hv, hv'⟩ | ⟨a, a', v, v', ha, ha', hv, hv', hform, htext⟩ :=
    halike.attr_cases hcharset
  · simp only [ha, ha']
    split
    · obtain ⟨hb, hb'⟩ | ⟨b, b', hb, hb', hv, hv'⟩ | ⟨b, b', v, v', hb, hb', hv, hv', hform, htext⟩ :=
        halike.attr_cases hcontent
      · simp [hb, hb']
      · simp [hb, hb', hv, hv']
      · simp only [hb, hb', hv, hv', Option.bind_eq_bind, Option.bind_some, htext]
        cases CharsetDeclaration.parameter? v.text with
        | none => exact .none
        | some q => exact .some ⟨h, rfl, rfl⟩
    · exact .none
  · simp only [ha, ha', hv, hv', Option.any_none, Bool.false_eq_true, if_false]
    exact .some ⟨h, by simp, by simp⟩
  · simp only [ha, ha', hv, hv', Option.any_some, AttrValue.isExpression_of_form hform]
    split
    · exact .none
    · exact .some ⟨h, by simp [htext], by simp⟩

theorem forall₂_charsetDeclarations (rev : d.Revision kind g g' d')
    (hkind : kind ≠ .insertCharset) :
    List.Forall₂ (fun c c' => (some c.tag, c'.tag) ∈ rev.tags ∧ c'.value = c.value
        ∧ c'.span.isSome = c.span.isSome) d.charsetDeclarations d'.charsetDeclarations := by
  simp only [Document.charsetDeclarations, Document.openTagsNamed, List.filterMap_filter]
  apply rev.forall₂_openTags
  · intro t t' h _
    rw [(rev.alike h).name]
    split
    · exact rev.ofTag?_alike hkind h
    · exact .none
  · intro t' h
    have hequiv := rev.attr?_of_added h "http-equiv" (by decide)
    split
    · rename_i hname
      -- The only tag of this name that is added sets the viewport.
      have hcharset : t'.attr? "charset" = none := by
        suffices hnone : (t'.attr? "charset").map Attr.content = none by simpa using hnone
        rw [Tag.map_content_attr?]
        rcases rev.added_tag h with ⟨hhead, -⟩ | ⟨-, u, hu, hc⟩
        · rw [hhead] at hname
          cases hname
        · obtain ⟨-, rfl⟩ := (FixKind.headTag?_eq_some hu).resolve_left fun h => hkind h.1
          rw [hc]
          decide
      simp [CharsetDeclaration.ofTag?, Tag.value?, hcharset, hequiv, isWord]
    · rfl

/-- Whether UTF-8 is declared is the same. -/
theorem declaresUtf8 (rev : d.Revision kind g g' d') (hkind : kind ≠ .insertCharset) :
    d'.declaresUtf8 = d.declaresUtf8 := by
  have hdecls := rev.forall₂_charsetDeclarations hkind
  simp only [Document.declaresUtf8]
  revert hdecls
  generalize d.charsetDeclarations = cs
  generalize d'.charsetDeclarations = cs'
  intro hdecls
  induction hdecls with
  | nil => rfl
  | cons hc _ ih => simp [CharsetDeclaration.isUtf8, hc.2.1, ih]

theorem keeps_charset (rev : d.Revision kind g g' d') (hkind : kind ≠ .insertCharset) :
    rev.Keeps .charset := by
  intro css js
  simp only [Rule.run, Rule.charset, Rule.ofFindings, rev.declaresUtf8 hkind]
  split
  · rfl
  · have hdecls := rev.forall₂_charsetDeclarations hkind
    revert hdecls
    generalize d.charsetDeclarations = cs
    generalize d'.charsetDeclarations = cs'
    rintro (_ | ⟨hc, _⟩)
    · rfl
    · simp only [List.head?_cons, hc.2.1]
      simp [rev.relocate_findingAt hc.1 css js]

/-- Whether some `meta` tag passes a test, if no tag that a repair inserts does. -/
theorem any_openTagsNamed_meta (rev : d.Revision kind g g' d') {c : Tag → Bool}
    (hmatched : ∀ t t', (some t, t') ∈ rev.tags → c t' = c t)
    (hadded : ∀ t', (none, t') ∈ rev.tags → t'.name = "meta".toList → c t' = false) :
    (d'.openTagsNamed "meta").any c = (d.openTagsNamed "meta").any c := by
  simp only [Document.openTagsNamed, Document.openTags, List.any_filter]
  rw [← rev.old_tags, ← rev.new_tags]
  apply Track.any_new
  · intro t t' h
    rw [(rev.alike h).name, (rev.alike h).isOpen, hmatched t t' h]
  · intro t' h
    by_cases hname : t'.name = "meta".toList
    · simp [hadded t' h hname]
    · rw [decide_eq_false hname]
      simp

/-- What the `meta` tags say that repairs insert. -/
theorem value?_of_added (rev : d.Revision kind g g' d') (h : (none, t') ∈ rev.tags)
    (hname : t'.name = "meta".toList) (name : String) :
    ∃ u, kind.headTag? = some u ∧ t'.value? name = (u.place 0).value? name := by
  rcases rev.added_tag h with ⟨hhead, -⟩ | ⟨-, u, hu, hc⟩
  · rw [hhead] at hname
    cases hname
  · refine ⟨u, hu, ?_⟩
    rw [Tag.value?_eq, Tag.value?_eq, Tag.map_content_attr?, Tag.map_content_attr?, hc, Tag.contents,
      OpenTag.map_content_place]

theorem keeps_viewport (rev : d.Revision kind g g' d') (hkind : kind ≠ .insertViewport) :
    rev.Keeps .viewport := by
  intro css js
  have hsame : d'.viewportTag?.isSome = d.viewportTag?.isSome := by
    rw [Document.viewportTag?, Document.viewportTag?, List.isSome_find?, List.isSome_find?]
    apply rev.any_openTagsNamed_meta
    · intro t t' h
      rw [(rev.alike h).value? (kind.not_mem_writes "name" (by decide)), (rev.alike h).missing]
    · intro t' h hname
      obtain ⟨u, hu, hvalue⟩ := rev.value?_of_added h hname "name"
      obtain ⟨-, rfl⟩ := (FixKind.headTag?_eq_some hu).resolve_right fun h => hkind h.1
      have hword : isWord ((charsetTag.place 0).value? "name") "viewport" = false := by decide
      rw [hvalue, hword, Bool.false_and]
  simp only [Rule.run, Rule.viewport, Rule.ofFindings, hsame]
  split <;> rfl

theorem keeps_pageTitle (rev : d.Revision kind g g' d') : rev.Keeps .pageTitle := by
  intro css js
  have hfirst := rev.firstOpen? "title" fun t' h _ => rev.ne_of_added _ (by decide) t' h
  have htitle := fun t (h : d.firstOpen? "title" = some t) => List.find?_some h
  simp only [Rule.run, Rule.pageTitle, Rule.ofFindings]
  revert hfirst htitle
  generalize d.firstOpen? "title" = o
  generalize d'.firstOpen? "title" = o'
  rintro (h | _) htitle
  · have := htitle _ rfl
    simp only [Bool.and_eq_true, decide_eq_true_eq] at this
    have htext := (rev.accessibleText h this.1 (by rw [this.2]; decide)).2
    simp only [htext]
    split
    · simp [rev.relocate_findingAt h css js]
    · rfl
  · rfl

theorem keeps_singleH1 (rev : d.Revision kind g g' d') : rev.Keeps .singleH1 := by
  intro css js
  have htags := rev.forall₂_openTagsNamed "h1" (by decide)
  simp only [Rule.run, Rule.singleH1, Rule.ofFindings]
  revert htags
  generalize d.openTagsNamed "h1" = ts
  generalize d'.openTagsNamed "h1" = ts'
  rintro (_ | ⟨_, _ | ⟨h, hrest⟩⟩)
  · rfl
  · rfl
  · simp [hrest.length_eq, rev.relocate_findingAt h css js]

theorem keeps_headingHierarchy (rev : d.Revision kind g g' d') : rev.Keeps .headingHierarchy := by
  intro css js
  have hlevels : List.Forall₂ (fun x x' => (some x.1, x'.1) ∈ rev.tags ∧ x'.2 = x.2)
      (d.openTags.filterMap fun t => (Rule.headingLevel? t).map fun level => (t, level))
      (d'.openTags.filterMap fun t => (Rule.headingLevel? t).map fun level => (t, level)) := by
    apply rev.forall₂_openTags
    · intro t t' h _
      rw [Rule.headingLevel?, Rule.headingLevel?, (rev.alike h).name]
      split
      · split
        · exact .some ⟨h, rfl⟩
        · exact .none
      · exact .none
    · intro t' h
      rcases rev.added_tag h with ⟨hname, -⟩ | ⟨hname, -⟩ <;> rw [Rule.headingLevel?, hname] <;> rfl
  simp only [Rule.run, Rule.headingHierarchy, Rule.ofFindings]
  revert hlevels
  generalize d.openTags.filterMap (fun t => (Rule.headingLevel? t).map fun level => (t, level)) = xs
  generalize d'.openTags.filterMap (fun t => (Rule.headingLevel? t).map fun level => (t, level)) = ys
  intro hlevels
  rw [List.map_filterMap, List.map_filterMap]
  refine filterMap_forall₂ (forall₂_zip_tail hlevels) fun x x' hboth => ?_
  obtain ⟨⟨-, hprevious⟩, h, hlevel⟩ := hboth
  simp only [hprevious, hlevel]
  split
  · simp [rev.relocate_findingAt h css js]
  · rfl

theorem keeps_metaDescription (rev : d.Revision kind g g' d') : rev.Keeps .metaDescription := by
  intro css js
  have hsame := rev.any_openTagsNamed_meta (c := fun t =>
      isWord (t.value? "name") "description" && !isMissing (t.value? "content"))
    (fun t t' h => by
      rw [(rev.alike h).value? (kind.not_mem_writes "name" (by decide)), (rev.alike h).missing])
    (fun t' h hname => by
      obtain ⟨u, hu, hvalue⟩ := rev.value?_of_added h hname "name"
      have hword : isWord ((u.place 0).value? "name") "description" = false := by
        obtain ⟨-, rfl⟩ | ⟨-, rfl⟩ := FixKind.headTag?_eq_some hu <;> decide
      rw [hvalue, hword, Bool.false_and])
  simp only [Rule.run, Rule.metaDescription, Rule.ofFindings, hsame]
  split <;> rfl

theorem keeps_openGraph (rev : d.Revision kind g g' d') : rev.Keeps .openGraph := by
  intro css js
  have hsame : ∀ property ∈ Rule.openGraphProperties,
      Rule.setsProperty d' property = Rule.setsProperty d property := by
    intro property hproperty
    apply rev.any_openTagsNamed_meta
    · intro t t' h
      rw [(rev.alike h).value? (kind.not_mem_writes "name" (by decide)),
        (rev.alike h).value? (kind.not_mem_writes "property" (by decide)), (rev.alike h).missing]
    · intro t' h hname
      have hprop : t'.value? "property" = none := by
        rw [Tag.value?, rev.attr?_of_added h "property" (by decide)]
        rfl
      obtain ⟨u, hu, hvalue⟩ := rev.value?_of_added h hname "name"
      have hword : isWord ((u.place 0).value? "name") property = false := by
        clear hname hvalue hprop
        revert property
        obtain ⟨-, rfl⟩ | ⟨-, rfl⟩ := FixKind.headTag?_eq_some hu <;> decide
      rw [hvalue, hprop, hword]
      rfl
  have hmissing : (Rule.openGraphProperties.filter fun property => !Rule.setsProperty d' property)
      = Rule.openGraphProperties.filter fun property => !Rule.setsProperty d property :=
    List.filter_congr fun property h => by rw [hsame property h]
  simp only [Rule.run, Rule.openGraph, Rule.ofFindings, hmissing]
  split <;> rfl

/-! ## Accessibility -/

theorem keeps_imgAlt (rev : d.Revision kind g g' d') : rev.Keeps .imgAlt := by
  intro css js
  simp only [Rule.run, Rule.imgAlt, Rule.ofFindings, ← List.filterMap_eq_map,
    List.filterMap_filter, List.filterMap_filterMap]
  refine filterMap_forall₂ (rev.forall₂_openTagsNamed "img" (by decide)) ?_
  intro t t' h
  have hhidden : Rule.isHiddenImage t' = Rule.isHiddenImage t := by
    rw [Rule.isHiddenImage, Rule.isHiddenImage, rev.value? h "role" (by decide),
      rev.value? h "aria-hidden" (by decide)]
  have hlabel : Rule.imageLabel t' = Rule.imageLabel t := by
    rw [Rule.imageLabel, Rule.imageLabel, rev.value? h "src" (by decide)]
  rw [rev.hasAttr h "alt" (by decide), hhidden]
  split
  · simp [hlabel, rev.relocate_findingAt h css js]
  · rfl

theorem keeps_imgAltText (rev : d.Revision kind g g' d') : rev.Keeps .imgAltText := by
  intro css js
  simp only [Rule.run, Rule.imgAltText, Rule.ofFindings, List.map_filterMap]
  refine filterMap_forall₂ (rev.forall₂_openTagsNamed "img" (by decide)) ?_
  intro t t' h
  obtain ⟨ha, ha'⟩ | ⟨a, a', ha, ha', hv, hv'⟩ | ⟨a, a', v, v', ha, ha', hv, hv', hform, htext⟩ :=
    rev.attr_cases h "alt" (by decide)
  · simp [ha, ha']
  · simp only [ha, ha', hv, hv', Option.bind_eq_bind, Option.bind_some, Attr.isExpression, Attr.text]
    split
    · rfl
    · simp [rev.relocate_findingAt h css js]
  · simp only [ha, ha', hv, hv', Option.bind_eq_bind, Option.bind_some, Attr.isExpression, Attr.text,
      Option.any_some, AttrValue.isExpression_of_form hform, Option.map_some, htext]
    split
    · rfl
    · simp [rev.relocate_findingAt h css js]

theorem hasOwnName (rev : d.Revision kind g g' d') (h : (some t, t') ∈ rev.tags) :
    Rule.hasOwnName t' = Rule.hasOwnName t := by
  rw [Rule.hasOwnName, Rule.hasOwnName, rev.value? h "aria-label" (by decide),
    rev.value? h "aria-labelledby" (by decide), rev.value? h "title" (by decide)]

theorem keeps_formLabel (rev : d.Revision kind g g' d') : rev.Keeps .formLabel := by
  intro css js
  have htargets : Rule.labelTargets d' = Rule.labelTargets d := by
    refine rev.filterMap_openTagsNamed (by decide) ?_
    intro t t' h _ _
    rw [rev.value? h "for" (by decide), rev.value? h "htmlfor" (by decide)]
  simp only [Rule.run, Rule.formLabel, Rule.ofFindings, htargets, List.map_filterMap]
  refine rev.filterMap_tagsInside (by decide) ?_ ?_
  · intro t t' h b
    have hneeds : Rule.needsLabel t' = Rule.needsLabel t := by
      rw [Rule.needsLabel, Rule.needsLabel, (rev.alike h).name, rev.value? h "type" (by decide)]
    simp only [(rev.alike h).isOpen, (rev.alike h).name, hneeds, rev.hasOwnName h,
      rev.value? h "id" (by decide), rev.value? h "name" (by decide)]
    split
    · rfl
    · simp only [Option.map_some, rev.relocate_findingAt h css js]
  · intro t' h b
    have hneeds : Rule.needsLabel t' = false := by
      have hinput := rev.ne_of_added "input".toList (by decide) t' h
      have hselect := rev.ne_of_added "select".toList (by decide) t' h
      have htextarea := rev.ne_of_added "textarea".toList (by decide) t' h
      rw [Rule.needsLabel, if_neg hinput, decide_eq_false hselect, decide_eq_false htextarea,
        Bool.or_self]
    simp [hneeds]

theorem keeps_linkText (rev : d.Revision kind g g' d') : rev.Keeps .linkText := by
  intro css js
  simp only [Rule.run, Rule.linkText, Rule.ofFindings, List.map_filterMap]
  refine rev.filterMap_openTagsNamed (by decide) ?_
  intro t t' h hopen hname
  have hlabel : Rule.linkLabel d' t' = Rule.linkLabel d t := by
    rw [Rule.linkLabel, Rule.linkLabel, rev.value? h "aria-label" (by decide),
      (rev.accessibleText h hopen (by rw [hname]; decide)).1]
  simp only [hlabel]
  split
  · simp only [Option.map_some, rev.relocate_findingAt h css js]
  · rfl

theorem keeps_buttonName (rev : d.Revision kind g g' d') : rev.Keeps .buttonName := by
  intro css js
  simp only [Rule.run, Rule.buttonName, Rule.ofFindings, List.map_filterMap, Document.openTags,
    List.filterMap_filter]
  apply rev.filterMap_tags
  · intro t t' h
    simp only [(rev.alike h).isOpen, (rev.alike h).name, rev.hasOwnName h,
      rev.value? h "role" (by decide), rev.hasAttr h "tabindex" (by decide)]
    by_cases hopen : t.isOpen
    · by_cases hname : t.name = "button".toList
      · have htext := (rev.accessibleText h hopen (by rw [hname]; decide)).1
        simp only [hopen, hname, htext, if_true]
        split
        · rfl
        · simp only [Option.map_some, rev.relocate_findingAt h css js]
      · simp only [hopen, hname, if_true, if_false]
        split
        · simp only [Option.map_some, rev.relocate_findingAt h css js]
        · rfl
    · simp [hopen]
  · intro t' h
    have hrole : t'.value? "role" = none := by
      rw [Tag.value?, rev.attr?_of_added h "role" (by decide)]
      rfl
    have hname := rev.ne_of_added "button".toList (by decide) t' h
    rw [if_neg hname]
    simp [hrole, isWord]

/-- The blocks of a style sheet begin in it. -/
theorem le_of_mem_blocksFrom {offset bound : Nat} {open? : Option (Nat × List Char)}
    {s : List Char} {b : Nat × List Char} (h : b ∈ blocksFrom offset open? s)
    (hopen : ∀ b ∈ open?, b.1 ≤ bound) (hs : offset + byteLength s ≤ bound) : b.1 ≤ bound := by
  induction s generalizing offset open? with
  | nil => cases h
  | cons c cs ih =>
    have hbehind : offset + c.utf8Size + byteLength cs ≤ bound := by
      rwa [byteLength_cons, ← Nat.add_assoc] at hs
    simp only [blocksFrom] at h
    split at h
    · exact ih h (by simpa using Nat.le_of_add_right_le hs) hbehind
    split at h
    · rcases List.mem_append.1 h with h | h
      · obtain ⟨a, ha, rfl⟩ := Option.map_eq_some_iff.1 (Option.mem_toList.1 h)
        exact hopen a ha
      · exact ih h (by simp) hbehind
    · refine ih h (fun b hb => ?_) hbehind
      obtain ⟨a, ha, rfl⟩ := Option.map_eq_some_iff.1 hb
      exact hopen a ha

theorem keeps_colorContrast (rev : d.Revision kind g g' d') : rev.Keeps .colorContrast := by
  intro css js
  simp only [Rule.run, Rule.colorContrast, Rule.ofFindings, List.map_append]
  refine congrArg₂ (· ++ ·) (congrArg₂ (· ++ ·) ?_ ?_) ?_
  · simp only [List.map_filterMap, Document.openTags, List.filterMap_filter]
    apply rev.filterMap_tags
    · intro t t' h
      rw [(rev.alike h).isOpen]
      split
      · obtain ⟨ha, ha'⟩ | ⟨a, a', ha, ha', hv, hv'⟩ | ⟨a, a', v, v', ha, ha', hv, hv', hform, htext⟩ :=
          rev.attr_cases h "style" (by decide)
        · simp [ha, ha']
        · simp [ha, ha', hv, hv']
        · simp only [ha, ha', hv, hv', Option.bind_eq_bind, Option.bind_some,
            AttrValue.isExpression_of_form hform, htext]
          split
          · rfl
          · simp [Function.comp_def, rev.relocate_findingAt h css js]
      · rfl
    · intro t' h
      have : t'.attr? "style" = none := rev.attr?_of_added h "style" (by decide)
      simp [this]
  · simp only [List.map_flatMap, List.map_filterMap]
    let faultsIn (e : Document) (move : Nat → Nat) (s : Nat) (text : List Char) (_ : Tag) :
        List Finding :=
      (styleBlocks text).filterMap fun x => ((contrastFault? x.2).map
        (Page.findingAt ⟨e, css, js⟩ .colorContrast (s + x.1))).map (Finding.relocate move)
    have hfaults : ∀ t t' s s' text, (some t, t') ∈ rev.tags →
        (∀ n ≤ byteLength text, g' (d'.line (s' + n)) = g (d.line (s + n))) →
        faultsIn d' g' s' text t' = faultsIn d g s text t := by
      intro t t' s s' text h hline
      apply List.filterMap_congr
      intro b hb
      have := hline b.1 (le_of_mem_blocksFrom hb (by simp) (by simp))
      simp [Function.comp_def, Finding.relocate, Page.findingAt, Finding.ofRule, this]
    exact rev.flatMap_rawBlocksNamed "style" (faultsIn d g) (faultsIn d' g') hfaults
  · simp only [List.map_filterMap]
    apply List.filterMap_congr
    intro b _
    cases contrastFault? b.2 <;> rfl

/-! ## Performance -/

theorem keeps_imgLazyLoading (rev : d.Revision kind g g' d') (hkind : kind ≠ .lazyLoadImages)
    (fold : FoldPolicy) : rev.Keeps (.imgLazyLoading fold) := by
  intro css js
  simp only [Rule.run, Rule.imgLazyLoading, Rule.ofFindings, FoldPolicy.deferrable_eq,
    ← List.filterMap_eq_map, List.filterMap_filter, List.filterMap_filterMap]
  refine filterMap_forall₂ (rev.forall₂_belowFold fold) ?_
  intro t t' h
  have hunread : "loading" ∉ kind.writes := FixKind.not_mem_writes_of_ne (by decide) hkind
  rw [(rev.alike h).hasAttr hunread]
  split
  · simp [rev.value? h "src" (by decide), rev.relocate_findingAt h css js]
  · rfl

/-- External scripts correspond and have the same addresses. -/
theorem forall₂_externalScripts (rev : d.Revision kind g g' d') :
    List.Forall₂ (fun x x' => (some x.1, x'.1) ∈ rev.tags ∧ x'.2 = x.2) d.externalScripts
      d'.externalScripts := by
  simp only [Document.externalScripts, Document.openTagsNamed, List.filterMap_filter]
  apply rev.forall₂_openTags
  · intro t t' h _
    rw [(rev.alike h).name, Tag.scriptSource?, Tag.scriptSource?, rev.value? h "src" (by decide)]
    split
    · cases (t.value? "src").bind fun src => if isBlank src then none else some (trim src) with
      | none => exact .none
      | some src => exact .some ⟨h, rfl⟩
    · exact .none
  · intro t' h
    rw [decide_eq_false (rev.ne_of_added "script".toList (by decide) t' h)]
    rfl

/-- The addresses of external scripts are the same. -/
theorem scriptAddresses (rev : d.Revision kind g g' d') : d'.scriptAddresses = d.scriptAddresses := by
  simp only [Document.scriptAddresses, ← List.filterMap_eq_map]
  exact filterMap_forall₂ rev.forall₂_externalScripts fun x x' hx => congrArg some hx.2

theorem relocate_blockingScripts (rev : d.Revision kind g g' d') (css js : Option (List Char)) :
    (Rule.blockingScripts ⟨d', css, js⟩).map (Finding.relocate g')
      = (Rule.blockingScripts ⟨d, css, js⟩).map (Finding.relocate g) := by
  simp only [Rule.blockingScripts, ← List.filterMap_eq_map, List.filterMap_filter,
    List.filterMap_filterMap]
  refine filterMap_forall₂ rev.forall₂_externalScripts fun x x' hboth => ?_
  obtain ⟨h, hsrc⟩ := hboth
  have hdeferred : x'.1.isDeferred = x.1.isDeferred := by
    rw [Tag.isDeferred, Tag.isDeferred, rev.hasAttr h "async" (by decide),
      rev.hasAttr h "defer" (by decide), rev.value? h "type" (by decide)]
  have hin : d'.inHead x'.1.start = d.inHead x.1.start := by
    obtain ⟨p, p', hp, ht, ht'⟩ := rev.mem_tags.1 h
    rw [(Piece.tag?_range ht).1, (Piece.tag?_range ht').1, rev.inHead hp]
  simp only [hin, hdeferred]
  split
  · simp only [Function.comp_apply, Option.bind_some, hsrc, rev.relocate_findingAt h css js]
  · rfl

theorem relocate_repeatedScripts (rev : d.Revision kind g g' d') (css js : Option (List Char)) :
    (Rule.repeatedScripts ⟨d', css, js⟩).map (Finding.relocate g')
      = (Rule.repeatedScripts ⟨d, css, js⟩).map (Finding.relocate g) := by
  have hscripts := rev.forall₂_externalScripts
  simp only [Rule.repeatedScripts, rev.scriptAddresses, List.map_filterMap]
  apply List.filterMap_congr
  intro src _
  have hsame : List.Forall₂ (fun x x' => (some x.1, x'.1) ∈ rev.tags)
      (d.externalScripts.filter fun s => s.2 = src) (d'.externalScripts.filter fun s => s.2 = src) := by
    revert hscripts
    generalize d.externalScripts = xs
    generalize d'.externalScripts = xs'
    intro hscripts
    induction hscripts with
    | nil => exact .nil
    | cons hx _ ih =>
      rename_i x x' _ _ _
      by_cases hsrc : x.2 = src
      · simpa [hx.2, hsrc, hx.1] using ih
      · simpa [hx.2, hsrc] using ih
  revert hsame
  generalize d.externalScripts.filter (fun s => s.2 = src) = xs
  generalize d'.externalScripts.filter (fun s => s.2 = src) = xs'
  rintro (_ | ⟨_, _ | ⟨h, hrest⟩⟩)
  · rfl
  · rfl
  · simp [rev.relocate_findingAt h css js]

theorem keeps_scriptLoading (rev : d.Revision kind g g' d') (limit : Nat) :
    rev.Keeps (.scriptLoading limit) := by
  intro css js
  simp only [Rule.run_scriptLoading, List.map_append, rev.relocate_blockingScripts,
    rev.relocate_repeatedScripts]
  congr 1
  simp only [Rule.excessScripts, rev.scriptAddresses]
  split <;> rfl

/-! ## Security -/

/-- Links lack the same tokens, where the repair writes none. -/
theorem missingRel (rev : d.Revision kind g g' d') (hkind : kind ≠ .secureTargetBlank)
    (h : (some t, t') ∈ rev.tags) : t'.missingRel = t.missingRel := by
  have hunread : "rel" ∉ kind.writes := FixKind.not_mem_writes_of_ne (by decide) hkind
  exact (rev.alike h).missingRel (kind.not_mem_writes "target" (by decide))
    (kind.not_mem_writes "href" (by decide)) hunread

theorem keeps_targetBlank (rev : d.Revision kind g g' d') (hkind : kind ≠ .secureTargetBlank) :
    rev.Keeps .targetBlank := by
  intro css js
  simp only [Rule.run, Rule.targetBlank, Rule.ofFindings, List.map_filterMap]
  refine filterMap_forall₂ (rev.forall₂_openTagsNamed "a" (by decide)) ?_
  intro t t' h
  rw [rev.missingRel hkind h, rev.value? h "href" (by decide)]
  split
  · rfl
  · simp only [Option.map_some, rev.relocate_findingAt h css js]

/-- The event handler that an attribute is, if it is one. -/
def handler? (c : AttrContent) : Option (List Char) :=
  if c.2.any (fun v => v.1 ≠ .expression) && Rule.isEventHandler c.1 then some c.1 else none

/-- The handlers of a tag are among what it says in attributes that no repair writes. -/
theorem map_name_handlers (kind : FixKind) (t : Tag) :
    (t.attrs.filter fun a => a.value.any (fun v => !v.isExpression)
        && Rule.isEventHandler a.name).map Attr.name
      = (t.contents.filter fun c => c.1 ∉ kind.writes.map String.toList).filterMap handler? := by
  have hwritten : ∀ name ∈ kind.writes, Rule.isEventHandler name.toList = false := by
    cases kind <;> decide
  simp only [Tag.contents, ← List.filterMap_eq_map, List.filterMap_filter, List.filterMap_filterMap]
  apply List.filterMap_congr
  intro a _
  have hany : a.value.any (fun v => !v.isExpression)
      = (a.value.map fun v => (v.form, v.text)).any fun v => decide (v.1 ≠ .expression) := by
    cases a.value <;> simp [AttrValue.isExpression]
  simp only [Function.comp_apply, Option.bind_some, handler?, Attr.content, hany]
  by_cases hmem : a.name ∈ kind.writes.map String.toList
  · obtain ⟨name, hname, heq⟩ := List.mem_map.1 hmem
    simp [← heq, hwritten name hname]
  · simp [hmem]

theorem keeps_inlineHandler (rev : d.Revision kind g g' d') : rev.Keeps .inlineHandler := by
  intro css js
  have hmap : ∀ (t : Tag) (F : List Char → Finding),
      ((t.attrs.filter fun a => a.value.any (fun v => !v.isExpression)
        && Rule.isEventHandler a.name).map fun a => F a.name)
      = ((t.contents.filter fun c => c.1 ∉ kind.writes.map String.toList).filterMap handler?).map
          F := by
    intro t F
    rw [← map_name_handlers, List.map_map]
    rfl
  simp only [Rule.run, Rule.inlineHandler, Rule.ofFindings, List.map_flatMap]
  apply rev.flatMap_openTags
  · intro t t' h
    rw [hmap t fun name => Page.findingAt ⟨d, css, js⟩ .inlineHandler t.start
        ("Inline event handler " ++ String.ofList name ++ " on <" ++ String.ofList t.name ++ ">"),
      hmap t' fun name => Page.findingAt ⟨d', css, js⟩ .inlineHandler t'.start
        ("Inline event handler " ++ String.ofList name ++ " on <" ++ String.ofList t'.name ++ ">"),
      (rev.alike h).contents, (rev.alike h).name, List.map_map, List.map_map]
    exact List.map_congr_left fun name _ => rev.relocate_findingAt h css js _ _
  · intro t' h
    have hnone : ∀ c ∈ t'.contents, handler? c = none := by
      rcases rev.added_tag h with ⟨-, hcontents⟩ | ⟨-, u, hu, hcontents⟩
      · simp [hcontents]
      · rw [hcontents]
        obtain ⟨-, rfl⟩ | ⟨-, rfl⟩ := FixKind.headTag?_eq_some hu <;> decide
    rw [hmap t' fun name => Page.findingAt ⟨d', css, js⟩ .inlineHandler t'.start
      ("Inline event handler " ++ String.ofList name ++ " on <" ++ String.ofList t'.name ++ ">"),
      List.filterMap_eq_nil_iff.2 fun c hc => hnone c (List.mem_filter.1 hc).1]
    rfl

theorem keeps_unsafeSink (rev : d.Revision kind g g' d') : rev.Keeps .unsafeSink := by
  intro css js
  simp only [Rule.run, Rule.unsafeSink, Rule.ofFindings, List.map_append]
  generalize sinkPattern = sinks
  refine congrArg₂ (· ++ ·) (congrArg₂ (· ++ ·) ?_ ?_) ?_
  · simp only [List.map_flatMap, apply_ite, List.map_map, List.map_nil]
    let sinksIn (e : Document) (move : Nat → Nat) (s : Nat) (text : List Char) (t : Tag) :
        List Finding :=
      if t.holdsData then []
      else (sinks.findAll text).map (Finding.relocate move ∘ fun m =>
        Page.findingAt ⟨e, css, js⟩ .unsafeSink (s + m.start)
          ("Unsafe " ++ sinkName m.text ++ " in inline script"))
    have hsinks : ∀ t t' s s' text, (some t, t') ∈ rev.tags →
        (∀ n ≤ byteLength text, g' (d'.line (s' + n)) = g (d.line (s + n))) →
        sinksIn d' g' s' text t' = sinksIn d g s text t := by
      intro t t' s s' text h hline
      have hdata : t'.holdsData = t.holdsData := by
        rw [Tag.holdsData, Tag.holdsData, rev.value? h "type" (by decide)]
      simp only [sinksIn, hdata]
      split
      · rfl
      · apply List.map_congr_left
        intro m hm
        have := hline m.start (Regex.start_le_of_mem_findAll hm)
        simp [Finding.relocate, Page.findingAt, Finding.ofRule, this]
    exact rev.flatMap_rawBlocksNamed "script" (sinksIn d g) (sinksIn d' g') hsinks
  · simp only [Document.openTags, ← List.filterMap_eq_map, List.filterMap_filter,
      List.filterMap_filterMap]
    apply rev.filterMap_tags
    · intro t t' h
      rw [(rev.alike h).isOpen, rev.hasAttr h "dangerouslysetinnerhtml" (by decide)]
      split
      · split
        · simp [(rev.alike h).name, rev.relocate_findingAt h css js]
        · rfl
      · rfl
    · intro t' h
      have : t'.hasAttr "dangerouslysetinnerhtml" = false := by
        rw [Tag.hasAttr, rev.attr?_of_added h "dangerouslysetinnerhtml" (by decide)]
        rfl
      simp [this]
  · simp [Function.comp_def, Finding.relocate, Finding.ofRule]

/-- Every built-in rule finds the same on both sides of a revision, but for the rule whose findings
the repair removes and the search for secrets. -/
theorem keeps_builtin (rev : d.Revision kind g g' d') {fold : FoldPolicy} {limit : Nat}
    {shapes : List SecretShape} {r : Rule} (hr : r ∈ builtinRules fold limit shapes)
    (hfix : r.info.fix ≠ some kind) (hsecret : r.info ≠ .hardcodedSecret) : rev.Keeps r := by
  have hkind : ∀ {k : FixKind}, r.info.fix = some k → kind ≠ k := by
    rintro k hk rfl
    exact hfix hk
  simp only [builtinRules, List.mem_cons, List.not_mem_nil, or_false] at hr
  rcases hr with rfl | rfl | rfl | rfl | rfl | rfl | rfl | rfl | rfl | rfl | rfl | rfl | rfl | rfl |
    rfl | rfl | rfl | rfl | rfl | rfl | rfl
  · exact rev.keeps_doctype (hkind rfl)
  · exact rev.keeps_charset (hkind rfl)
  · exact rev.keeps_viewport (hkind rfl)
  · exact rev.keeps_htmlLang (hkind rfl)
  · exact rev.keeps_pageTitle
  · exact rev.keeps_singleH1
  · exact rev.keeps_headingHierarchy
  · exact rev.keeps_metaDescription
  · exact rev.keeps_openGraph
  · exact rev.keeps_imgAlt
  · exact rev.keeps_imgAltText
  · exact rev.keeps_formLabel
  · exact rev.keeps_linkText
  · exact rev.keeps_buttonName
  · exact rev.keeps_colorContrast
  · exact rev.keeps_imgLazyLoading (hkind rfl) fold
  · exact rev.keeps_scriptLoading limit
  · exact rev.keeps_targetBlank (hkind rfl)
  · exact rev.keeps_inlineHandler
  · exact rev.keeps_unsafeSink
  · exact absurd rfl hsecret

end Document.Revision

end MarkupGate
