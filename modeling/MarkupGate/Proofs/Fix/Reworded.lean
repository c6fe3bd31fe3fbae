import MarkupGate.Config.Check
import MarkupGate.Proofs.Fix.Applied
import MarkupGate.Proofs.Fix.Exact

/-!
# Reworded tags

Three repairs set an attribute of a tag from text that they do not control: a link keeps the `rel`
tokens it had, a charset is overwritten inside its value, and a language comes from the configuration.
Each is exact where the new value fits the form in which it is written, and only there.

* `secureTargetBlank_exact_iff`: every bare `rel` value must be free of double quotes.
* `insertCharset_exact_iff`: the charset must not take part in the braces and strings of an expression.
* `insertLang_exact_iff`: the language must fit the value that it replaces. That it is not blank, which
  is all that the configuration is checked for, is not enough.
-/

namespace MarkupGate

/-- A value in quotes holds any text without them. -/
theorem ValueForm.fits_iff_of_quote {form : ValueForm} {q : Char} (h : form.quote = [q])
    (text : List Char) : form.Fits text ↔ q ∉ text := by
  cases form with
  | doubleQuoted =>
    obtain rfl : '"' = q := by simpa [quote] using h
    rfl
  | singleQuoted =>
    obtain rfl : '\'' = q := by simpa [quote] using h
    rfl
  | expression => cases h
  | unquoted => cases h

/-! ## Links -/

/-- Whether a tag says what a link does, with a first `rel` attribute that has the tokens the link lacked
behind those it had. -/
def Tag.CompletesRel (t : Tag) : Tag → Prop :=
  t.SaysWith "rel" fun _ text => words text = words t.relText ++ t.missingRel.map String.toList

namespace Repair

/-- A link whose tokens are completed tells whether it was read as written: a value that is read in
quotes holds none of them, and neither do the tokens. -/
theorem CompletesRel.tells {t t' : OpenTag} (h : CompletesRel t t') (hcomplete : t.Complete)
    (start : Nat) : t'.Tells t ((t.place start).CompletesRel) (t.place start).relQuotable := by
  obtain ⟨v, hputs, hmissing, htext, ⟨q, hquote⟩, hfits⟩ := h
  obtain ⟨hquotable, hrel, hlacks⟩ := t.place_rel start
  have hwords : words v.text
      = words (t.place start).relText ++ (t.place start).missingRel.map String.toList := by
    rw [htext, words_mergedRel fun _ => Tag.mem_requiredRel_of_missing, hrel, hlacks]
  rw [hquotable]
  refine (hputs.tells hcomplete start hwords fun hread hvalue => ?_).of_iff hfits
  rw [ValueForm.fits_iff_of_quote hquote]
  have hblank : isBlankChar q = false := by
    cases hform : v.form <;> rw [hform] at hquote <;> cases hquote <;> decide
  rw [mem_iff_exists_word hblank, hwords, ← hread, ← mem_iff_exists_word hblank]
  exact (ValueForm.not_mem_of_read hquote hvalue).2

/-- Where links are completed, all tags are told apart. -/
theorem told_links {html : List Char} {T : Track Piece}
    (hT : EditsTags html (linkEdit? html) CompletesRel T) {o : Option (Located Piece)}
    {q : Located Piece} (hq : (o, q) ∈ T.place 0 0) :
    ∃ p, o = some p ∧ Piece.Told
      (fun t => t ∈ (Document.parse html).openTagsNamed "a" ∧ t.missingRel ≠ []) Tag.CompletesRel
      (fun t => t.relQuotable) p q.item := by
  refine hT.told (fun u hu hnone => ?_) (fun t t' start htag hedit hcomplete hR => ?_) hq
  · rintro ⟨hlink, hmissing⟩
    obtain ⟨-, hopen, hname⟩ := Document.mem_openTagsNamed.1 hlink
    rw [linkEdit?, if_pos (by simp [hopen, hname])] at hnone
    exact hmissing (relEdit?_eq_none_iff.1 hnone)
  · rw [linkEdit?] at hedit
    split at hedit
    · rename_i hlink
      obtain ⟨hopen, hname⟩ : (t.place start).isOpen ∧ (t.place start).name = "a".toList := by
        simpa using hlink
      refine ⟨⟨Document.mem_openTagsNamed.2 ⟨htag, hopen, hname⟩, ?_⟩, hR.tells hcomplete start⟩
      simpa [isSome_relEdit?] using hedit
    · cases hedit

/-- Completing links is exact, and leaves nothing to find, where every bare value that it puts in quotes
is free of double quotes. Everywhere else it is not. -/
theorem secureTargetBlank_exact_iff {html : List Char} {repair : Repair}
    (h : secureTargetBlank html = .ok (some repair)) (css js : Option (List Char)) :
    ((Document.parse html).SaysBut
        (Tag.KeptBut (fun t => t ∈ (Document.parse html).openTagsNamed "a" ∧ t.missingRel ≠ [])
          Tag.CompletesRel) (.parse repair.html)
      ∧ Rule.targetBlank.run (.ofSource repair.html css js) = [])
    ↔ ∀ t ∈ (Document.parse html).openTagsNamed "a", t.missingRel ≠ [] → t.relQuotable := by
  obtain ⟨hnone, hinsert⟩ := secureTargetBlank_spec html
  by_cases hlinks : ((Document.parse html).openTagsNamed "a").filterMap (relEdit? html) = []
  · rw [hnone hlinks] at h
    cases h
  obtain ⟨T, hT, hrun⟩ := hinsert hlinks
  rw [hrun] at h
  cases h
  have hexact := Document.saysBut_iff hT.1 fun o q => told_links hT
  constructor
  · rintro ⟨hsaid, -⟩ t ht hmissing
    exact hexact.1 hsaid t (Document.mem_openTagsNamed.1 ht).1 ⟨ht, hmissing⟩
  · intro hquotable
    refine ⟨hexact.2 fun t _ ⟨ht, hmissing⟩ => hquotable t ht hmissing, ?_⟩
    have hsilent := (applied_links hT hquotable Catalog.standard.fold).silent
    exact (FixKind.run_rule_eq_nil_iff .secureTargetBlank Catalog.standard.fold _ css js).2 hsilent

/-- Links that lack tokens in every form that takes them, and one to the same site. -/
def hardLinks : List Char :=
  "<A HREF='//x.io' TARGET=_BLANK REL=nofollow>é</A>".toList
    ++ "<a href=//y target=_blank rel>".toList
    ++ "<a href=//z target=_blank rel='a\"b  NoOpener' rel=x>".toList
    ++ "<a href=//v target=_blank>".toList ++ "<a href=/in target=_blank rel=a\"b>".toList

/-- Where the links of `hardLinks` get their tokens. -/
def completions : List Edit :=
  [⟨⟨35, 43⟩, "\"nofollow noopener noreferrer\"".toList⟩,
    ⟨⟨79, 79⟩, "=\"noopener noreferrer\"".toList⟩,
    ⟨⟨111, 124⟩, "a\"b NoOpener noreferrer".toList⟩,
    ⟨⟨134, 134⟩, " rel=\"noopener noreferrer\"".toList⟩]

/-- `hardLinks` with all tokens. -/
def completedLinks : List Char :=
  "<A HREF='//x.io' TARGET=_BLANK REL=\"nofollow noopener noreferrer\">é</A>".toList
    ++ "<a href=//y target=_blank rel=\"noopener noreferrer\">".toList
    ++ "<a href=//z target=_blank rel='a\"b NoOpener noreferrer' rel=x>".toList
    ++ "<a rel=\"noopener noreferrer\" href=//v target=_blank>".toList
    ++ "<a href=/in target=_blank rel=a\"b>".toList

/-- The links of `hardLinks` get their tokens and nothing else changes. -/
theorem secureTargetBlank_exact_hardLinks : ∃ description,
    secureTargetBlank hardLinks = .ok (some ⟨completedLinks, description⟩)
    ∧ (Document.parse hardLinks).SaysBut
        (Tag.KeptBut (fun t => t ∈ (Document.parse hardLinks).openTagsNamed "a" ∧ t.missingRel ≠ [])
          Tag.CompletesRel) (.parse completedLinks)
    ∧ Rule.targetBlank.run (.ofSource completedLinks none none) = [] := by
  have hedits : ((Document.parse hardLinks).openTagsNamed "a").filterMap (relEdit? hardLinks)
      = completions := by
    decide +kernel
  have happly : applyEdits .secureTargetBlank hardLinks completions = .ok completedLinks :=
    applyEdits_of_splice? _ (by decide) (by decide +kernel)
  have hrun : secureTargetBlank hardLinks = .ok (some ⟨completedLinks,
      "Added rel=\"noopener noreferrer\" to " ++ toString completions.length ++ " external "
        ++ counted completions.length "link"⟩) := by
    simp only [secureTargetBlank, hedits]
    exact ofEdits_of_applyEdits (by decide) happly _
  have hquotable : ∀ t ∈ (Document.parse hardLinks).openTagsNamed "a", t.missingRel ≠ [] →
      t.relQuotable := by
    decide +kernel
  have hexact := (secureTargetBlank_exact_iff hrun none none).2 hquotable
  dsimp only at hexact
  exact ⟨_, hrun, hexact⟩

/-- A bare value with a double quote in it is put in double quotes, which it ends: the tokens behind it
are no tokens of `rel`, and the link is found again. -/
theorem exists_link_unfinished : ∃ html repair, secureTargetBlank html = .ok (some repair)
    ∧ (Document.parse repair.html).tags.map (fun t => t.value? "rel") = [some "a".toList]
    ∧ Rule.targetBlank.run (.ofSource repair.html none none) ≠ [] :=
  ⟨"<a href=//x.io target=_blank rel=a\"b>".toList,
    ⟨"<a href=//x.io target=_blank rel=\"a\"b noopener noreferrer\">".toList,
      "Added rel=\"noopener noreferrer\" to 1 external link"⟩,
    by decide +kernel, by decide +kernel, by decide +kernel⟩

end Repair

/-! ## Charsets -/

/-- A declaration is overwritten in one way only. -/
theorem CharsetDeclaration.Overwritten.unique {c : CharsetDeclaration} {form form' : ValueForm}
    {text text' : List Char} (h : c.Overwritten form text) (h' : c.Overwritten form' text') :
    form' = form ∧ text' = text := by
  obtain ⟨a, v, front, behind, ha, hv, hold, hspan, rfl, rfl⟩ := h
  obtain ⟨a', v', front', behind', ha', hv', hold', hspan', rfl, rfl⟩ := h'
  obtain rfl := Option.some.inj (ha.symm.trans ha')
  obtain rfl := Option.some.inj (hv.symm.trans hv')
  have hlength : byteLength front = byteLength front' := by
    have hstart := congrArg (Option.map Span.start) (hspan.symm.trans hspan')
    simpa [Span.ofText] using hstart
  have hsplit := splitAtOffset?_byteLength front (c.value ++ behind)
  rw [← List.append_assoc, ← hold, hold', hlength, List.append_assoc, splitAtOffset?_byteLength] at hsplit
  obtain ⟨rfl, hbehind⟩ := Prod.mk.inj (Option.some.inj hsplit)
  obtain rfl := List.append_cancel_left hbehind
  exact ⟨rfl, rfl⟩

/-- Whether a tag says what the tag of a declaration does, but for the overwritten charset. -/
def CharsetDeclaration.OverwrittenIn (c : CharsetDeclaration) : Tag → Prop :=
  c.tag.SaysWith c.tag.charsetAttr c.Overwritten

namespace Repair

/-- Overwriting a declared charset is exact, and leaves nothing to find, where the charset can be
overwritten. Everywhere else it is not. -/
theorem insertCharset_exact_iff {html : List Char} {css js : Option (List Char)}
    (hfires : Rule.charset.run (.ofSource html css js) ≠ [])
    (hspan : ∃ c ∈ (Document.parse html).charsetDeclarations, c.span.isSome) :
    ∃ c ∈ (Document.parse html).charsetDeclarations, ∃ repair,
      insertCharset html = .ok (some repair)
      ∧ (((Document.parse html).SaysBut (Tag.KeptBut (· = c.tag) fun _ => c.OverwrittenIn)
            (.parse repair.html)
          ∧ Rule.charset.run (.ofSource repair.html css js) = [])
        ↔ c.tag.CharsetOverwritable) := by
  have hutf8 : (Document.parse html).declaresUtf8 = false := by
    rw [← Bool.not_eq_true]
    exact fun hsilent => hfires
      ((FixKind.run_rule_eq_nil_iff .insertCharset Catalog.standard.fold _ css js).2 hsilent)
  obtain ⟨⟨c, span⟩, hfirst⟩ : ∃ found, (Document.parse html).charsetDeclarations.findSome?
      (fun c => c.span.map fun span => (c, span)) = some found := by
    obtain ⟨c, hc, hsome⟩ := hspan
    rw [← Option.isSome_iff_exists, List.findSome?_isSome_iff]
    exact ⟨c, hc, by simpa using hsome⟩
  obtain ⟨A, t, content, B, t', v, hlex, htag, hdeclares, hputs, hover, hfits, hrun⟩ :=
    overwriteCharset_spec hutf8 hfirst
  have hmem := (CharsetDeclaration.mem_of_findSome? hfirst).1
  refine ⟨c, hmem, _, hrun, ?_⟩
  have htells : t'.Tells t c.OverwrittenIn (v.form.Fits v.text) := by
    rw [CharsetDeclaration.OverwrittenIn, htag]
    rw [htag] at hputs
    refine hputs.tells (.of_lex hlex) _ hover fun hover' hvalue => ?_
    obtain ⟨rfl, rfl⟩ := hover.unique hover'
    obtain ⟨_, _, front, behind, -, -, -, -, -, htext⟩ := hover
    refine (ValueForm.fits_of_read ⟨'U', ?_, by decide⟩ hvalue).2
    rw [htext]
    simp
  have hedited : ∀ u, u = c.tag ↔ u = t.place (byteLength (A.flatMap Piece.source)) := fun u => by
    rw [htag]
  rw [Document.saysBut_tag_iff (Q := fun _ => c.OverwrittenIn) hlex hedited (htells.of_iff hfits)]
  refine ⟨And.left, fun hsafe => ⟨hsafe, ?_⟩⟩
  have hmeta := (Document.mem_charsetDeclarations hmem).1
  rw [htag] at hmeta
  have hsilent := (applied_charset Catalog.standard.fold hlex hmeta hdeclares
    (hputs.respells (hfits.2 hsafe))).silent
  exact (FixKind.run_rule_eq_nil_iff .insertCharset Catalog.standard.fold _ css js).2 hsilent

/-- A content type in an expression, behind a charset without a value. -/
def quotedCharset : List Char :=
  "<meta charset><META HTTP-EQUIV=Content-Type ".toList
    ++ "CONTENT=\x7b\"text/html; Charset=latin1; x\"\x7d>a".toList

/-- The name of the charset in `quotedCharset` stands apart from what ends the string. -/
theorem insertCharset_exact_quotedCharset :
    ∃ c ∈ (Document.parse quotedCharset).charsetDeclarations, ∃ repair,
      insertCharset quotedCharset = .ok (some repair)
      ∧ (Document.parse quotedCharset).SaysBut (Tag.KeptBut (· = c.tag) fun _ => c.OverwrittenIn)
          (.parse repair.html)
      ∧ Rule.charset.run (.ofSource repair.html none none) = [] := by
  have hfires : Rule.charset.run (.ofSource quotedCharset none none) ≠ [] := by decide +kernel
  have hspan : ∃ c ∈ (Document.parse quotedCharset).charsetDeclarations, c.span.isSome := by
    decide +kernel
  obtain ⟨c, hc, repair, hrun, hexact⟩ := insertCharset_exact_iff hfires hspan
  have hneutral : ∀ c ∈ (Document.parse quotedCharset).charsetDeclarations,
      ∀ a ∈ c.tag.attr? "content", ∀ v ∈ a.value,
      ∀ parts ∈ CharsetDeclaration.parameter? v.text, BraceNeutral parts.1 parts.2 := by
    decide +kernel
  refine ⟨c, hc, repair, hrun, hexact.2 fun _ a ha v hv _ front name hparameter => ?_⟩
  exact hneutral c hc a ha v hv (front, name) hparameter

/-- A charset at the end of the string in an expression is taken to reach to the end of the expression.
Both are overwritten with it, so the tag does not end any more. -/
theorem exists_charset_unread : ∃ html repair,
    Rule.charset.run (.ofSource html none none) ≠ []
    ∧ (∃ c ∈ (Document.parse html).charsetDeclarations, c.span.isSome)
    ∧ insertCharset html = .ok (some repair) ∧ (Document.parse repair.html).tags = []
    ∧ Rule.charset.run (.ofSource repair.html none none) ≠ [] :=
  ⟨"<meta http-equiv=content-type content=\x7b\"text/html; charset=latin1\"\x7d>".toList,
    ⟨"<meta http-equiv=content-type content=\x7b\"text/html; charset=UTF-8>".toList,
      "Changed declared charset from 'latin1\"\x7d' to UTF-8"⟩,
    by decide +kernel, by decide +kernel, by decide +kernel, by decide +kernel, by decide +kernel⟩

end Repair

/-! ## Languages -/

/-- The form in which a fitting text is read follows from the one in which it is written. -/
theorem ValueForm.eq_reread_of_fits {form form' : ValueForm} {text : List Char}
    (hform : form ≠ .expression) (hquote : form'.quote = form.quote) (hfits : form'.Fits text) :
    form' = form.reread text := by
  cases form with
  | expression => exact absurd rfl hform
  | unquoted =>
    cases form' with
    | expression =>
      obtain ⟨inside, rfl, -⟩ := hfits
      rfl
    | unquoted =>
      obtain ⟨⟨c, hc, -, -, hbrace⟩, -⟩ := hfits
      rw [List.append_nil] at hc
      simp [reread, hc, hbrace]
    | _ => cases hquote
  | doubleQuoted =>
    cases form' with
    | doubleQuoted => rfl
    | _ => cases hquote
  | singleQuoted =>
    cases form' with
    | singleQuoted => rfl
    | _ => cases hquote

/-- Whether a tag says what another one does, but for a language. -/
def Tag.SetsLang (lang : List Char) (t : Tag) : Tag → Prop :=
  t.SaysWith "lang" fun _ text => text = lang

namespace Repair

/-- A tag whose language is set tells whether it was read as written. -/
theorem tells_lang {lang : List Char} {t t' : OpenTag} {start : Nat} {e : Edit} {v : WrittenValue}
    (hedit : langEdit? lang (t.place start) = some e) (hputs : t.Puts "lang" v t')
    (htext : v.text = lang) (hform : v.form = (t.place start).langForm lang)
    (hcomplete : t.Complete) (hblank : isBlank lang = false) :
    t'.Tells t ((t.place start).SetsLang lang) (((t.place start).langForm lang).Fits lang) := by
  rw [← hform]
  subst htext
  refine hputs.tells hcomplete start rfl fun htext hvalue => ?_
  subst htext
  have hsolid : ∃ c ∈ v.text, isMarkupSpace c = false := by
    obtain ⟨c, hc, hsolid⟩ := List.all_eq_false.1 hblank
    refine ⟨c, hc, Bool.eq_false_iff.2 fun hspace => hsolid ?_⟩
    simp only [isMarkupSpace, Bool.or_eq_true, decide_eq_true_eq] at hspace
    rcases hspace with (((rfl | rfl) | rfl) | rfl) | rfl <;> rfl
  obtain ⟨hquote, hfits⟩ := ValueForm.fits_of_read hsolid hvalue
  -- The form in which the language was written is the one in which it is read if it fits.
  obtain ⟨form, hne, heq⟩ := Tag.exists_langForm_eq hedit
  rw [hform, heq, form.quote_reread] at hquote
  rwa [hform, heq, ← ValueForm.eq_reread_of_fits hne hquote hfits]

/-- Naming a language is exact where the language fits the value that it becomes, and then the page names
it and is left alone from now on. Everywhere else it is not exact, whatever the check of the
configuration has let through. -/
theorem insertLang_exact_iff {config : Config} (hcheck : config.check = .ok ()) {html : List Char}
    {repair : Repair} (h : insertLang config.autofix.langOrDefault.toList html = .ok (some repair))
    (css js : Option (List Char)) :
    ((Document.parse html).SaysBut
        (Tag.KeptBut (fun t => (Document.parse html).firstOpen? "html" = some t)
          (Tag.SetsLang config.autofix.langOrDefault.toList)) (.parse repair.html)
      ∧ (∃ t, (Document.parse repair.html).firstOpen? "html" = some t
        ∧ t.value? "lang" = some config.autofix.langOrDefault.toList)
      ∧ Rule.htmlLang.run (.ofSource repair.html css js) = []
      ∧ insertLang config.autofix.langOrDefault.toList repair.html = .ok none)
    ↔ ∃ t, (Document.parse html).firstOpen? "html" = some t
      ∧ (t.langForm config.autofix.langOrDefault.toList).Fits
          config.autofix.langOrDefault.toList := by
  have hblank : isBlank config.autofix.langOrDefault.toList = false :=
    (Config.check_eq_ok_iff.1 hcheck).2.2.2.2.1
  revert h hblank
  generalize config.autofix.langOrDefault.toList = lang
  intro h hblank
  obtain ⟨A, t, content, B, t', v, e, hlex, hfirst, hedit, hputs, htext, hform, -, hhtml⟩ :=
    exists_of_insertLang h
  have hexact : (Document.parse html).SaysBut
      (Tag.KeptBut (fun t => (Document.parse html).firstOpen? "html" = some t) (Tag.SetsLang lang))
      (.parse repair.html)
      ↔ ((t.place (byteLength (A.flatMap Piece.source))).langForm lang).Fits lang := by
    rw [hhtml, hfirst]
    exact Document.saysBut_tag_iff (Q := Tag.SetsLang lang) hlex
      (fun u => Option.some_inj.trans eq_comm)
      (tells_lang hedit hputs htext hform (.of_lex hlex) hblank)
  constructor
  · rintro ⟨hsaid, -⟩
    exact ⟨_, hfirst, hexact.1 hsaid⟩
  · rintro ⟨u, hu, hfits⟩
    obtain rfl := Option.some.inj (hfirst.symm.trans hu)
    have hsaid := hexact.2 hfits
    obtain ⟨u', hu', hkept⟩ :=
      hsaid.exists_firstOpen? (fun _ _ hsets => Tag.SaysWith.name_kind hsets) hfirst
    obtain ⟨a, v', ha, hv, hvalue⟩ := (hkept.edited hfirst).attr?
    have hnames : u'.namesLang := by simp [Tag.namesLang, ha, hv, hvalue, isMissing, hblank]
    have hsilent : FixKind.insertLang.Silent Catalog.standard.fold (.parse repair.html) :=
      ⟨u', hu', hnames⟩
    refine ⟨hsaid, ⟨u', hu', by simp [Tag.value?, ha, hv, hvalue]⟩, ?_, ?_⟩
    · exact (FixKind.run_rule_eq_nil_iff .insertLang Catalog.standard.fold _ css js).2 hsilent
    · have hagain := run_eq_none lang (.inl hsilent)
      exact hagain

/-- A language with a quote, a space and a brace in it. -/
def oddLang : Config where
  autofix := { defaultLang := some "a\" \x7b" }

/-- A page with a blank language in single quotes, and with another `html` tag in a comment. -/
def blankLang : List Char := "<!--<html>--><HTML ID=x LANG='\n' lang=de>a".toList

/-- Between single quotes there is room for every language without them. -/
theorem insertLang_exact_oddLang : oddLang.check = .ok () ∧ ∃ repair,
    insertLang oddLang.autofix.langOrDefault.toList blankLang = .ok (some repair)
    ∧ (∃ t, (Document.parse repair.html).firstOpen? "html" = some t
      ∧ t.value? "lang" = some oddLang.autofix.langOrDefault.toList)
    ∧ Rule.htmlLang.run (.ofSource repair.html none none) = []
    ∧ insertLang oddLang.autofix.langOrDefault.toList repair.html = .ok none := by
  have hcheck : oddLang.check = .ok () := by decide +kernel
  have hrun : insertLang oddLang.autofix.langOrDefault.toList blankLang
      = .ok (some ⟨"<!--<html>--><HTML ID=x LANG='a\" \x7b' lang=de>a".toList,
        "Added lang=\"a\" \x7b\" to <html>"⟩) := by
    decide +kernel
  have hform : ((Document.parse blankLang).firstOpen? "html").map
      (fun t => t.langForm oddLang.autofix.langOrDefault.toList) = some .singleQuoted := by
    decide +kernel
  obtain ⟨t, ht, hform⟩ := Option.map_eq_some_iff.1 hform
  have hfits : ValueForm.singleQuoted.Fits oddLang.autofix.langOrDefault.toList :=
    (ValueForm.fits_iff_of_quote rfl _).2 (by decide)
  exact ⟨hcheck, _, hrun, ((insertLang_exact_iff hcheck hrun none none).2 ⟨t, ht, hform ▸ hfits⟩).2⟩

/-- A language that begins with a quote passes the check. In quotes, it ends the value that it should
become. What is left of the value is blank, so it is replaced time and again. -/
theorem exists_lang_unread : ∃ (config : Config) (html : List Char) (repair again : Repair),
    config.check = .ok ()
    ∧ insertLang config.autofix.langOrDefault.toList html = .ok (some repair)
    ∧ (Document.parse repair.html).tags.map (fun t => t.value? "lang") = [some []]
    ∧ Rule.htmlLang.run (.ofSource repair.html none none) ≠ []
    ∧ insertLang config.autofix.langOrDefault.toList repair.html = .ok (some again) :=
  ⟨{ autofix := { defaultLang := some "\"en" } }, "<html>".toList,
    ⟨"<html lang=\"\"en\">".toList, "Added lang=\"\"en\" to <html>"⟩,
    ⟨"<html lang=\"\"en\"en\">".toList, "Added lang=\"\"en\" to <html>"⟩,
    by decide +kernel, by decide +kernel, by decide +kernel, by decide +kernel, by decide +kernel⟩

end Repair

end MarkupGate
