import MarkupGate.Proofs.Fix.Setting
import MarkupGate.Proofs.Text.Words

/-!
# What repairs do to tags

The repairs that change tags set one attribute of each: whatever form it had before, it now says what
it should, and all other attributes say what they said. Each repair has a theorem that its edits bring
this about.

Whether the new tag is also read where it stands depends on whether the new value fits its form. Lazy
loading never disturbs the reader. A language is written as it is, so it must fit the place where it
goes. A bare `rel` value is put in double quotes as it is, which goes wrong where it holds a double
quote; and a charset inside an expression can be overwritten only where its characters do not keep the
braces and strings of the expression in balance.
-/

namespace MarkupGate

/-! ## The language -/

/-- The form in which a text is read that is written in some form and fits: what stands bare is an
expression if it begins with a brace. -/
def ValueForm.reread (text : List Char) : ValueForm → ValueForm
  | unquoted => if text.head? = some '{' then expression else unquoted
  | form => form

theorem ValueForm.quote_reread (text : List Char) (form : ValueForm) :
    (form.reread text).quote = form.quote := by
  cases form with
  | unquoted => rw [reread]; split <;> rfl
  | _ => rfl

/-- The form in which a language is read that is set in a tag. -/
def Tag.langForm (t : Tag) (lang : List Char) : ValueForm :=
  match (t.attr? "lang").bind Attr.value with
  | none => .doubleQuoted
  | some v => v.form.reread lang

/-- A language is not set in an expression. -/
theorem Tag.exists_langForm_eq {t : Tag} {lang : List Char} {e : Edit}
    (h : Repair.langEdit? lang t = some e) :
    ∃ form : ValueForm, form ≠ .expression ∧ t.langForm lang = form.reread lang := by
  cases ha : t.attr? "lang" with
  | none => exact ⟨.doubleQuoted, nofun, by simp [langForm, ha, ValueForm.reread]⟩
  | some a =>
    cases hv : a.value with
    | none => exact ⟨.doubleQuoted, nofun, by simp [langForm, ha, hv, ValueForm.reread]⟩
    | some v =>
      refine ⟨v.form, fun hform => ?_, by simp [langForm, ha, hv]⟩
      simp [Repair.langEdit?, ha, hv, AttrValue.isExpression, hform] at h

/-- A plain language fits every tag that gets one. -/
theorem Tag.fits_langForm {t : Tag} {lang : List Char} {e : Edit} (h : Repair.langEdit? lang t = some e)
    (hne : lang ≠ []) (hlang : ∀ c ∈ lang, isPlainChar c) : (t.langForm lang).Fits lang := by
  obtain ⟨form, hform, heq⟩ := Tag.exists_langForm_eq h
  have hbrace : lang.head? ≠ some '{' := fun hhead => by
    have := hlang '{' (List.mem_of_head? hhead)
    revert this
    decide
  have hreread : form.reread lang = form := by cases form <;> simp [ValueForm.reread, hbrace]
  rw [heq, hreread]
  exact ValueForm.fits_of_plain hform hne hlang

namespace OpenTag

variable {t t' : OpenTag} {ps qs : List TagPart} {w : WrittenAttr} {start : Nat} {e : Edit}

/-- How a tag is written in which a language is set: something is put in, or the language takes the
place of the value that was there. -/
def WritesLang (t t' : OpenTag) (start : Nat) (lang : List Char) : Prop :=
  match ((t.place start).attr? "lang").bind Attr.value with
  | none => ∃ front new behind, t.source = front ++ behind ∧ t'.source = front ++ new ++ behind
      ∧ ('\n' ∉ lang → '\n' ∉ new)
  | some v => ∃ front behind, t.source = front ++ v.text ++ behind
      ∧ t'.source = front ++ lang ++ behind ∧ v.start = start + byteLength front

/-- A tag without the attribute gets it behind its name. -/
theorem writesLang_prepend {lang : List Char} (ha : (t.place start).attr? "lang" = none) :
    t.WritesLang (t.prepend "lang".toList lang) start lang := by
  rw [WritesLang, ha]
  refine ⟨'<' :: t.name, " lang=".toList ++ Repair.inQuotes lang,
    t.parts.flatMap TagPart.source ++ t.ending, by simp [source], ?_, fun hlang => ?_⟩
  · simp [prepend, source, ending_eq, TagPart.source, WrittenAttr.source, WrittenAttr.quoted,
      WrittenValue.source, WrittenValue.lead, ValueForm.quote, Repair.inQuotes]
  · simpa [Repair.inQuotes] using hlang

/-- An attribute without a value gets one behind its name. -/
theorem writesLang_boolean {a : Attr} {lang : List Char} (ha : (t.place start).attr? "lang" = some a)
    (hparts : t.parts = ps ++ .attr w :: qs) (hvalue : a.value = none) (hw : w.value = none) :
    t.WritesLang (t.withParts (ps ++ .attr (.quoted w.name lang) :: qs)) start lang := by
  rw [WritesLang, ha, Option.bind_some, hvalue]
  refine ⟨'<' :: t.name ++ ps.flatMap TagPart.source ++ w.name, '=' :: Repair.inQuotes lang,
    qs.flatMap TagPart.source ++ t.ending, ?_, ?_, fun hlang => ?_⟩
  · rw [source_of_parts hparts]
    simp [WrittenAttr.source, hw]
  · rw [source_withParts]
    simp [WrittenAttr.source, WrittenAttr.quoted, WrittenValue.source, WrittenValue.lead,
      ValueForm.quote, Repair.inQuotes]
  · simpa [Repair.inQuotes] using hlang

/-- A value makes room for the language. -/
theorem writesLang_value {v : WrittenValue} {form : ValueForm} {lang : List Char}
    (ha : (t.place start).attr? "lang"
      = some (w.place ((t.place start).nameEnd + byteLength (ps.flatMap TagPart.source))))
    (hparts : t.parts = ps ++ .attr w :: qs) (hw : w.value = some v)
    (hquote : form.quote = v.form.quote) :
    t.WritesLang (t.withParts (ps ++ .attr (w.withText v form lang) :: qs)) start lang := by
  rw [WritesLang, ha, Option.bind_some, WrittenAttr.place, hw, Option.map_some]
  refine ⟨'<' :: t.name ++ ps.flatMap TagPart.source ++ w.name ++ v.lead,
    v.form.quote ++ (qs.flatMap TagPart.source ++ t.ending), ?_, ?_, ?_⟩
  · rw [source_of_parts hparts]
    simp [WrittenAttr.source, hw, WrittenValue.source]
  · rw [source_withParts]
    simp [WrittenAttr.source, WrittenAttr.withText, WrittenValue.source, WrittenValue.lead, hquote]
  · simp only [OpenTag.place, byteLength_append, byteLength_cons, ← Nat.add_assoc]
    rfl

/-- Setting a language. -/
theorem exists_of_langEdit? {lang : List Char} (h : Repair.langEdit? lang (t.place start) = some e) :
    ∃ t' v, t.EditedBy start e t' ∧ t.Puts "lang" v t' ∧ v.text = lang
      ∧ v.form = (t.place start).langForm lang ∧ t.WritesLang t' start lang := by
  rw [Repair.langEdit?] at h
  split at h
  · rename_i ha
    cases h
    refine ⟨_, _, t.editedBy_prepend start "lang".toList lang,
      .new (absent_of_attr? ha) (by decide) (List.all_eq_true.1 (by decide)) (by decide), rfl, ?_,
      writesLang_prepend ha⟩
    rw [Tag.langForm, ha]
    rfl
  · rename_i a ha
    obtain ⟨ps, w, qs, hparts, rfl, hname, hfirst⟩ := parts_of_attr? ha
    split at h
    · rename_i hvalue
      cases h
      have hw : w.value = none := by simpa [WrittenAttr.place] using hvalue
      refine ⟨_, _, editedBy_replace hparts (WrittenAttr.rewrites_boolean hw _ lang),
        .given hparts hfirst hname (WrittenAttr.takes_boolean hw lang), rfl, ?_,
        writesLang_boolean ha hparts hvalue hw⟩
      rw [Tag.langForm, ha, Option.bind_some, hvalue]
    · rename_i u hu
      split at h
      · cases h
      · cases h
        obtain ⟨v, hw, rfl⟩ := Option.map_eq_some_iff.1 hu
        have hbare : v.form.reread lang = .unquoted → v.form = .unquoted := by
          cases hform : v.form <;> simp [ValueForm.reread]
        have hquote := v.form.quote_reread lang
        refine ⟨_, _, editedBy_replace hparts (WrittenAttr.rewrites_value hw hquote _ lang),
          .given hparts hfirst hname (WrittenAttr.takes_value hw _ lang hbare), rfl, ?_,
          writesLang_value ha hparts hw hquote⟩
        rw [Tag.langForm, ha, Option.bind_some, hu]

/-! ## Lazy loading -/

theorem sets_loading (t : OpenTag) (start : Nat) :
    t.EditedBy start (.insertion (t.place start).nameEnd " loading=\"lazy\"".toList)
        (t.prepend "loading".toList "lazy".toList)
      ∧ (t.prepend "loading".toList "lazy".toList).Sets t "loading" .doubleQuoted "lazy".toList
      ∧ (t.prepend "loading".toList "lazy".toList).Respells t
      ∧ (t.prepend "loading".toList "lazy".toList).source.count '\n' = t.source.count '\n' := by
  refine ⟨t.editedBy_prepend start "loading".toList "lazy".toList,
    t.sets_prepend "loading" "lazy".toList (by decide),
    t.respells_prepend (by decide) (List.all_eq_true.1 (by decide)) (by decide), ?_⟩
  have hnew : (TagPart.attr (.quoted "loading".toList "lazy".toList)).source.count '\n' = 0 := by
    decide
  have hspace : (TagPart.filler [' ']).source.count '\n' = 0 := by decide
  simp only [prepend, source, ending, List.flatMap_cons, List.cons_append, List.count_cons,
    List.count_append, hnew, hspace, Nat.zero_add]
  rfl

end OpenTag

/-! ## Links -/

/-- Whether the `rel` value of a tag can be put in double quotes if it is bare. -/
def Tag.relQuotable (t : Tag) : Bool :=
  (t.attr? "rel").all fun a => a.value.all fun v => v.form ≠ .unquoted || !v.text.contains '"'

theorem Tag.Alike.relQuotable {unread : List String} {t t' : Tag} (h : Alike unread t t')
    (hrel : "rel" ∉ unread) : t'.relQuotable = t.relQuotable := by
  rw [Tag.relQuotable, Tag.relQuotable]
  obtain ⟨ha, ha'⟩ | ⟨a, a', ha, ha', hv, hv'⟩ | ⟨a, a', v, v', ha, ha', hv, hv', hform, htext⟩ :=
    h.attr_cases hrel
  · simp [ha, ha']
  · simp [ha, ha', hv, hv']
  · simp [ha, ha', hv, hv', hform, htext]

/-- The text of the first `rel` attribute of a tag, empty if it has none or no value. -/
def Tag.relText (t : Tag) : List Char := ((t.attr? "rel").map Attr.text).getD []

theorem Tag.Alike.relText {unread : List String} {t t' : Tag} (h : Alike unread t t')
    (hrel : "rel" ∉ unread) : t'.relText = t.relText := by
  rw [Tag.relText, Tag.relText]
  obtain ⟨ha, ha'⟩ | ⟨a, a', ha, ha', hv, hv'⟩ | ⟨a, a', v, v', ha, ha', hv, hv', -, htext⟩ :=
    h.attr_cases hrel
  · simp [ha, ha']
  · simp [ha, ha', hv, hv', Attr.text]
  · simp [ha, ha', hv, hv', Attr.text, htext]

/-- What matters of a link does not depend on where it stands. -/
theorem OpenTag.place_rel (t : OpenTag) (start : Nat) :
    (t.place start).relQuotable = (t.place 0).relQuotable
      ∧ (t.place start).relText = (t.place 0).relText
      ∧ (t.place start).missingRel = (t.place 0).missingRel := by
  have h := (t.same_place 0 start).alike []
  exact ⟨h.relQuotable (by simp), h.relText (by simp), h.missingRel (by simp) (by simp) (by simp)⟩

/-- The `rel` value that a repair writes. -/
def mergedRel (text : List Char) (missing : List String) : List Char :=
  [' '].intercalate (words text ++ missing.map String.toList)

/-- Required tokens are words in small letters. -/
theorem unbroken_of_mem_requiredRel {token : String} (h : token ∈ requiredRel) :
    Unbroken token.toList ∧ asciiLower token.toList = token.toList := by
  have hchars : ∀ token ∈ requiredRel, token.toList ≠ [] ∧ token.toList.all (!isBlankChar ·)
      ∧ asciiLower token.toList = token.toList := by decide
  obtain ⟨hne, hall, hlower⟩ := hchars token h
  exact ⟨⟨hne, by simpa using hall⟩, hlower⟩

section

variable {text : List Char} {missing : List String}

/-- The words of the new value are those of the old one, and behind them the missing ones. -/
theorem words_mergedRel (hmissing : ∀ token ∈ missing, token ∈ requiredRel) :
    words (mergedRel text missing) = words text ++ missing.map String.toList := by
  refine words_intercalate fun w hw => ?_
  rcases List.mem_append.1 hw with hw | hw
  · exact (unbroken_of_mem_words hw).1
  · obtain ⟨token, htoken, rfl⟩ := List.mem_map.1 hw
    exact (unbroken_of_mem_requiredRel (hmissing token htoken)).1

/-- The new value holds the quotes of the old one. -/
theorem mem_mergedRel_iff (hmissing : ∀ token ∈ missing, token ∈ requiredRel) {q : Char}
    (hq : q = '"' ∨ q = '\'') : q ∈ mergedRel text missing ↔ q ∈ text := by
  have hblank : isBlankChar q = false := by rcases hq with rfl | rfl <;> decide
  have htoken : ∀ token ∈ missing, q ∉ token.toList := by
    have hfree : ∀ token ∈ requiredRel, '"' ∉ token.toList ∧ '\'' ∉ token.toList := by decide
    intro token htoken
    obtain ⟨h1, h2⟩ := hfree token (hmissing token htoken)
    rcases hq with rfl | rfl
    · exact h1
    · exact h2
  rw [mem_iff_exists_word hblank, mem_iff_exists_word hblank, words_mergedRel hmissing]
  constructor
  · rintro ⟨w, hw, hmem⟩
    rcases List.mem_append.1 hw with hw | hw
    · exact ⟨w, hw, hmem⟩
    · obtain ⟨token, hmissing, rfl⟩ := List.mem_map.1 hw
      exact absurd hmem (htoken token hmissing)
  · rintro ⟨w, hw, hmem⟩
    exact ⟨w, List.mem_append_left _ hw, hmem⟩

end

namespace Tag

/-- The tokens that a link lacks, and what can be said of its `rel` attribute. -/
theorem missingRel_eq {t : Tag} (h : t.missingRel ≠ []) :
    (∀ a ∈ t.attr? "rel", a.isExpression = false)
      ∧ t.missingRel = requiredRel.filter
          fun token => !(words (asciiLower t.relText)).contains token.toList := by
  simp only [missingRel, relText] at h ⊢
  by_cases hopens : t.opensExternalTab
  · cases ha : t.attr? "rel" with
    | none =>
      simp only [hopens, if_true, Option.map_none, Option.getD_none]
      exact ⟨by simp, by decide⟩
    | some a =>
      by_cases hexpr : a.isExpression
      · simp [ha, hexpr] at h
      · simp [hopens, hexpr]
  · simp [hopens] at h

theorem mem_requiredRel_of_missing {t : Tag} {token : String} (h : token ∈ t.missingRel) :
    token ∈ requiredRel := by
  rw [(missingRel_eq (List.ne_nil_of_mem h)).2] at h
  exact (List.mem_filter.1 h).1

/-- With the missing tokens a link has all that it needs. -/
theorem mem_words_completed {t : Tag} (h : t.missingRel ≠ []) {token : String}
    (htoken : token ∈ requiredRel) :
    token.toList ∈ words (asciiLower (mergedRel t.relText t.missingRel)) := by
  rw [words_asciiLower, words_mergedRel fun _ => mem_requiredRel_of_missing, List.map_append,
    ← words_asciiLower, List.mem_append]
  by_cases hin : token.toList ∈ words (asciiLower t.relText)
  · exact .inl hin
  · have hmissing : token ∈ t.missingRel := by
      rw [(missingRel_eq h).2]
      simp [htoken, hin]
    exact .inr (List.mem_map.2 ⟨token.toList, List.mem_map_of_mem hmissing,
      (unbroken_of_mem_requiredRel htoken).2⟩)

end Tag

/-- The last character in front of a value is a quote just where the value is in such quotes. -/
theorem WrittenValue.getLast?_lead {v : WrittenValue} (hspace : ∀ c ∈ v.spaceAfter, isMarkupSpace c)
    {q : Char} (hq : q = '"' ∨ q = '\'') (front : List Char) :
    (front ++ v.lead).getLast? = some q ↔ v.form.quote = [q] := by
  have hbare : (front ++ (v.spaceBefore ++ '=' :: v.spaceAfter)).getLast? ≠ some q := by
    intro hlast
    rcases List.eq_nil_or_concat v.spaceAfter with hnil | ⟨cs, d, hcs⟩
    · rw [hnil, ← List.append_assoc, List.getLast?_concat] at hlast
      obtain rfl : '=' = q := by simpa using hlast
      revert hq
      decide
    · have hd := hspace d (by simp [hcs])
      rw [hcs, List.concat_eq_append, ← List.cons_append, ← List.append_assoc, ← List.append_assoc,
        List.getLast?_concat] at hlast
      obtain rfl : d = q := by simpa using hlast
      rcases hq with rfl | rfl <;> simp [isMarkupSpace] at hd
  cases hform : v.form with
  | doubleQuoted | singleQuoted =>
    simp [lead, hform, ValueForm.quote, ← List.append_assoc]
  | expression | unquoted =>
    simp only [lead, hform, ValueForm.quote, List.append_nil, List.nil_eq, reduceCtorEq, iff_false]
    exact hbare

/-- The character in front of a value is a quote if the value is in quotes. -/
theorem followsQuote_eq {front behind : List Char} {v : WrittenValue}
    (hspace : ∀ c ∈ v.spaceAfter, isMarkupSpace c) :
    Repair.followsQuote (front ++ v.lead ++ behind) (byteLength (front ++ v.lead))
      = !v.form.quote.isEmpty := by
  rw [Repair.followsQuote, splitAtOffset?_byteLength, Option.bind_some, Bool.eq_iff_iff,
    Option.any_eq_true]
  constructor
  · rintro ⟨q, hlast, hq⟩
    have hquote := (WrittenValue.getLast?_lead hspace (by simpa using hq) front).1 hlast
    simp [hquote]
  · intro hquoted
    obtain ⟨q, hquote, hq⟩ : ∃ q, v.form.quote = [q] ∧ (q = '"' ∨ q = '\'') := by
      cases hform : v.form <;> simp_all [ValueForm.quote]
    exact ⟨q, (WrittenValue.getLast?_lead hspace hq front).2 hquote, by simpa using hq⟩

/-- Writing another value of a `rel` attribute, in quotes if there are none. -/
theorem OpenTag.exists_of_relValue {t : OpenTag} {ps qs : List TagPart} {w : WrittenAttr}
    {v : WrittenValue} {front behind merged : List Char} (hcomplete : t.Complete)
    (hparts : t.parts = ps ++ .attr w :: qs)
    (hfirst : ∀ c ∈ ps.filterMap TagPart.content?, c.1 ≠ "rel".toList)
    (hname : w.content.1 = "rel".toList) (hw : w.value = some v) (hform : v.form ≠ .expression)
    (hmerged : ∀ q, q = '"' ∨ q = '\'' → (q ∈ merged ↔ q ∈ v.text)) :
    let start := (t.place (byteLength front)).nameEnd + byteLength (ps.flatMap TagPart.source)
      + byteLength w.name + byteLength v.lead
    let text := if Repair.followsQuote (front ++ t.source ++ behind) start then merged
      else Repair.inQuotes merged
    ∃ t' v', t.EditedBy (byteLength front) ⟨.ofText start v.text, text⟩ t' ∧ t.Puts "rel" v' t'
      ∧ v'.text = merged ∧ (∃ q, v'.form.quote = [q])
      ∧ (v'.form.Fits merged ↔ (v.form = .unquoted → '"' ∉ v.text)) := by
  intro start text
  obtain ⟨-, hread⟩ := (hparts ▸ hcomplete.parts).attr
  obtain ⟨-, hspace, -, hadmits⟩ := hw ▸ hread.value
  have hquote : Repair.followsQuote (front ++ t.source ++ behind) start
      = !v.form.quote.isEmpty := by
    have hsource : front ++ t.source ++ behind
        = (front ++ '<' :: t.name ++ ps.flatMap TagPart.source ++ w.name) ++ v.lead
          ++ (v.text ++ v.form.quote ++ qs.flatMap TagPart.source ++ t.ending ++ behind) := by
      simp [OpenTag.source, hparts, TagPart.source, WrittenAttr.source, hw, WrittenValue.source]
    have hstart : start = byteLength
        ((front ++ '<' :: t.name ++ ps.flatMap TagPart.source ++ w.name) ++ v.lead) := by
      simp only [start, OpenTag.place, byteLength_append, byteLength_cons, ← Nat.add_assoc]
      rfl
    rw [hsource, hstart, followsQuote_eq hspace]
  simp only [text, hquote]
  cases hv : v.form with
  | expression => exact absurd hv hform
  | unquoted =>
    refine ⟨_, _, editedBy_replace hparts (WrittenAttr.rewrites_requoted hw hv _),
      .given hparts hfirst hname (WrittenAttr.takes_value hw .doubleQuoted merged (by simp)), rfl,
      ⟨'"', rfl⟩, ?_⟩
    have hfits : '"' ∉ merged ↔ '"' ∉ v.text := not_congr (hmerged '"' (.inl rfl))
    exact hfits.trans ⟨fun h _ => h, fun h => h rfl⟩
  | doubleQuoted =>
    rw [hv] at hadmits
    refine ⟨_, _, editedBy_replace hparts (WrittenAttr.rewrites_value hw (by rw [hv]) _ merged),
      .given hparts hfirst hname (WrittenAttr.takes_value hw .doubleQuoted merged (by simp)), rfl,
      ⟨'"', rfl⟩, ?_⟩
    exact iff_of_true (fun hmem => hadmits ((hmerged '"' (.inl rfl)).1 hmem)) (by simp)
  | singleQuoted =>
    rw [hv] at hadmits
    refine ⟨_, _, editedBy_replace hparts (WrittenAttr.rewrites_value hw (by rw [hv]) _ merged),
      .given hparts hfirst hname (WrittenAttr.takes_value hw .singleQuoted merged (by simp)), rfl,
      ⟨'\'', rfl⟩, ?_⟩
    exact iff_of_true (fun hmem => hadmits ((hmerged '\'' (.inr rfl)).1 hmem)) (by simp)

/-- How the tokens of a link are completed: by a new attribute, by a value for one that has none, or by
another value, in quotes if there are none. -/
theorem Repair.relEdit?_cases {html : List Char} {t : Tag} {e : Edit}
    (h : relEdit? html t = some e) :
    t.missingRel ≠ [] ∧ ((t.attr? "rel" = none
        ∧ e = .insertion t.nameEnd (" rel=".toList ++ inQuotes (mergedRel t.relText t.missingRel)))
      ∨ ∃ a, t.attr? "rel" = some a ∧ ((a.value = none
          ∧ e = .insertion a.nameEnd ('=' :: inQuotes (mergedRel t.relText t.missingRel)))
        ∨ ∃ v, a.value = some v ∧ e = ⟨v.span, if followsQuote html v.start
          then mergedRel t.relText t.missingRel else inQuotes (mergedRel t.relText t.missingRel)⟩)) := by
  have hmissing : t.missingRel ≠ [] := by
    intro hmissing
    rw [relEdit?, hmissing] at h
    cases h
  refine ⟨hmissing, ?_⟩
  obtain ⟨-, htokens⟩ := Tag.missingRel_eq hmissing
  obtain ⟨token, tokens, hcons⟩ := List.exists_cons_of_ne_nil hmissing
  rw [relEdit?, hcons] at h
  simp only [← hcons] at h
  cases ha : t.attr? "rel" with
  | none =>
    rw [ha] at h
    cases h
    have hrel : t.relText = [] := by simp [Tag.relText, ha]
    have htext : (" ".intercalate requiredRel).toList = mergedRel t.relText t.missingRel := by
      rw [htokens, hrel]
      decide
    exact .inl ⟨rfl, by rw [htext]⟩
  | some a =>
    have hrel : t.relText = a.text := by simp [Tag.relText, ha]
    rw [ha] at h
    refine .inr ⟨a, rfl, ?_⟩
    cases hv : a.value with
    | none =>
      simp only [hv] at h
      cases h
      exact .inl ⟨rfl, by rw [hrel]; rfl⟩
    | some v =>
      simp only [hv] at h
      cases h
      exact .inr ⟨v, rfl, by rw [hrel]; rfl⟩

/-- Completing the `rel` tokens of a link. -/
theorem OpenTag.exists_of_relEdit? {t : OpenTag} {e : Edit} {front behind : List Char}
    (hcomplete : t.Complete)
    (h : Repair.relEdit? (front ++ t.source ++ behind) (t.place (byteLength front)) = some e) :
    let u := t.place (byteLength front)
    ∃ t' v, t.EditedBy (byteLength front) e t' ∧ t.Puts "rel" v t' ∧ u.missingRel ≠ []
      ∧ v.text = mergedRel u.relText u.missingRel ∧ (∃ q, v.form.quote = [q])
      ∧ (v.form.Fits v.text ↔ u.relQuotable) := by
  intro u
  obtain ⟨hmissing, hcases⟩ := Repair.relEdit?_cases h
  obtain ⟨hexpr, -⟩ := Tag.missingRel_eq hmissing
  have hmerged : ∀ q, q = '"' ∨ q = '\'' →
      (q ∈ mergedRel u.relText u.missingRel ↔ q ∈ u.relText) :=
    fun q => mem_mergedRel_iff fun _ => Tag.mem_requiredRel_of_missing
  obtain ⟨ha, rfl⟩ | ⟨a, ha, hcases⟩ := hcases
  · have hrel : u.relText = [] := by simp [u, Tag.relText, ha]
    have hfree : '"' ∉ mergedRel u.relText u.missingRel := by
      rw [hmerged '"' (.inl rfl), hrel]
      exact List.not_mem_nil
    exact ⟨_, _, t.editedBy_prepend _ "rel".toList _,
      .new (absent_of_attr? ha) (by decide) (List.all_eq_true.1 (by decide)) (by decide), hmissing,
      rfl, ⟨'"', rfl⟩, iff_of_true hfree (by simp [u, Tag.relQuotable, ha])⟩
  have hrel : u.relText = a.text := by simp [u, Tag.relText, ha]
  have hexpr := hexpr a ha
  obtain ⟨ps, w, qs, hparts, rfl, hname, hfirst⟩ := parts_of_attr? ha
  obtain ⟨hvalue, rfl⟩ | ⟨_, hu, rfl⟩ := hcases
  · have hw : w.value = none := by simpa [WrittenAttr.place] using hvalue
    have hfree : '"' ∉ mergedRel u.relText u.missingRel := by
      rw [hmerged '"' (.inl rfl), hrel]
      simp [Attr.text, hvalue]
    exact ⟨_, _, editedBy_replace hparts (WrittenAttr.rewrites_boolean hw _ _),
      .given hparts hfirst hname (WrittenAttr.takes_boolean hw _), hmissing, rfl, ⟨'"', rfl⟩,
      iff_of_true hfree (by simp [u, Tag.relQuotable, ha, hvalue])⟩
  · obtain ⟨v, hw, rfl⟩ := Option.map_eq_some_iff.1 hu
    have hform : v.form ≠ .expression := by
      simpa [Attr.isExpression, hu, AttrValue.isExpression] using hexpr
    have htext : u.relText = v.text := by
      rw [hrel]
      simp [Attr.text, hu]
    have hquotes : ∀ q, q = '"' ∨ q = '\'' →
        (q ∈ mergedRel u.relText u.missingRel ↔ q ∈ v.text) :=
      fun q hq => (hmerged q hq).trans (by rw [htext])
    obtain ⟨t', v', hedited, hputs, hv', hquote, hfits⟩ :=
      exists_of_relValue hcomplete hparts hfirst hname hw hform hquotes
    refine ⟨t', v', hedited, hputs, hmissing, hv', hquote, ?_⟩
    rw [hv', hfits]
    by_cases hunquoted : v.form = .unquoted <;> simp [u, Tag.relQuotable, ha, hu, hunquoted]

/-! ## Charsets -/

/-- Whether the charset that a tag declares can be overwritten. Inside an expression this takes a name
whose characters leave its braces and strings in balance. -/
def Tag.CharsetOverwritable (t : Tag) : Prop :=
  t.attr? "charset" = none → ∀ a ∈ t.attr? "content", ∀ v ∈ a.value, v.form = .expression →
    ∀ front name, CharsetDeclaration.parameter? v.text = some (front, name) → BraceNeutral front name

theorem Tag.Alike.charsetOverwritable {unread : List String} {t t' : Tag} (h : Alike unread t t')
    (hcharset : "charset" ∉ unread) (hcontent : "content" ∉ unread) (ht : t.CharsetOverwritable) :
    t'.CharsetOverwritable := by
  intro hnone' b' hb' w' hw' hexpr front name hparameter
  have hnone : t.attr? "charset" = none := by simpa [hnone'] using (h.content_attr? hcharset).symm
  obtain ⟨ha, ha'⟩ | ⟨a, a', ha, ha', hv, hv'⟩ | ⟨a, a', v, v', ha, ha', hv, hv', hform, htext⟩ :=
    h.attr_cases hcontent
  · cases ha'.symm.trans hb'
  · cases ha'.symm.trans hb'
    cases hv'.symm.trans hw'
  · cases ha'.symm.trans hb'
    cases hv'.symm.trans hw'
    exact ht hnone a ha v hv (hform.symm.trans hexpr) front name (htext ▸ hparameter)

/-- The attribute in which a tag declares a charset. -/
def Tag.charsetAttr (t : Tag) : String := if (t.attr? "charset").isSome then "charset" else "content"

/-- What the value that declares a charset is when the name of the charset has been overwritten. -/
def CharsetDeclaration.Overwritten (c : CharsetDeclaration) (form : ValueForm) (text : List Char) :
    Prop :=
  ∃ a v front behind, c.tag.attr? c.tag.charsetAttr = some a ∧ a.value = some v
    ∧ v.text = front ++ c.value ++ behind
    ∧ c.span = some (.ofText (v.start + byteLength front) c.value)
    ∧ form = v.form ∧ text = front ++ "UTF-8".toList ++ behind

/-- Whether a tag says in one attribute what makes it declare UTF-8, and otherwise what another tag
says. -/
structure OpenTag.Declares (t' t : OpenTag) : Prop where
  sets : ∃ name form text, t'.Sets t name form text ∧ name ∈ FixKind.insertCharset.writes
  missing : isMissing ((t'.place 0).value? "content") = isMissing ((t.place 0).value? "content")
  utf8 : ∀ start, ∃ c, CharsetDeclaration.ofTag? (t'.place start) = some c ∧ c.isUtf8

namespace CharsetDeclaration

/-- Where the charset parameter of a content type stands, and what is found there when it is
overwritten. -/
theorem parameter?_spec {content front name : List Char}
    (h : parameter? content = some (front, name)) :
    ∃ behind, content = front ++ name ++ behind
      ∧ parameter? (front ++ "UTF-8".toList ++ behind) = some (front, "UTF-8".toList)
      ∧ ∀ s, isBlank (front ++ s) = false := by
  obtain ⟨⟨before, rest⟩, hbreak, hparts⟩ := Option.map_eq_some_iff.1 h
  obtain ⟨rfl, rfl⟩ := Prod.mk.inj hparts
  have hlower := append_of_breakOn? hbreak
  have hlength : before.length + "charset=".toList.length ≤ content.length := by
    rw [← length_asciiLower content, ← hlower]
    simp
  set n := before.length + "charset=".toList.length with hn
  have hfront : asciiLower (content.take n) = before ++ "charset=".toList := by
    rw [asciiLower, List.map_take, ← asciiLower, ← hlower]
    exact List.take_left' (by simp [hn])
  refine ⟨(content.drop n).dropWhile fun c => c ≠ ';' && !isBlankChar c, ?_, ?_, fun s => ?_⟩
  · rw [List.append_assoc, List.takeWhile_append_dropWhile, List.take_append_drop]
  · obtain ⟨rest', hbreak'⟩ : ∃ rest', breakOn? "charset=".toList
        (asciiLower (content.take n ++ "UTF-8".toList
          ++ (content.drop n).dropWhile fun c => c ≠ ';' && !isBlankChar c))
        = some (before, rest') := by
      rw [List.append_assoc, asciiLower, List.map_append, ← asciiLower, hfront]
      exact ⟨_, breakOn?_congr _ (hlower ▸ hbreak)⟩
    have hvalue : ("UTF-8".toList ++ (content.drop n).dropWhile fun c => c ≠ ';' && !isBlankChar c
        ).takeWhile (fun c => c ≠ ';' && !isBlankChar c) = "UTF-8".toList :=
      (span_of_all (List.all_eq_true.1 (by decide)) (head?_dropWhile_all _ (content.drop n))).1
    have htake : (content.take n).length = n := by simp [hlength]
    rw [parameter?, hbreak']
    simp only [Option.map_some, ← hn]
    rw [List.append_assoc, List.take_left' htake, List.drop_left' htake, hvalue]
  · have hkey : '=' ∈ asciiLower (content.take n) := by simp [hfront]
    obtain ⟨c, hc, heq⟩ := List.mem_map.1 hkey
    have hblank : isBlankChar c = false := by rw [← isBlankChar_toLower, heq]; decide
    rw [isBlank, List.all_eq_false]
    exact ⟨c, by simp [hc], by simp [hblank]⟩

theorem isUtf8_of_value {d : CharsetDeclaration} (h : d.value = "UTF-8".toList) : d.isUtf8 := by
  rw [isUtf8, h]
  decide

/-- A tag with UTF-8 as its charset declares it. -/
theorem exists_of_charset {t : Tag} {a : Attr} {v : AttrValue} (ha : t.attr? "charset" = some a)
    (hv : a.value = some v) (hform : v.form ≠ .expression) (htext : v.text = "UTF-8".toList) :
    ∃ c, ofTag? t = some c ∧ c.isUtf8 := by
  refine ⟨⟨t, v.text, some v.span⟩, ?_, isUtf8_of_value htext⟩
  simp [ofTag?, ha, hv, AttrValue.isExpression, hform]

/-- So does a tag with UTF-8 as the charset of its content type. -/
theorem exists_of_content {t : Tag} {a : Attr} {v : AttrValue} {front : List Char}
    (hcharset : t.attr? "charset" = none) (hequiv : isWord (t.value? "http-equiv") "content-type")
    (ha : t.attr? "content" = some a) (hv : a.value = some v)
    (hparameter : parameter? v.text = some (front, "UTF-8".toList)) :
    ∃ c, ofTag? t = some c ∧ c.isUtf8 := by
  refine ⟨⟨t, "UTF-8".toList, some (.ofText (v.start + byteLength front) "UTF-8".toList)⟩, ?_,
    isUtf8_of_value rfl⟩
  simp [ofTag?, hcharset, hequiv, ha, hv, hparameter]

/-- A tag whose `charset` attribute is set to UTF-8. -/
theorem declares_of_charset {t t' : OpenTag} {v : WrittenValue} (h : t.Puts "charset" v t')
    (hform : v.form ≠ .expression) (htext : v.text = "UTF-8".toList) : t'.Declares t := by
  have hsets := h.sets
  refine ⟨⟨_, _, _, hsets, by decide⟩, ?_, fun start => ?_⟩
  · rw [hsets.value?_other 0 0 "content" (by decide)]
  · obtain ⟨a, u, ha, hu, hvform, hvtext⟩ := hsets.attr? start
    exact exists_of_charset ha hu (hvform ▸ hform) (hvtext.trans htext)

/-- A tag whose content type is given another charset parameter. What stands around it in the value
stays, so the value is as blank as it was. -/
theorem declares_of_content {t t' : OpenTag} {v : WrittenValue} (h : t.Puts "content" v t')
    {start : Nat} {a : Attr} {u : AttrValue} {before name : List Char}
    (hcharset : (t.place start).attr? "charset" = none)
    (hequiv : isWord ((t.place start).value? "http-equiv") "content-type")
    (ha : (t.place start).attr? "content" = some a) (hu : a.value = some u)
    (hold : parameter? u.text = some (before, name))
    (hnew : parameter? v.text = some (before, "UTF-8".toList)) : t'.Declares t := by
  have hsets := h.sets
  refine ⟨⟨_, _, _, hsets, by decide⟩, ?_, fun start' => ?_⟩
  · obtain ⟨a', u', ha', hu', -, htext⟩ := hsets.attr? 0
    obtain ⟨behind, hu'', -, hblank⟩ := parameter?_spec hold
    obtain ⟨behind', hv, -⟩ := parameter?_spec hnew
    rw [← OpenTag.value?_place t start, Tag.value?, Tag.value?, ha, ha', Option.bind_some,
      Option.bind_some, hu, hu', Option.map_some, Option.map_some, htext, hv, hu'', isMissing, isMissing,
      Option.all_some, Option.all_some, List.append_assoc, List.append_assoc, hblank, hblank]
  · obtain ⟨a', u', ha', hu', -, htext⟩ := hsets.attr? start'
    have hcharset' := hsets.content_attr?_other start start' "charset" (by decide)
    rw [hcharset] at hcharset'
    refine exists_of_content (by simpa using hcharset') ?_ ha' hu' (by rw [htext]; exact hnew)
    rwa [hsets.value?_other start start' "http-equiv" (by decide)]

/-- Overwriting the value of a `charset` attribute. -/
theorem exists_of_charsetAttr {t : OpenTag} {start : Nat} {a : Attr} {u : AttrValue}
    (ha : (t.place start).attr? "charset" = some a) (hu : a.value = some u)
    (hexpr : u.isExpression = false) :
    ∃ t' v, t.EditedBy start ⟨u.span, "UTF-8".toList⟩ t' ∧ t'.Declares t ∧ t.Puts "charset" v t'
      ∧ v.form = u.form ∧ v.text = "UTF-8".toList ∧ v.form.Fits v.text := by
  obtain ⟨ps, w, qs, hparts, rfl, hname, hfirst⟩ := OpenTag.parts_of_attr? ha
  obtain ⟨v, hw, rfl⟩ := Option.map_eq_some_iff.1 hu
  have hform : v.form ≠ .expression := by simpa [AttrValue.isExpression] using hexpr
  have hputs := OpenTag.Puts.given hparts hfirst hname
    (WrittenAttr.takes_value hw v.form "UTF-8".toList id)
  have hfits : v.form.Fits "UTF-8".toList :=
    ValueForm.fits_of_plain hform (by decide) (List.all_eq_true.1 (by decide))
  exact ⟨_, _, OpenTag.editedBy_replace hparts (WrittenAttr.rewrites_value hw rfl _ _),
    declares_of_charset hputs hform rfl, hputs, rfl, rfl, hfits⟩

/-- Overwriting the charset parameter of a content type. -/
theorem exists_of_contentAttr {t : OpenTag} {start : Nat} {a : Attr} {u : AttrValue}
    {before name : List Char} (hcharset : (t.place start).attr? "charset" = none)
    (hequiv : isWord ((t.place start).value? "http-equiv") "content-type")
    (ha : (t.place start).attr? "content" = some a) (hu : a.value = some u)
    (hparameter : parameter? u.text = some (before, name)) :
    ∃ t' v behind, t.EditedBy start ⟨.ofText (u.start + byteLength before) name, "UTF-8".toList⟩ t'
      ∧ t'.Declares t ∧ t.Puts "content" v t' ∧ u.text = before ++ name ++ behind ∧ v.form = u.form
      ∧ v.text = before ++ "UTF-8".toList ++ behind
      ∧ (t.Complete → (v.form.Fits v.text ↔ (t.place start).CharsetOverwritable)) := by
  have hattr := ha
  obtain ⟨ps, w, qs, hparts, rfl, hname, hfirst⟩ := OpenTag.parts_of_attr? ha
  obtain ⟨v, hw, rfl⟩ := Option.map_eq_some_iff.1 hu
  obtain ⟨behind, hv, hnew, hblank⟩ := parameter?_spec hparameter
  have hputs := OpenTag.Puts.given hparts hfirst hname
    (WrittenAttr.takes_value hw v.form (before ++ "UTF-8".toList ++ behind) id)
  refine ⟨_, _, behind, OpenTag.editedBy_replace hparts (WrittenAttr.rewrites_inside hw hv rfl _ _),
    declares_of_content hputs hcharset hequiv hattr hu hparameter hnew, hputs, hv, rfl, rfl,
    fun hcomplete => ?_⟩
  -- The old value can stand where it stands, and begins with more than the name of the charset.
  obtain ⟨-, -, -, hadmits⟩ := hw ▸ (hparts ▸ hcomplete.parts).attr.2.value
  have hbefore : before ≠ [] := by
    rintro rfl
    simpa [isBlank] using hblank []
  rw [show v.text = before ++ name ++ behind from hv] at hadmits
  refine (hadmits.fits_exchange_iff (List.all_eq_true.1 (by decide)) (by decide)
    fun _ => hbefore).trans ⟨fun hneutral => ?_, fun hsafe hform => ?_⟩
  · intro _ a' ha' v' hv' hform front' name' hparameter'
    obtain rfl := Option.some.inj (hattr.symm.trans ha')
    obtain rfl := Option.some.inj (hu.symm.trans hv')
    obtain ⟨rfl, rfl⟩ := Prod.mk.inj (Option.some.inj (hparameter.symm.trans hparameter'))
    exact hneutral hform
  · exact hsafe hcharset _ hattr _ hu hform before name hparameter

/-- Overwriting a declared charset. -/
theorem exists_of_span {t : OpenTag} {start : Nat} {c : CharsetDeclaration} {span : Span}
    (h : ofTag? (t.place start) = some c) (hspan : c.span = some span) :
    ∃ t' v, t.EditedBy start ⟨span, "UTF-8".toList⟩ t' ∧ t'.Declares t
      ∧ t.Puts (t.place start).charsetAttr v t' ∧ c.Overwritten v.form v.text
      ∧ (t.Complete → (v.form.Fits v.text ↔ (t.place start).CharsetOverwritable)) := by
  rw [ofTag?] at h
  split at h
  · rename_i a ha
    have hattr : (t.place start).charsetAttr = "charset" := by simp [Tag.charsetAttr, ha]
    split at h
    · cases h
    · rename_i hexpr
      cases h
      obtain ⟨u, hu, rfl⟩ := Option.map_eq_some_iff.1 hspan
      obtain ⟨t', v, hedited, hdeclares, hputs, hform, htext, hfits⟩ :=
        exists_of_charsetAttr ha hu (by simpa [hu] using hexpr)
      rw [hattr]
      refine ⟨t', v, hedited, hdeclares, hputs, ⟨a, u, [], [], by rw [hattr, ha], hu, ?_, ?_, hform, ?_⟩,
        fun _ => iff_of_true hfits fun hnone => ?_⟩
      · simp [hu]
      · simp [hu, AttrValue.span]
      · simpa using htext
      · rw [ha] at hnone
        cases hnone
  · rename_i hcharset
    have hattr : (t.place start).charsetAttr = "content" := by simp [Tag.charsetAttr, hcharset]
    split at h
    · rename_i hequiv
      simp only [Option.bind_eq_bind, Option.bind_eq_some_iff] at h
      obtain ⟨a, ha, u, hu, ⟨before, name⟩, hparameter, heq⟩ := h
      cases heq
      cases hspan
      obtain ⟨t', v, behind, hedited, hdeclares, hputs, hold, hform, htext, hfits⟩ :=
        exists_of_contentAttr hcharset hequiv ha hu hparameter
      rw [hattr]
      exact ⟨t', v, hedited, hdeclares, hputs,
        ⟨a, u, before, behind, by rw [hattr, ha], hu, hold, rfl, hform, htext⟩, hfits⟩
    · cases h

end CharsetDeclaration

end MarkupGate
