import Mathlib
import MarkupGate.Markup.Lexer

/-!
# What readers look at

A reader of a part of a tag takes the part off the front of a text and looks a little further to
know where the part ends. What it looks at behind the part is little: the next character, the one
behind it if the next is a slash, and the first one that is no whitespace. `SameAhead` says that two
texts do not differ in these.

* `readPart_congr`: a part is read the same in front of two such texts.
* `readParts_congr`: the parts of a complete tag are read the same whatever follows the tag.
* `readOpenTag_iff`: an open tag is read exactly where a complete tag stands; `OpenTag.Complete` does
  not mention what follows.
-/

namespace MarkupGate

/-! ## Searching -/

/-- What is found does not depend on what stands behind the pattern. -/
theorem breakOn?_congr {pattern before rest : List Char} (rest' : List Char)
    (h : breakOn? pattern (before ++ pattern ++ rest) = some (before, rest)) :
    breakOn? pattern (before ++ pattern ++ rest') = some (before, rest') := by
  induction before with
  | nil =>
    cases pattern with
    | nil => cases rest' <;> simp [breakOn?]
    | cons p ps =>
      have hp : (p :: ps).isPrefixOf (p :: (ps ++ rest')) := by
        rw [List.isPrefixOf_iff_prefix, ← List.cons_append]
        exact List.prefix_append ..
      simp [breakOn?, hp]
  | cons c cs ih =>
    -- The pattern cannot begin at `c`: it would do so whatever comes behind the occurrence found.
    have hnot : ∀ r, pattern.isPrefixOf (c :: (cs ++ pattern ++ r))
        = pattern.isPrefixOf (c :: (cs ++ pattern)) := by
      intro r
      rw [Bool.eq_iff_iff, List.isPrefixOf_iff_prefix, List.isPrefixOf_iff_prefix,
        ← List.cons_append]
      refine ⟨fun hr => ?_, fun hr => hr.trans (List.prefix_append ..)⟩
      exact List.prefix_of_prefix_length_le hr (List.prefix_append ..) (by simp; omega)
    simp only [List.cons_append, breakOn?, hnot] at h ⊢
    split at h
    · simp at h
    · rename_i hp
      obtain ⟨⟨b, a⟩, hba, heq⟩ := Option.map_eq_some_iff.1 h
      cases heq
      rw [if_neg hp, ih hba]
      rfl

/-- A character is found at its first place. -/
theorem breakOn?_singleton {q : Char} {s before after : List Char} :
    breakOn? [q] s = some (before, after) ↔ s = before ++ q :: after ∧ q ∉ before := by
  induction s generalizing before with
  | nil => simp [breakOn?]
  | cons c cs ih =>
    by_cases hc : q = c
    · subst hc
      cases before with
      | nil => simp [breakOn?, eq_comm]
      | cons b bs =>
        simp only [breakOn?, List.isPrefixOf, beq_self_eq_true, Bool.and_self, if_true]
        grind
    · have hp : ([q] : List Char).isPrefixOf (c :: cs) = false := by simp [List.isPrefixOf, hc]
      simp only [breakOn?, hp, Bool.false_eq_true, if_false, Option.map_eq_some_iff]
      cases before with
      | nil => grind
      | cons b bs =>
        constructor
        · rintro ⟨⟨b', a'⟩, hba, heq⟩
          cases heq
          obtain ⟨rfl, hq⟩ := ih.1 hba
          simp [hq, hc]
        · rintro ⟨heq, hq⟩
          obtain ⟨rfl, rfl⟩ := List.cons.inj heq
          exact ⟨(bs, after), ih.2 ⟨rfl, fun h => hq (List.mem_cons_of_mem _ h)⟩, rfl⟩

/-! ## Runs of a class of characters -/

/-- What is taken off and what is left, if the run ends where it should. -/
theorem span_of_all {p : Char → Bool} {run rest : List Char} (hrun : ∀ c ∈ run, p c)
    (hrest : rest.head?.all (!p ·)) :
    (run ++ rest).takeWhile p = run ∧ (run ++ rest).dropWhile p = rest := by
  rw [List.takeWhile_append_of_pos hrun, List.dropWhile_append_of_pos hrun]
  cases rest with
  | nil => simp
  | cons c cs => simp_all

theorem head?_dropWhile_all (p : Char → Bool) (s : List Char) : (s.dropWhile p).head?.all (!p ·) := by
  induction s with
  | nil => rfl
  | cons c cs ih => by_cases h : p c <;> simp [h, ih]

theorem all_takeWhile {p : Char → Bool} {s : List Char} : ∀ c ∈ s.takeWhile p, p c := by
  induction s with
  | nil => simp
  | cons c cs ih => by_cases h : p c <;> simp_all

/-! ## Looking ahead -/

/-- Whether two texts are the same as far as a reader of tag parts looks ahead. -/
structure SameAhead (r r' : List Char) : Prop where
  /-- the next character -/
  head : r.head? = r'.head?
  /-- the character behind a slash -/
  behindSlash : r.head? = some '/' → r.tail.head? = r'.tail.head?
  /-- the first character that is no whitespace -/
  solid : (r.dropWhile isMarkupSpace).head? = (r'.dropWhile isMarkupSpace).head?

namespace SameAhead

theorem refl (r : List Char) : SameAhead r r := ⟨rfl, fun _ => rfl, rfl⟩

/-- Texts that begin alike are the same ahead, once what they share says something. -/
theorem append (front : List Char) (h : ∃ c ∈ front, isMarkupSpace c = false ∧ c ≠ '/')
    (r r' : List Char) : SameAhead (front ++ r) (front ++ r') := by
  obtain ⟨c, hc, hspace, hslash⟩ := h
  cases front with
  | nil => simp at hc
  | cons a as =>
    refine ⟨rfl, ?_, ?_⟩
    · intro ha
      cases as with
      | nil => simp_all
      | cons b bs => rfl
    · have hne : (a :: as).dropWhile isMarkupSpace ≠ [] := by
        intro hnil
        have hmem := hc
        rw [← List.takeWhile_append_dropWhile (p := isMarkupSpace) (l := a :: as), hnil,
          List.append_nil] at hmem
        simp [all_takeWhile c hmem] at hspace
      obtain ⟨b, bs, hb⟩ := List.exists_cons_of_ne_nil hne
      have hkeep : ∀ t, ((a :: as) ++ t).dropWhile isMarkupSpace = b :: bs ++ t := by
        intro t
        rw [List.dropWhile_append, hb]
        rfl
      rw [hkeep, hkeep]
      rfl

end SameAhead

/-! ## Parts of a tag -/

/-- A braced expression ends where its own characters say. -/
theorem readBraced_congr {st : BraceState} {inside rest : List Char} (rest' : List Char)
    (h : readBraced st (inside ++ rest) = some (inside, rest)) :
    readBraced st (inside ++ rest') = some (inside, rest') := by
  induction inside generalizing st with
  | nil =>
    have hlen : ∀ {s i r st}, readBraced st s = some (i, r) → i ≠ [] := by
      intro s i r st hs
      cases s with
      | nil => simp [readBraced] at hs
      | cons c cs =>
        rw [readBraced] at hs
        split at hs
        · cases hs; simp
        · obtain ⟨⟨i, r⟩, -, heq⟩ := Option.map_eq_some_iff.1 hs
          cases heq; simp
    exact absurd rfl (hlen h)
  | cons c cs ih =>
    rw [List.cons_append, readBraced] at h ⊢
    split at h
    · simp only [Option.some.injEq, Prod.mk.injEq, List.cons.injEq, true_and] at h
      simp [← h.1]
    · obtain ⟨⟨i, r⟩, hir, heq⟩ := Option.map_eq_some_iff.1 h
      cases heq
      rw [ih hir]
      rfl

theorem readAttrName_congr {name rest rest' : List Char}
    (h : readAttrName (name ++ rest) = (name, rest)) (hs : SameAhead rest rest') :
    readAttrName (name ++ rest') = (name, rest') := by
  induction name with
  | nil =>
    obtain ⟨hhead, hslash, -⟩ := hs
    cases rest with
    | nil =>
      cases rest' with
      | nil => rfl
      | cons c cs => simp at hhead
    | cons c cs =>
      cases rest' with
      | nil => simp at hhead
      | cons c' cs' =>
        simp only [List.head?_cons, Option.some.injEq] at hhead
        subst hhead
        by_cases hc : c = '/'
        · have := hslash (by simp [hc])
          simp only [List.tail_cons] at this
          simp only [List.nil_append, readAttrName, this] at h ⊢
          grind
        · simp only [List.nil_append, readAttrName, hc, decide_false, Bool.false_and,
            Bool.or_false] at h ⊢
          grind
  | cons c cs ih =>
    have hhead : (cs ++ rest).head? = (cs ++ rest').head? := by
      cases cs with
      | nil => exact hs.head
      | cons d ds => rfl
    simp only [List.cons_append, readAttrName, hhead] at h ⊢
    split at h
    · simp at h
    · rename_i hstop
      have hrest : readAttrName (cs ++ rest) = (cs, rest) := by
        have := append_readAttrName (cs ++ rest)
        grind
      rw [if_neg hstop, ih hrest]

/-- The characters of bare values. -/
def isBareChar (c : Char) : Bool := !isMarkupSpace c && c ≠ '>'

/-- Whether a text can stand as a value of some form, without its quotes, in front of another. -/
def ValueForm.Admits (text rest : List Char) : ValueForm → Prop
  | doubleQuoted => '"' ∉ text
  | singleQuoted => '\'' ∉ text
  | expression => ∃ inside, text = '{' :: inside ∧ readBraced .start inside = some (inside, [])
  | unquoted =>
    (∃ c, (text ++ rest).head? = some c ∧ c ≠ '"' ∧ c ≠ '\'' ∧ c ≠ '{')
      ∧ (∀ c ∈ text, isBareChar c) ∧ rest.head?.all (!isBareChar ·)

/-- A value is read where one stands. -/
theorem readValueText_iff {s text rest : List Char} {form : ValueForm} :
    readValueText s = some (form, text, rest)
      ↔ s = form.quote ++ text ++ form.quote ++ rest ∧ form.Admits text rest := by
  constructor
  · intro h
    refine ⟨(append_of_readValueText h).symm, ?_⟩
    cases s with
    | nil => simp [readValueText] at h
    | cons c cs =>
      rw [readValueText] at h
      split at h
      · obtain ⟨⟨t, r⟩, hb, heq⟩ := Option.map_eq_some_iff.1 h
        cases heq
        exact (breakOn?_singleton.1 hb).2
      split at h
      · obtain ⟨⟨t, r⟩, hb, heq⟩ := Option.map_eq_some_iff.1 h
        cases heq
        exact (breakOn?_singleton.1 hb).2
      split at h
      · obtain ⟨⟨i, r⟩, hi, heq⟩ := Option.map_eq_some_iff.1 h
        cases heq
        have happ := append_of_readBraced hi
        refine ⟨i, rfl, ?_⟩
        have := readBraced_congr [] (happ ▸ hi)
        rwa [List.append_nil] at this
      · rename_i h1 h2 h3
        cases h
        refine ⟨⟨c, ?_, h1, h2, h3⟩, all_takeWhile, head?_dropWhile_all _ _⟩
        rw [List.takeWhile_append_dropWhile]
        rfl
  · rintro ⟨rfl, h⟩
    cases form with
    | doubleQuoted =>
      have : breakOn? ['"'] (text ++ '"' :: rest) = some (text, rest) :=
        breakOn?_singleton.2 ⟨rfl, h⟩
      simp [ValueForm.quote, readValueText, this]
    | singleQuoted =>
      have : breakOn? ['\''] (text ++ '\'' :: rest) = some (text, rest) :=
        breakOn?_singleton.2 ⟨rfl, h⟩
      simp [ValueForm.quote, readValueText, this]
    | expression =>
      obtain ⟨inside, rfl, hi⟩ := h
      have hread : readBraced .start (inside ++ []) = some (inside, []) := by rwa [List.append_nil]
      have := readBraced_congr rest hread
      simp [ValueForm.quote, readValueText, this]
    | unquoted =>
      obtain ⟨⟨c, hc, h1, h2, h3⟩, hall, hend⟩ := h
      obtain ⟨htake, hdrop⟩ := span_of_all hall hend
      simp only [ValueForm.quote, List.nil_append, List.append_nil]
      cases hcs : text ++ rest with
      | nil => simp [hcs] at hc
      | cons d ds =>
        rw [hcs] at hc htake hdrop
        obtain rfl : d = c := by simpa using hc
        rw [readValueText, if_neg h1, if_neg h2, if_neg h3]
        exact congrArg some (by rw [← htake, ← hdrop]; rfl)

/-- Only a bare value looks behind its end. -/
theorem ValueForm.Admits.congr {form : ValueForm} {text rest rest' : List Char}
    (h : form.Admits text rest) (hs : rest.head? = rest'.head?) : form.Admits text rest' := by
  cases form with
  | doubleQuoted => exact h
  | singleQuoted => exact h
  | expression => exact h
  | unquoted =>
    obtain ⟨⟨c, hc, hne⟩, hall, hend⟩ := h
    refine ⟨⟨c, ?_, hne⟩, hall, hs ▸ hend⟩
    cases text with
    | nil => exact hs.symm.trans hc
    | cons d ds => exact hc

/-- Whether a value, if there is one, can stand in front of a text. A name without a value is not
followed by an equals sign. -/
def ValueAdmitted (rest : List Char) : Option WrittenValue → Prop
  | none => (rest.dropWhile isMarkupSpace).head? ≠ some '='
  | some w =>
    (∀ c ∈ w.spaceBefore, isMarkupSpace c) ∧ (∀ c ∈ w.spaceAfter, isMarkupSpace c)
      ∧ (w.form.quote ++ w.text ++ w.form.quote ++ rest).head?.all (!isMarkupSpace ·)
      ∧ w.form.Admits w.text rest

theorem readValue_iff {s rest : List Char} {value : Option WrittenValue} :
    readValue s = some (value, rest)
      ↔ s = (value.map WrittenValue.source).getD [] ++ rest ∧ ValueAdmitted rest value := by
  constructor
  · intro h
    refine ⟨(append_of_readValue h).symm, ?_⟩
    rw [readValue] at h
    split at h
    · rename_i afterEquals hs
      obtain ⟨⟨form, text, r⟩, hr, heq⟩ := Option.map_eq_some_iff.1 h
      cases heq
      obtain ⟨hsource, hadmits⟩ := readValueText_iff.1 hr
      refine ⟨all_takeWhile, all_takeWhile, ?_, hadmits⟩
      rw [← hsource]
      exact head?_dropWhile_all _ _
    · rename_i hne
      cases h
      intro hhead
      obtain ⟨t, ht⟩ := List.head?_eq_some_iff.1 hhead
      exact hne t ht
  · rintro ⟨rfl, h⟩
    cases value with
    | none =>
      rw [readValue]
      split
      · rename_i hs
        exact absurd (by simpa using congrArg List.head? hs) h
      · rfl
    | some w =>
      obtain ⟨hbefore, hafter, hhead, hadmits⟩ := h
      have hsource : (WrittenValue.source w) ++ rest
          = w.spaceBefore ++ ('=' :: (w.spaceAfter
            ++ (w.form.quote ++ w.text ++ w.form.quote ++ rest))) := by
        simp [WrittenValue.source, WrittenValue.lead]
      have hequals : ('=' :: (w.spaceAfter ++ (w.form.quote ++ w.text ++ w.form.quote
          ++ rest))).head?.all (!isMarkupSpace ·) := rfl
      obtain ⟨htake, hdrop⟩ := span_of_all hbefore hequals
      obtain ⟨htake', hdrop'⟩ := span_of_all hafter hhead
      simp only [Option.map_some, Option.getD_some, hsource, readValue, hdrop, htake, htake',
        hdrop', readValueText_iff.2 ⟨rfl, hadmits⟩]

theorem ValueAdmitted.congr {value : Option WrittenValue} {rest rest' : List Char}
    (h : ValueAdmitted rest value) (hs : SameAhead rest rest') : ValueAdmitted rest' value := by
  cases value with
  | none => exact fun hhead => h (hs.solid.trans hhead)
  | some w =>
    obtain ⟨hbefore, hafter, hhead, hadmits⟩ := h
    refine ⟨hbefore, hafter, ?_, hadmits.congr hs.head⟩
    rwa [List.head?_append, ← hs.head, ← List.head?_append]

namespace WrittenAttr

/-- What is written of the attribute behind its name. -/
def valueSource (a : WrittenAttr) : List Char := (a.value.map WrittenValue.source).getD []

/-- Whether the attribute is read where it stands in front of a text. -/
structure ReadsBefore (a : WrittenAttr) (rest : List Char) : Prop where
  /-- the name is read off the front -/
  name : readAttrName (a.name ++ (a.valueSource ++ rest)) = (a.name, a.valueSource ++ rest)
  /-- the value can stand there -/
  value : ValueAdmitted rest a.value

theorem readsBefore_iff {a : WrittenAttr} {s rest : List Char} :
    readAttr s = some (a, rest) ↔ s = a.source ++ rest ∧ a.ReadsBefore rest := by
  constructor
  · intro h
    have happ := append_of_readAttr h
    refine ⟨happ.symm, ?_⟩
    obtain ⟨⟨value, r⟩, hv, heq⟩ := Option.map_eq_some_iff.1 h
    cases heq
    obtain ⟨hsource, hadmitted⟩ := readValue_iff.1 hv
    refine ⟨?_, hadmitted⟩
    simp only [valueSource]
    rw [← hsource, append_readAttrName]
  · rintro ⟨rfl, hname, hvalue⟩
    have hread := readValue_iff.2 ⟨rfl, hvalue⟩
    simp only [valueSource] at hname
    simp only [readAttr, source, List.append_assoc, hname, hread, Option.map_some]

theorem ReadsBefore.congr {a : WrittenAttr} {rest rest' : List Char} (h : a.ReadsBefore rest)
    (hs : SameAhead rest rest') : a.ReadsBefore rest' := by
  refine ⟨readAttrName_congr h.name ?_, h.value.congr hs⟩
  -- With a value the equals sign is in sight, without one the reader looks at what follows.
  cases hv : a.value with
  | none => simpa [valueSource, hv] using hs
  | some w =>
    refine SameAhead.append _ ⟨'=', ?_, by decide, by decide⟩ _ _
    simp [valueSource, hv, WrittenValue.source, WrittenValue.lead]

end WrittenAttr

/-- A part is read the same in front of texts that are the same ahead. -/
theorem readPart_congr {p : TagPart} {rest rest' : List Char}
    (h : readPart (p.source ++ rest) = some (p, rest)) (hs : SameAhead rest rest') :
    readPart (p.source ++ rest') = some (p, rest') := by
  obtain ⟨c, cs, hsource, ⟨hplain, rfl, -⟩
    | ⟨hplain, ⟨rfl, inside, hread, rfl⟩ | ⟨hbrace, a, hread, rfl⟩⟩⟩ := exists_of_readPart h
  · simp [TagPart.source, readPart, hplain]
  · obtain rfl : inside ++ rest = cs := by simpa [TagPart.source] using hsource
    simp only [TagPart.source, List.cons_append]
    rw [readPart, if_neg (Bool.eq_false_iff.1 hplain), if_pos rfl, readBraced_congr rest' hread]
    rfl
  · simp only [TagPart.source] at hsource ⊢
    rw [← hsource] at hread
    have hattr := WrittenAttr.readsBefore_iff.2 ⟨rfl, (WrittenAttr.readsBefore_iff.1 hread).2.congr hs⟩
    have hhead : (a.source ++ rest').head? = some c := by
      rw [List.head?_append, ← hs.head, ← List.head?_append, hsource]
      rfl
    obtain ⟨cs', hsource'⟩ := List.head?_eq_some_iff.1 hhead
    rw [hsource'] at hattr ⊢
    rw [readPart_attr hplain hbrace, hattr]
    rfl

/-! ## Open tags -/

/-- The characters that end a tag. -/
def endingOf (selfClosing : Bool) : List Char := if selfClosing then ['/', '>'] else ['>']

theorem OpenTag.ending_eq (t : OpenTag) : t.ending = endingOf t.selfClosing := rfl

theorem tagEnd?_iff {s rest : List Char} {selfClosing : Bool} :
    tagEnd? s = some (selfClosing, rest) ↔ s = endingOf selfClosing ++ rest := by
  constructor
  · intro h
    unfold tagEnd? at h
    split at h <;> cases h <;> rfl
  · rintro rfl
    cases selfClosing <;> rfl

/-- Whether a tag ends shows in the characters of a part and the one behind it. -/
theorem tagEnd?_eq_none_congr {front rest rest' : List Char} (hne : front ≠ [])
    (hhead : rest.head? = rest'.head?) (h : tagEnd? (front ++ rest) = none) :
    tagEnd? (front ++ rest') = none := by
  rw [Option.eq_none_iff_forall_ne_some] at h ⊢
  rintro ⟨selfClosing, r⟩ hr
  rw [tagEnd?_iff] at hr
  obtain ⟨c, cs, rfl⟩ := List.exists_cons_of_ne_nil hne
  cases selfClosing with
  | false =>
    obtain ⟨rfl, -⟩ := List.cons.inj hr
    exact h (false, cs ++ rest) (tagEnd?_iff.2 rfl)
  | true =>
    obtain ⟨rfl, htail⟩ := List.cons.inj hr
    have hnext : (cs ++ rest).head? = some '>' := by
      rw [List.head?_append, hhead, ← List.head?_append]
      exact congrArg List.head? htail
    obtain ⟨t, ht⟩ := List.head?_eq_some_iff.1 hnext
    exact h (true, t) (tagEnd?_iff.2 (by simp [endingOf, ht]))

namespace TagPart

/-- Whether the part is read where it stands in front of a text. -/
structure ReadsBefore (p : TagPart) (rest : List Char) : Prop where
  /-- the tag does not end where the part begins -/
  notEnd : tagEnd? (p.source ++ rest) = none
  /-- the part is read off the front -/
  read : readPart (p.source ++ rest) = some (p, rest)

theorem ReadsBefore.source_ne_nil {p : TagPart} {rest : List Char} (h : p.ReadsBefore rest) :
    p.source ≠ [] := by
  intro hnil
  have := length_lt_of_readPart h.notEnd h.read
  simp [hnil] at this

theorem ReadsBefore.congr {p : TagPart} {rest rest' : List Char} (h : p.ReadsBefore rest)
    (hs : SameAhead rest rest') : p.ReadsBefore rest' :=
  ⟨tagEnd?_eq_none_congr h.source_ne_nil hs.head h.notEnd, readPart_congr h.read hs⟩

end TagPart

/-- Whether each of some parts is read in front of those behind it and a text. -/
def PartsRead : List TagPart → List Char → Prop
  | [], _ => True
  | p :: ps, rest => p.ReadsBefore (ps.flatMap TagPart.source ++ rest) ∧ PartsRead ps rest

theorem readParts_iff {s rest : List Char} {parts : List TagPart} {selfClosing : Bool} :
    readParts s = some (parts, selfClosing, rest)
      ↔ s = parts.flatMap TagPart.source ++ (endingOf selfClosing ++ rest)
        ∧ PartsRead parts (endingOf selfClosing ++ rest) := by
  induction parts generalizing s with
  | nil =>
    rw [readParts_nil_iff, tagEnd?_iff]
    exact (and_iff_left trivial).symm
  | cons p ps ih =>
    rw [readParts_cons_iff]
    constructor
    · rintro ⟨hend, r, hpart, hps⟩
      obtain ⟨rfl, hread⟩ := ih.1 hps
      obtain rfl := append_of_readPart hpart
      exact ⟨by simp, ⟨hend, hpart⟩, hread⟩
    · rintro ⟨rfl, ⟨hend, hpart⟩, hread⟩
      rw [List.flatMap_cons, List.append_assoc]
      exact ⟨hend, _, hpart, ih.2 ⟨rfl, hread⟩⟩

/-- The end of a tag hides what follows. -/
theorem sameAhead_ending (front : List Char) (selfClosing : Bool) (r r' : List Char) :
    SameAhead (front ++ (endingOf selfClosing ++ r)) (front ++ (endingOf selfClosing ++ r')) := by
  simp only [← List.append_assoc]
  refine SameAhead.append _ ⟨'>', ?_, by decide, by decide⟩ r r'
  cases selfClosing <;> simp [endingOf]

/-- The parts of a complete tag are read the same whatever follows the tag. -/
theorem readParts_congr {parts : List TagPart} {selfClosing : Bool} {r : List Char}
    (r' : List Char) (h : PartsRead parts (endingOf selfClosing ++ r)) :
    PartsRead parts (endingOf selfClosing ++ r') := by
  induction parts with
  | nil => trivial
  | cons p ps ih => exact ⟨h.1.congr (sameAhead_ending _ _ _ _), ih h.2⟩

/-- Whether a tag, written out, is read as it is. -/
structure OpenTag.Complete (t : OpenTag) : Prop where
  /-- the name holds name characters only -/
  name : ∀ c ∈ t.name, isNameChar c
  /-- no further name character follows -/
  nameEnd : (t.parts.flatMap TagPart.source ++ t.ending).head?.all (!isNameChar ·)
  /-- the parts are read one after another -/
  parts : PartsRead t.parts t.ending

theorem readOpenTag_iff {s rest : List Char} {t : OpenTag} :
    readOpenTag s = some (t, rest) ↔ '<' :: s = t.source ++ rest ∧ t.Complete := by
  have hhead : ∀ u : OpenTag, (u.parts.flatMap TagPart.source ++ (u.ending ++ rest)).head?
      = (u.parts.flatMap TagPart.source ++ u.ending).head? := by
    intro u
    cases h : u.selfClosing <;> simp [OpenTag.ending, h, List.head?_append]
  constructor
  · intro h
    refine ⟨(append_of_readOpenTag h).symm, ?_⟩
    obtain ⟨⟨parts, selfClosing, r⟩, hparts, heq⟩ := Option.map_eq_some_iff.1 h
    cases heq
    obtain ⟨hs, hread⟩ := readParts_iff.1 hparts
    refine ⟨all_takeWhile, ?_, ?_⟩
    · rw [← hhead, OpenTag.ending_eq, ← hs]
      exact head?_dropWhile_all _ _
    · have := readParts_congr [] hread
      rwa [List.append_nil] at this
  · rintro ⟨hs, hname, hend, hread⟩
    obtain rfl : s = t.name ++ (t.parts.flatMap TagPart.source ++ (t.ending ++ rest)) := by
      simpa [OpenTag.source] using hs
    obtain ⟨htake, hdrop⟩ := span_of_all hname (hhead t ▸ hend)
    have hparts : readParts (t.parts.flatMap TagPart.source ++ (t.ending ++ rest))
        = some (t.parts, t.selfClosing, rest) := by
      refine readParts_iff.2 ⟨rfl, readParts_congr (r := []) rest ?_⟩
      rwa [List.append_nil]
    simp only [readOpenTag, htake, hdrop, hparts, Option.map_some]

end MarkupGate
