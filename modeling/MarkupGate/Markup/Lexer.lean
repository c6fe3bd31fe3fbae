import MarkupGate.Text.Ascii
import MarkupGate.Markup.Piece

/-!
# Cutting markup into pieces

`lex` cuts any text into pieces and never fails. It takes one piece at a time off the front; what
looks like markup but does not end becomes one unterminated piece that takes the rest of the text.

* `source_readPiece`, `flatMap_source_lex`: nothing is lost, the pieces spell the text.
* The content of `script`, `style`, `textarea` and `title` is not looked into: it runs to the first
  close tag of that name and belongs to the piece of the open tag.
* Braced values are read with a count of the braces that enclose the current position; quotes
  inside them hide braces up to the next quote of the same kind.
-/

namespace MarkupGate

/-! ## Braced expressions -/

/-- Where a reader of a braced expression stands: how many further braces enclose the position, and
the quote of the string it lies in, if any. -/
structure BraceState where
  /-- braces opened inside the expression and not closed yet -/
  depth : Nat
  /-- the quote that ends the current string -/
  quote? : Option Char

namespace BraceState

/-- Just behind the brace that opens an expression. -/
def start : BraceState := ⟨0, none⟩

/-- The state after one character; nothing when that character closes the expression. -/
def next? (st : BraceState) (c : Char) : Option BraceState :=
  match st.quote? with
  | some q => some { st with quote? := if c = q then none else some q }
  | none =>
    if c = '{' then some { st with depth := st.depth + 1 }
    else if c = '}' then if st.depth = 0 then none else some { st with depth := st.depth - 1 }
    else if isExpressionQuote c then some { st with quote? := some c }
    else some st

end BraceState

/-- Reads a braced expression from inside it: what is read, up to and with the brace that closes
it, and the rest. Fails where the expression does not end. -/
def readBraced (st : BraceState) : List Char → Option (List Char × List Char)
  | [] => none
  | c :: cs =>
    match st.next? c with
    | none => some ([c], cs)
    | some st' => (readBraced st' cs).map fun (inside, rest) => (c :: inside, rest)

theorem append_of_readBraced {st : BraceState} {s inside rest : List Char}
    (h : readBraced st s = some (inside, rest)) : inside ++ rest = s := by
  induction s generalizing st inside with
  | nil => simp [readBraced] at h
  | cons c cs ih =>
    rw [readBraced] at h
    split at h
    · cases h; rfl
    · obtain ⟨⟨i, r⟩, hir, heq⟩ := Option.map_eq_some_iff.1 h
      cases heq
      simp [ih hir]

/-! ## Attributes -/

/-- Reads an attribute name: up to whitespace, an equals sign or the end of the tag. -/
def readAttrName : List Char → List Char × List Char
  | [] => ([], [])
  | c :: cs =>
    if isMarkupSpace c || c = '=' || c = '>' || (c = '/' && cs.head? = some '>') then ([], c :: cs)
    else
      let (name, rest) := readAttrName cs
      (c :: name, rest)

theorem append_readAttrName (s : List Char) : (readAttrName s).1 ++ (readAttrName s).2 = s := by
  induction s with
  | nil => rfl
  | cons c cs ih => rw [readAttrName]; split <;> simp [ih]

/-- Reads the text of a value: quoted up to the same quote, braced up to the closing brace,
otherwise up to whitespace or the end of the tag. Fails where the value does not end. -/
def readValueText : List Char → Option (ValueForm × List Char × List Char)
  | [] => none
  | c :: cs =>
    if c = '"' then (breakOn? ['"'] cs).map fun (text, rest) => (.doubleQuoted, text, rest)
    else if c = '\'' then (breakOn? ['\''] cs).map fun (text, rest) => (.singleQuoted, text, rest)
    else if c = '{' then
      (readBraced .start cs).map fun (inside, rest) => (.expression, '{' :: inside, rest)
    else
      let bare (c : Char) : Bool := !isMarkupSpace c && c ≠ '>'
      some (.unquoted, (c :: cs).takeWhile bare, (c :: cs).dropWhile bare)

theorem append_of_readValueText {s text rest : List Char} {form : ValueForm}
    (h : readValueText s = some (form, text, rest)) :
    form.quote ++ text ++ form.quote ++ rest = s := by
  cases s with
  | nil => simp [readValueText] at h
  | cons c cs =>
    rw [readValueText] at h
    split at h
    · obtain ⟨⟨t, r⟩, htr, heq⟩ := Option.map_eq_some_iff.1 h
      cases heq
      have := append_of_breakOn? htr
      simp_all [ValueForm.quote]
    · split at h
      · obtain ⟨⟨t, r⟩, htr, heq⟩ := Option.map_eq_some_iff.1 h
        cases heq
        have := append_of_breakOn? htr
        simp_all [ValueForm.quote]
      · split at h
        · obtain ⟨⟨t, r⟩, htr, heq⟩ := Option.map_eq_some_iff.1 h
          cases heq
          have := append_of_readBraced htr
          simp_all [ValueForm.quote]
        · cases h
          simp [ValueForm.quote, List.takeWhile_append_dropWhile]

/-- Reads what follows an attribute name: a value if an equals sign comes next, else nothing.
Fails where the value does not end. -/
def readValue (s : List Char) : Option (Option WrittenValue × List Char) :=
  match s.dropWhile isMarkupSpace with
  | '=' :: afterEquals =>
    (readValueText (afterEquals.dropWhile isMarkupSpace)).map fun (form, text, rest) =>
      (some {
        spaceBefore := s.takeWhile isMarkupSpace
        spaceAfter := afterEquals.takeWhile isMarkupSpace
        form := form
        text := text }, rest)
  | _ => some (none, s)

theorem append_of_readValue {s rest : List Char} {value : Option WrittenValue}
    (h : readValue s = some (value, rest)) :
    (value.map WrittenValue.source).getD [] ++ rest = s := by
  rw [readValue] at h
  split at h
  · rename_i afterEquals hs
    obtain ⟨⟨form, text, r⟩, hr, heq⟩ := Option.map_eq_some_iff.1 h
    cases heq
    have hv := append_of_readValueText hr
    calc _ = s.takeWhile isMarkupSpace ++ '=' :: (afterEquals.takeWhile isMarkupSpace
              ++ (form.quote ++ text ++ form.quote ++ rest)) := by
            simp [WrittenValue.source, WrittenValue.lead]
      _ = s.takeWhile isMarkupSpace ++ s.dropWhile isMarkupSpace := by
            rw [hv, List.takeWhile_append_dropWhile, hs]
      _ = s := List.takeWhile_append_dropWhile
  · cases h
    rfl

/-- Reads an attribute. Fails where its value does not end. -/
def readAttr (s : List Char) : Option (WrittenAttr × List Char) :=
  let (name, afterName) := readAttrName s
  (readValue afterName).map fun (value, rest) => (⟨name, value⟩, rest)

theorem append_of_readAttr {s rest : List Char} {a : WrittenAttr}
    (h : readAttr s = some (a, rest)) : a.source ++ rest = s := by
  obtain ⟨⟨v, r⟩, hv, heq⟩ := Option.map_eq_some_iff.1 h
  cases heq
  simp [WrittenAttr.source, append_of_readValue hv, append_readAttrName]

theorem name_of_readAttr {s rest : List Char} {a : WrittenAttr}
    (h : readAttr s = some (a, rest)) : a.name = (readAttrName s).1 := by
  rw [readAttr] at h
  obtain ⟨⟨v, r⟩, -, heq⟩ := Option.map_eq_some_iff.1 h
  cases heq
  rfl

/-! ## Open tags -/

/-- The end of an open tag, if it comes next: whether it is self-closing, and the rest. -/
def tagEnd? : List Char → Option (Bool × List Char)
  | '>' :: rest => some (false, rest)
  | '/' :: '>' :: rest => some (true, rest)
  | _ => none

/-- Reads one part of an open tag, where the tag does not end. Fails where the part does not end
and at the end of the text. -/
def readPart : List Char → Option (TagPart × List Char)
  | [] => none
  | c :: cs =>
    if isMarkupSpace c || c = '/' || c = '=' then some (.filler [c], cs)
    else if c = '{' then
      (readBraced .start cs).map fun (inside, rest) => (.filler ('{' :: inside), rest)
    else (readAttr (c :: cs)).map fun (a, rest) => (.attr a, rest)

/-- The three kinds of parts: a character between attributes, a braced expression, an attribute. -/
theorem exists_of_readPart {s rest : List Char} {p : TagPart} (h : readPart s = some (p, rest)) :
    ∃ c cs, s = c :: cs ∧
      ((isMarkupSpace c || c = '/' || c = '=') = true ∧ p = .filler [c] ∧ rest = cs
      ∨ (isMarkupSpace c || c = '/' || c = '=') = false ∧
        (c = '{' ∧ (∃ inside, readBraced .start cs = some (inside, rest) ∧ p = .filler ('{' :: inside))
        ∨ c ≠ '{' ∧ ∃ a, readAttr (c :: cs) = some (a, rest) ∧ p = .attr a)) := by
  cases s with
  | nil => cases h
  | cons c cs =>
    refine ⟨c, cs, rfl, ?_⟩
    rw [readPart] at h
    split at h
    · rename_i hplain
      cases h
      exact .inl ⟨hplain, rfl, rfl⟩
    rename_i hplain
    refine .inr ⟨Bool.eq_false_iff.2 hplain, ?_⟩
    split at h
    · rename_i hbrace
      obtain ⟨⟨inside, r⟩, hread, heq⟩ := Option.map_eq_some_iff.1 h
      cases heq
      exact .inl ⟨hbrace, inside, hread, rfl⟩
    · rename_i hbrace
      obtain ⟨⟨a, r⟩, hread, heq⟩ := Option.map_eq_some_iff.1 h
      cases heq
      exact .inr ⟨hbrace, a, hread, rfl⟩

theorem readPart_attr {c : Char} {cs : List Char}
    (hplain : (isMarkupSpace c || c = '/' || c = '=') = false) (hbrace : c ≠ '{') :
    readPart (c :: cs) = (readAttr (c :: cs)).map fun x => (.attr x.1, x.2) := by
  rw [readPart, if_neg (Bool.eq_false_iff.1 hplain), if_neg hbrace]

theorem append_of_readPart {s rest : List Char} {p : TagPart}
    (h : readPart s = some (p, rest)) : p.source ++ rest = s := by
  obtain ⟨c, cs, rfl, ⟨-, rfl, rfl⟩ | ⟨-, ⟨rfl, inside, hread, rfl⟩ | ⟨-, a, hread, rfl⟩⟩⟩ :=
    exists_of_readPart h
  · rfl
  · exact congrArg ('{' :: ·) (append_of_readBraced hread)
  · exact append_of_readAttr hread

/-- Where a tag does not end, a part takes at least one character. -/
theorem length_lt_of_readPart {s rest : List Char} {p : TagPart} (hend : tagEnd? s = none)
    (h : readPart s = some (p, rest)) : rest.length < s.length := by
  have happ := append_of_readPart h
  have hne : p.source ≠ [] := by
    obtain ⟨c, cs, rfl, ⟨-, rfl, -⟩ | ⟨hplain, ⟨-, inside, -, rfl⟩ | ⟨-, a, hread, rfl⟩⟩⟩ :=
      exists_of_readPart h
    · simp [TagPart.source]
    · simp [TagPart.source]
    · have hgt : c ≠ '>' := by rintro rfl; simp [tagEnd?] at hend
      simp only [Bool.or_eq_false_iff, decide_eq_false_iff_not] at hplain
      simp [TagPart.source, WrittenAttr.source, name_of_readAttr hread, readAttrName, hplain, hgt]
  have hlen : p.source.length + rest.length = s.length := by
    rw [← List.length_append, happ]
  have := List.length_pos_iff.2 hne
  omega

/-- Reads an open tag from just after its name: its parts, whether it is self-closing, and the
rest. Fails where the tag does not end. -/
def readParts (s : List Char) : Option (List TagPart × Bool × List Char) :=
  match hend : tagEnd? s with
  | some (selfClosing, rest) => some ([], selfClosing, rest)
  | none =>
    match hpart : readPart s with
    | none => none
    | some (p, rest) =>
      have := length_lt_of_readPart hend hpart
      (readParts rest).map fun (parts, ending) => (p :: parts, ending)
termination_by s.length

theorem readParts_end {s rest : List Char} {selfClosing : Bool}
    (hend : tagEnd? s = some (selfClosing, rest)) : readParts s = some ([], selfClosing, rest) := by
  rw [readParts]
  split <;> simp_all

theorem readParts_fail {s : List Char} (hend : tagEnd? s = none) (h : readPart s = none) :
    readParts s = none := by
  rw [readParts]
  split
  · simp_all
  · split <;> simp_all

theorem readParts_step {s rest : List Char} {p : TagPart} (hend : tagEnd? s = none)
    (h : readPart s = some (p, rest)) :
    readParts s = (readParts rest).map fun found => (p :: found.1, found.2) := by
  rw [readParts]
  split
  · simp_all
  · split
    · simp_all
    · rename_i hread
      rw [hread] at h
      cases h
      rfl

theorem readParts_nil_iff {s rest : List Char} {selfClosing : Bool} :
    readParts s = some ([], selfClosing, rest) ↔ tagEnd? s = some (selfClosing, rest) := by
  refine ⟨fun h => ?_, readParts_end⟩
  cases hend : tagEnd? s with
  | some x =>
    rw [readParts_end hend] at h
    cases h
    rfl
  | none =>
    cases hpart : readPart s with
    | none =>
      rw [readParts_fail hend hpart] at h
      cases h
    | some x =>
      rw [readParts_step hend hpart] at h
      obtain ⟨found, -, heq⟩ := Option.map_eq_some_iff.1 h
      cases heq

theorem readParts_cons_iff {s rest : List Char} {p : TagPart} {ps : List TagPart}
    {selfClosing : Bool} : readParts s = some (p :: ps, selfClosing, rest)
      ↔ tagEnd? s = none ∧ ∃ r, readPart s = some (p, r)
        ∧ readParts r = some (ps, selfClosing, rest) := by
  constructor
  · intro h
    cases hend : tagEnd? s with
    | some x =>
      rw [readParts_end hend] at h
      cases h
    | none =>
      cases hpart : readPart s with
      | none =>
        rw [readParts_fail hend hpart] at h
        cases h
      | some x =>
        rw [readParts_step hend hpart] at h
        obtain ⟨⟨qs, ending⟩, hps, heq⟩ := Option.map_eq_some_iff.1 h
        cases heq
        exact ⟨rfl, _, rfl, hps⟩
  · rintro ⟨hend, r, hpart, hps⟩
    rw [readParts_step hend hpart, hps]
    rfl

theorem append_of_tagEnd? {s rest : List Char} {selfClosing : Bool}
    (h : tagEnd? s = some (selfClosing, rest)) (name : List Char) (parts : List TagPart) :
    (OpenTag.mk name parts selfClosing).ending ++ rest = s := by
  unfold tagEnd? at h
  split at h <;> simp_all [OpenTag.ending]

theorem append_of_readParts {s rest : List Char} {parts : List TagPart} {selfClosing : Bool}
    (h : readParts s = some (parts, selfClosing, rest)) (name : List Char) :
    parts.flatMap TagPart.source ++ (OpenTag.mk name parts selfClosing).ending ++ rest = s := by
  induction parts generalizing s with
  | nil => exact append_of_tagEnd? (readParts_nil_iff.1 h) name []
  | cons p ps ih =>
    obtain ⟨-, r, hpart, hps⟩ := readParts_cons_iff.1 h
    have hrest := ih hps
    simp only [OpenTag.ending, List.flatMap_cons, List.append_assoc] at hrest ⊢
    rw [hrest, append_of_readPart hpart]

/-- Reads an open tag from just after its opening bracket. -/
def readOpenTag (s : List Char) : Option (OpenTag × List Char) :=
  (readParts (s.dropWhile isNameChar)).map fun (parts, selfClosing, rest) =>
    (⟨s.takeWhile isNameChar, parts, selfClosing⟩, rest)

theorem append_of_readOpenTag {s rest : List Char} {t : OpenTag}
    (h : readOpenTag s = some (t, rest)) : t.source ++ rest = '<' :: s := by
  obtain ⟨⟨parts, sc, r⟩, hp, heq⟩ := Option.map_eq_some_iff.1 h
  cases heq
  have := append_of_readParts hp (s.takeWhile isNameChar)
  simp only [OpenTag.source, List.cons_append, List.append_assoc] at this ⊢
  rw [this, List.takeWhile_append_dropWhile]

/-! ## Opaque content -/

/-- Elements whose content is code and never markup. -/
def isRawName (name : List Char) : Bool :=
  name = "script".toList || name = "style".toList

/-- Elements whose content is text and never markup. -/
def isTextOnlyName (name : List Char) : Bool :=
  name = "textarea".toList || name = "title".toList

namespace OpenTag

/-- Whether the tag begins an element of code. -/
def opensRaw (t : OpenTag) : Bool := !t.selfClosing && isRawName (asciiLower t.name)

/-- Whether the tag begins an element of text alone. -/
def opensTextOnly (t : OpenTag) : Bool := !t.selfClosing && isTextOnlyName (asciiLower t.name)

/-- Whether what follows the tag is not looked into. -/
def opensOpaque (t : OpenTag) : Bool := t.opensRaw || t.opensTextOnly

end OpenTag

/-- Whether a close tag of this name comes next: the name in any case, and no further name
character behind it. -/
def closesElement (name s : List Char) : Bool :=
  ['<', '/'].isPrefixOf s && beginsIgnoringCase name (s.drop 2)
    && !((s.drop (2 + name.length)).head?.any isNameChar)

/-- Reads the content of an opaque element: up to its first close tag, or everything. -/
def readOpaque (name : List Char) : List Char → List Char × List Char
  | [] => ([], [])
  | c :: cs =>
    if closesElement name (c :: cs) then ([], c :: cs)
    else
      let (content, rest) := readOpaque name cs
      (c :: content, rest)

theorem append_readOpaque (name s : List Char) :
    (readOpaque name s).1 ++ (readOpaque name s).2 = s := by
  induction s with
  | nil => rfl
  | cons c cs ih => rw [readOpaque]; split <;> simp [ih]

/-! ## Pieces -/

/-- Whether a comment, declaration or tag begins here; any other bracket is text. -/
def beginsMarkup : List Char → Bool
  | '<' :: '/' :: c :: _ => c.isAlpha
  | '<' :: c :: _ => c = '!' || c = '?' || c.isAlpha
  | _ => false

/-- Reads text up to where markup begins. -/
def readText : List Char → List Char × List Char
  | [] => ([], [])
  | c :: cs =>
    if beginsMarkup (c :: cs) then ([], c :: cs)
    else
      let (content, rest) := readText cs
      (c :: content, rest)

theorem append_readText (s : List Char) : (readText s).1 ++ (readText s).2 = s := by
  induction s with
  | nil => rfl
  | cons c cs ih => rw [readText]; split <;> simp [ih]

/-- Reads the markup that begins with a bracket and `s`, if it ends. -/
def readMarkup? : List Char → Option (Piece × List Char)
  | '!' :: '-' :: '-' :: s =>
    (breakOn? ['-', '-', '>'] s).map fun (body, rest) => (.comment body, rest)
  | '!' :: s => (breakOn? ['>'] s).map fun (body, rest) => (.declaration '!' body, rest)
  | '?' :: s => (breakOn? ['>'] s).map fun (body, rest) => (.declaration '?' body, rest)
  | '/' :: s =>
    (breakOn? ['>'] (s.dropWhile isNameChar)).map fun (trailing, rest) =>
      (.closeTag (s.takeWhile isNameChar) trailing, rest)
  | s =>
    (readOpenTag s).map fun (t, rest) =>
      if t.opensOpaque then
        let (content, rest) := readOpaque (asciiLower t.name) rest
        (.openTag t content, rest)
      else (.openTag t [], rest)

/-- How markup is read from behind its bracket on, with one way for each kind: the text, the piece and the
rest. -/
inductive ReadsMarkup : List Char → Piece → List Char → Prop
  | comment {s body rest : List Char} (hbody : breakOn? ['-', '-', '>'] s = some (body, rest)) :
      ReadsMarkup ('!' :: '-' :: '-' :: s) (.comment body) rest
  | declaration {mark : Char} {s body rest : List Char} (hmark : mark = '!' ∨ mark = '?')
      (hdashes : mark = '!' → ∀ t, s ≠ '-' :: '-' :: t)
      (hbody : breakOn? ['>'] s = some (body, rest)) :
      ReadsMarkup (mark :: s) (.declaration mark body) rest
  | closeTag {s trailing rest : List Char}
      (htrailing : breakOn? ['>'] (s.dropWhile isNameChar) = some (trailing, rest)) :
      ReadsMarkup ('/' :: s) (.closeTag (s.takeWhile isNameChar) trailing) rest
  | openTag {s content behind rest : List Char} {t : OpenTag}
      (hmark : ∀ c ∈ s.head?, c ≠ '!' ∧ c ≠ '?' ∧ c ≠ '/') (htag : readOpenTag s = some (t, behind))
      (hcontent : (if t.opensOpaque then readOpaque (asciiLower t.name) behind else ([], behind))
        = (content, rest)) :
      ReadsMarkup s (.openTag t content) rest

theorem readMarkup?_eq_some {s rest : List Char} {p : Piece} (h : readMarkup? s = some (p, rest)) :
    ReadsMarkup s p rest := by
  unfold readMarkup? at h
  split at h
  · obtain ⟨⟨b, r⟩, hbody, heq⟩ := Option.map_eq_some_iff.1 h
    cases heq
    exact .comment hbody
  · rename_i hdashes
    obtain ⟨⟨b, r⟩, hbody, heq⟩ := Option.map_eq_some_iff.1 h
    cases heq
    exact .declaration (.inl rfl) (fun _ t ht => hdashes t (by rw [ht])) hbody
  · obtain ⟨⟨b, r⟩, hbody, heq⟩ := Option.map_eq_some_iff.1 h
    cases heq
    exact .declaration (.inr rfl) (by simp) hbody
  · obtain ⟨⟨b, r⟩, htrailing, heq⟩ := Option.map_eq_some_iff.1 h
    cases heq
    exact .closeTag htrailing
  · rename_i hbang hquestion hslash
    obtain ⟨⟨t, behind⟩, htag, heq⟩ := Option.map_eq_some_iff.1 h
    have hmark : ∀ c ∈ s.head?, c ≠ '!' ∧ c ≠ '?' ∧ c ≠ '/' := by
      intro c hc
      obtain ⟨cs, rfl⟩ := List.head?_eq_some_iff.1 hc
      exact ⟨fun h => hbang cs (by rw [h]), fun h => hquestion cs (by rw [h]),
        fun h => hslash cs (by rw [h])⟩
    dsimp only at heq
    split at heq <;> rename_i hopens <;> cases heq
    · exact .openTag hmark htag (if_pos hopens)
    · exact .openTag hmark htag (if_neg hopens)

theorem append_of_readMarkup? {s rest : List Char} {p : Piece}
    (h : readMarkup? s = some (p, rest)) : p.source ++ rest = '<' :: s := by
  cases readMarkup?_eq_some h with
  | comment hbody => simp [Piece.source, ← append_of_breakOn? hbody]
  | declaration hmark hdashes hbody => simp [Piece.source, ← append_of_breakOn? hbody]
  | @closeTag s trailing _ htrailing =>
    have hdrop := append_of_breakOn? htrailing
    calc _ = '<' :: '/' :: (s.takeWhile isNameChar ++ (trailing ++ ['>'] ++ rest)) := by
            simp [Piece.source]
      _ = '<' :: '/' :: s := by rw [hdrop, List.takeWhile_append_dropWhile]
  | @openTag _ content behind _ t hmark htag hcontent =>
    have hbehind : content ++ rest = behind := by
      split at hcontent
      · rw [← append_readOpaque (asciiLower t.name) behind, hcontent]
      · cases hcontent
        rfl
    rw [Piece.source, List.append_assoc, hbehind, append_of_readOpenTag htag]

/-- Takes the first piece off a text that is not empty. -/
def readPiece (c : Char) (cs : List Char) : Piece × List Char :=
  if beginsMarkup (c :: cs) then (readMarkup? cs).getD (.unterminated (c :: cs), [])
  else
    let (content, rest) := readText cs
    (.text (c :: content), rest)

theorem source_readPiece (c : Char) (cs : List Char) :
    (readPiece c cs).1.source ++ (readPiece c cs).2 = c :: cs := by
  rw [readPiece]
  split
  · rename_i hm
    have hc : c = '<' := by
      unfold beginsMarkup at hm
      split at hm <;> simp_all
    subst hc
    cases h : readMarkup? cs with
    | none => simp [Piece.source]
    | some pr =>
      obtain ⟨p, r⟩ := pr
      simpa using append_of_readMarkup? h
  · simp [Piece.source, append_readText]

theorem source_readPiece_ne_nil (c : Char) (cs : List Char) :
    (readPiece c cs).1.source ≠ [] := by
  rw [readPiece]
  split
  · cases h : readMarkup? cs with
    | none => simp [Piece.source]
    | some pr =>
      obtain ⟨p, r⟩ := pr
      cases readMarkup?_eq_some h <;> simp [Piece.source, OpenTag.source]
  · simp [Piece.source]

/-- A piece takes at least one character. -/
theorem length_readPiece_lt (c : Char) (cs : List Char) :
    (readPiece c cs).2.length < (c :: cs).length := by
  have h := congrArg List.length (source_readPiece c cs)
  have hpos := List.length_pos_iff.2 (source_readPiece_ne_nil c cs)
  rw [List.length_append] at h
  omega

/-- Cuts a text into pieces. -/
def lex : List Char → List Piece
  | [] => []
  | c :: cs => (readPiece c cs).1 :: lex (readPiece c cs).2
termination_by s => s.length
decreasing_by exact length_readPiece_lt c cs

@[simp] theorem lex_nil : lex [] = [] := by rw [lex]

theorem lex_cons (c : Char) (cs : List Char) :
    lex (c :: cs) = (readPiece c cs).1 :: lex (readPiece c cs).2 := by rw [lex]

/-- The pieces spell the text they were cut from. -/
theorem flatMap_source_lex (s : List Char) : (lex s).flatMap Piece.source = s := by
  induction hn : s.length using Nat.strongRecOn generalizing s with
  | ind n ih =>
    subst hn
    cases s with
    | nil => simp
    | cons c cs =>
      rw [lex_cons, List.flatMap_cons, ih _ (length_readPiece_lt c cs) _ rfl]
      exact source_readPiece c cs

end MarkupGate
