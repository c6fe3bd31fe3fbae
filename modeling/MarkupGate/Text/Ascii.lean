/-!
# ASCII character classes of markup

Markup syntax is spelled in ASCII: which characters separate attributes, which ones may stand in a
name, and when two spellings differ only by case. Nothing here looks beyond ASCII, so a vertical
tab or a no-break space separates nothing, and `É` and `é` stay different.

Texts are lists of characters throughout the library. The two functions on whole texts,
`asciiLower` and `breakOn?`, come with the facts that a scanner needs of them: lower-casing keeps
the length, and a text that was broken on a pattern is put together again by writing the pattern
between the parts.
-/

namespace MarkupGate

/-- Markup whitespace: space, tab, line feed, form feed and carriage return. -/
def isMarkupSpace (c : Char) : Bool :=
  c = ' ' || c = '\t' || c = '\n' || c = '\x0c' || c = '\r'

/-- The characters of tag names: ASCII letters and digits and `-`, `:`, `_`, `.`. -/
def isNameChar (c : Char) : Bool :=
  c.isAlphanum || c = '-' || c = ':' || c = '_' || c = '.'

/-- The three quotes that open a string inside a braced expression. -/
def isExpressionQuote (c : Char) : Bool :=
  c = '"' || c = '\'' || c = '\x60'

/-- The lower-case spelling: ASCII capitals become small letters, all else stays. -/
def asciiLower (s : List Char) : List Char := s.map Char.toLower

@[simp] theorem length_asciiLower (s : List Char) : (asciiLower s).length = s.length := by
  simp [asciiLower]

/-- Whether two texts are the same up to the case of ASCII letters. -/
def sameIgnoringCase (s t : List Char) : Bool := asciiLower s == asciiLower t

/-- Whether `s` begins with `pattern`, up to the case of ASCII letters. -/
def beginsIgnoringCase (pattern s : List Char) : Bool :=
  asciiLower pattern == asciiLower (s.take pattern.length)

/-! ## Breaking a text -/

/-- The parts of a text before and after the first occurrence of `pattern`. -/
def breakOn? (pattern : List Char) : List Char → Option (List Char × List Char)
  | [] => if pattern.isEmpty then some ([], []) else none
  | c :: cs =>
    if pattern.isPrefixOf (c :: cs) then some ([], (c :: cs).drop pattern.length)
    else (breakOn? pattern cs).map fun (before, after) => (c :: before, after)

/-- Writing the pattern between the two parts restores the text. -/
theorem append_of_breakOn? {pattern s before after : List Char}
    (h : breakOn? pattern s = some (before, after)) : before ++ pattern ++ after = s := by
  induction s generalizing before with
  | nil => grind [breakOn?]
  | cons c cs ih =>
    by_cases hp : pattern.isPrefixOf (c :: cs)
    · obtain ⟨t, ht⟩ := List.isPrefixOf_iff_prefix.1 hp
      have hd : (pattern ++ t).drop pattern.length = t := List.drop_left
      grind [breakOn?]
    · simp only [breakOn?, hp, Bool.false_eq_true, if_false, Option.map_eq_some_iff] at h
      obtain ⟨⟨b, a⟩, hba, heq⟩ := h
      cases heq
      simp [← ih hba]

/-- Whether `pattern` occurs in the text. -/
def hasInfix (pattern s : List Char) : Bool := (breakOn? pattern s).isSome

end MarkupGate
