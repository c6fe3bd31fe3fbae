import Mathlib
import MarkupGate.Proofs.Toml.Quoted
import MarkupGate.Proofs.Toml.Scalar
import MarkupGate.Toml.Writer

/-!
# Settings are read back

Each line that is written is one statement. A setting is its name, an equals sign and its value;
a list of strings may take several lines, each with one string behind four spaces and a comma after
it. A header is a name between brackets. Between two sections there is a blank line, which says
nothing.

* `readValue_text`: a value is read back.
* `readStatements_section`: a section is read as its statements.
* `readStatements_write`: so is everything that is written.
-/

namespace MarkupGate

namespace Toml

variable {c : Char} {s rest : List Char} {v : Toml} {depth : Nat}

/-! ## What is skipped -/

/-- The characters that begin something: neither blanks nor line breaks nor the mark of a comment. -/
def isMark (c : Char) : Bool :=
  !isTabOrSpace c && c ≠ '\n' && c ≠ '\r' && c ≠ '#'

theorem skipTrivia_mark (h : isMark c) : skipTrivia false (c :: s) = c :: s := by
  simp only [isMark, Bool.and_eq_true, Bool.not_eq_true', decide_eq_true_eq] at h
  obtain ⟨⟨⟨hblank, hline⟩, hreturn⟩, hcomment⟩ := h
  rw [skipTrivia]
  · simp [hblank, hline, hcomment]
  · exact fun _ h _ => hreturn h

theorem skipTrivia_line (s : List Char) : skipTrivia false ('\n' :: s) = skipTrivia false s := by
  rw [skipTrivia]
  · rfl
  · nofun

theorem skipTrivia_space (s : List Char) : skipTrivia false (' ' :: s) = skipTrivia false s := by
  rw [skipTrivia]
  · rfl
  · nofun

theorem isMark_of_isWordChar (h : isWordChar c) : isMark c := by
  have hne {d : Char} (hd : ¬ isWordChar d) : c ≠ d := by
    rintro rfl
    exact hd h
  simp [isMark, isTabOrSpace, hne (d := ' ') (by decide), hne (d := '\t') (by decide),
    hne (d := '\n') (by decide), hne (d := '\r') (by decide), hne (d := '#') (by decide)]

theorem skipBlanks_mark (h : isMark c) : skipBlanks (c :: s) = c :: s := by
  simp only [isMark, Bool.and_eq_true, Bool.not_eq_true'] at h
  rw [skipBlanks, List.dropWhile_cons_of_neg (by simp [h.1.1.1])]

/-- What it means that a text begins with something. -/
def Begins (s : List Char) : Prop := ∃ c more, s = c :: more ∧ isMark c

theorem Begins.skipTrivia (h : Begins s) : skipTrivia false s = s := by
  obtain ⟨c, more, rfl, hc⟩ := h
  exact skipTrivia_mark hc

theorem Begins.skipBlanks (h : Begins s) : skipBlanks s = s := by
  obtain ⟨c, more, rfl, hc⟩ := h
  exact skipBlanks_mark hc

theorem Begins.append (h : Begins s) (rest : List Char) : Begins (s ++ rest) := by
  obtain ⟨c, more, rfl, hc⟩ := h
  exact ⟨c, more ++ rest, rfl, hc⟩

/-! ## Values -/

/-- A quoted string begins with a quote. -/
theorem quoted_head (s : List Char) : ∃ q more, quoted s = q :: more ∧ (q = '"' ∨ q = '\'') := by
  unfold quoted
  cases StringForm.choose s with
  | basic => exact ⟨_, _, rfl, .inl rfl⟩
  | literal => exact ⟨_, _, rfl, .inr rfl⟩
  | multiBasic => exact ⟨_, _, rfl, .inl rfl⟩
  | multiLiteral => exact ⟨_, _, rfl, .inr rfl⟩

theorem begins_quoted (s : List Char) : Begins (quoted s) := by
  obtain ⟨q, more, hs, rfl | rfl⟩ := quoted_head s
  · exact ⟨_, more, hs, by decide⟩
  · exact ⟨_, more, hs, by decide⟩

/-- What neither brackets nor braces begin does not nest. -/
theorem readValue_scalar (hbracket : c ≠ '[') (hbrace : c ≠ '{') (depth : Nat) :
    readValue depth (c :: s) = readScalar (c :: s) := by
  rw [readValue.eq_def]
  split
  · rename_i heq
    exact absurd (List.cons.inj heq).1 hbracket
  · rename_i heq
    exact absurd (List.cons.inj heq).1 hbrace
  · rfl

/-- A string is read back as a value. -/
theorem readValue_quoted (s : String) (hrest : NoQuote rest) (depth : Nat) :
    readValue depth (quoted s.toList ++ rest) = some (.string s, rest) := by
  have hread := readString_quoted s.toList hrest
  obtain ⟨q, more, hs, hq⟩ := quoted_head s.toList
  rw [hs, List.cons_append] at hread ⊢
  rcases hq with rfl | rfl
  · rw [readValue_scalar (by decide) (by decide)]
    change (readString _).map _ = _
    simp only [hread, Option.map_some, String.ofList_toList]
  · rw [readValue_scalar (by decide) (by decide)]
    change (readString _).map _ = _
    simp only [hread, Option.map_some, String.ofList_toList]

/-- A word is read back as a value. -/
theorem readValue_word (h : IsWord s v) (depth : Nat) :
    readValue depth (s ++ '\n' :: rest) = some (v, '\n' :: rest) := by
  have hread := h.readScalar rest
  cases s with
  | nil => exact absurd rfl h.ne_nil
  | cons c s =>
    have hc := h.chars c List.mem_cons_self
    rw [List.cons_append] at hread ⊢
    rw [readValue_scalar, hread]
    · rintro rfl
      cases hc
    · rintro rfl
      cases hc

theorem begins_word (h : IsWord s v) : Begins s := by
  cases s with
  | nil => exact absurd rfl h.ne_nil
  | cons c s => exact ⟨c, s, rfl, isMark_of_isWordChar (h.chars c List.mem_cons_self)⟩

/-! ## Lists -/

/-- The closing bracket ends a list. -/
theorem readItems_close {read : List Char → Option (Toml × List Char)}
    (hs : skipTrivia false s = ']' :: rest) : readItems read s = some ([], rest) := by
  rw [readItems, hs]
  rfl

/-- An item that is read and the closing bracket behind it. -/
theorem readItems_last {read : List Char → Option (Toml × List Char)} {t : List Char}
    (hs : skipTrivia false s = t) (ht : ∀ c ∈ t.head?, c ≠ ']')
    (hread : read t = some (v, ']' :: rest)) : readItems read s = some ([v], rest) := by
  rw [readItems, hs]
  split
  · exact absurd rfl (ht ']' rfl)
  · rw [hread]
    simp only [skipTrivia_mark (show isMark ']' by decide)]

/-- An item that is read and a comma behind it. -/
theorem readItems_comma {read : List Char → Option (Toml × List Char)} {t : List Char}
    (hs : skipTrivia false s = t) (ht : ∀ c ∈ t.head?, c ≠ ']')
    (hread : read t = some (v, ',' :: rest)) (hlen : rest.length < s.length) :
    readItems read s = (readItems read rest).map fun (items, rest) => (v :: items, rest) := by
  rw [readItems, hs]
  split
  · exact absurd rfl (ht ']' rfl)
  · rw [hread]
    simp only [skipTrivia_mark (show isMark ',' by decide), if_pos hlen]

theorem head?_quoted_append (s rest : List Char) : ∀ c ∈ (quoted s ++ rest).head?, c ≠ ']' := by
  obtain ⟨q, more, hs, hq⟩ := quoted_head s
  rw [hs]
  rintro c ⟨⟩
  rcases hq with rfl | rfl
  · decide
  · decide

/-- What is written for the items of a list on lines of their own. -/
def itemLines (values : List String) : List Char :=
  values.flatMap fun value => "\n    ".toList ++ quoted value.toList ++ [',']

/-- Items on lines of their own are read back. -/
theorem readItems_itemLines (values : List String) (rest : List Char) :
    readItems (readValue depth) (itemLines values ++ '\n' :: ']' :: rest)
      = some (values.map .string, rest) := by
  induction values with
  | nil =>
    apply readItems_close
    exact skipTrivia_line _
  | cons v values ih =>
    have hread : readValue depth (quoted v.toList ++ ',' :: (itemLines values ++ '\n' :: ']' :: rest))
        = some (.string v, ',' :: (itemLines values ++ '\n' :: ']' :: rest)) := by
      apply readValue_quoted
      rintro c ⟨⟩
      decide
    have hlines : itemLines (v :: values) ++ '\n' :: ']' :: rest
        = '\n' :: ' ' :: ' ' :: ' ' :: ' '
          :: (quoted v.toList ++ ',' :: (itemLines values ++ '\n' :: ']' :: rest)) := by
      have hspaces : "\n    ".toList = ['\n', ' ', ' ', ' ', ' '] := rfl
      simp only [itemLines, List.flatMap_cons, hspaces, List.cons_append, List.nil_append,
        List.append_assoc]
    rw [hlines, readItems_comma _ (head?_quoted_append _ _) hread, ih]
    · rfl
    · simp only [List.length_cons, List.length_append]
      omega
    · rw [skipTrivia_line, skipTrivia_space, skipTrivia_space, skipTrivia_space, skipTrivia_space]
      exact ((begins_quoted _).append _).skipTrivia

/-! ## Settings -/

namespace Setting

/-- The value that a setting is written for. -/
def value : Setting → Toml
  | .integer n => .integer n
  | .float x => .float x
  | .string s => .string s
  | .strings values => .array (values.map .string)

/-- What it means that a number lies in the range in which it is read back: integers have 63 bits,
and the numbers that are not whole are those from zero to one. -/
def InRange : Setting → Prop
  | .integer n => n < bound63
  | .float x => 0.0 ≤ x ∧ x ≤ 1.0
  | .string _ | .strings _ => True

theorem begins_text {setting : Setting} (h : setting.InRange) : Begins setting.text := by
  cases setting with
  | integer n => exact begins_word (isWord_decimalDigits h)
  | float x => exact begins_word (isWord_shortestText h.1 h.2)
  | string s => exact begins_quoted s.toList
  | strings values =>
    obtain ⟨more, hmore⟩ : ∃ more, (Setting.strings values).text = '[' :: more := by
      cases values with
      | nil => exact ⟨_, rfl⟩
      | cons v values =>
        cases values with
        | nil => exact ⟨_, rfl⟩
        | cons w values => exact ⟨_, rfl⟩
    exact ⟨'[', more, hmore, by decide⟩

end Setting

theorem readValue_bracket (depth : Nat) (s : List Char) : readValue (depth + 1) ('[' :: s)
    = (readItems (readValue depth) s).map fun (items, rest) => (.array items, rest) := by
  rw [readValue]

/-- A list of strings is read back. -/
theorem readValue_strings (values : List String) (depth : Nat) (rest : List Char) :
    readValue (depth + 1) ((Setting.strings values).text ++ rest)
      = some (.array (values.map .string), rest) := by
  cases values with
  | nil =>
    change readValue (depth + 1) ('[' :: ']' :: rest) = _
    rw [readValue_bracket, readItems_close (skipTrivia_mark (by decide))]
    rfl
  | cons v values =>
    cases values with
    | nil =>
      have hread : readValue depth (quoted v.toList ++ ']' :: rest)
          = some (.string v, ']' :: rest) := by
        apply readValue_quoted
        rintro c ⟨⟩
        decide
      have hskip := ((begins_quoted v.toList).append (']' :: rest)).skipTrivia
      have htext : (Setting.strings [v]).text ++ rest = '[' :: (quoted v.toList ++ ']' :: rest) := by
        simp only [Setting.text, List.cons_append, List.append_assoc, List.nil_append]
      rw [htext, readValue_bracket, readItems_last hskip (head?_quoted_append _ _) hread]
      rfl
    | cons w values =>
      have htext : (Setting.strings (v :: w :: values)).text ++ rest
          = '[' :: (itemLines (v :: w :: values) ++ '\n' :: ']' :: rest) := by
        simp only [Setting.text, itemLines, List.cons_append, List.append_assoc, List.nil_append]
      rw [htext, readValue_bracket, readItems_itemLines]
      rfl

/-- A value is read back. -/
theorem readValue_text {setting : Setting} (h : setting.InRange) (depth : Nat) (rest : List Char) :
    readValue (depth + 1) (setting.text ++ '\n' :: rest)
      = some (setting.value, '\n' :: rest) := by
  have hline : NoQuote ('\n' :: rest) := by
    rintro c ⟨⟩
    decide
  cases setting with
  | integer n => exact readValue_word (isWord_decimalDigits h) _
  | float x => exact readValue_word (isWord_shortestText h.1 h.2) _
  | string s => exact readValue_quoted s hline _
  | strings values => exact readValue_strings values depth _

/-! ## Names -/

/-- What it means that a name needs no quotes. -/
def IsBare (name : String) : Prop := name.toList ≠ [] ∧ ∀ c ∈ name.toList, isNameChar c

theorem isWordChar_of_isNameChar (h : isNameChar c) : isWordChar c := by
  simp only [isNameChar, Bool.or_eq_true, decide_eq_true_eq] at h
  rcases h with (h | rfl) | rfl
  · simp [isWordChar, h]
  · decide
  · decide

theorem IsBare.exists_cons {name : String} (h : IsBare name) :
    ∃ c s, name.toList = c :: s ∧ isNameChar c := by
  obtain ⟨hne, hchars⟩ := h
  cases hname : name.toList with
  | nil => exact absurd hname hne
  | cons c s => exact ⟨c, s, rfl, hchars c (hname ▸ List.mem_cons_self)⟩

theorem IsBare.begins {name : String} (h : IsBare name) : Begins name.toList := by
  obtain ⟨c, s, hname, hc⟩ := h.exists_cons
  exact ⟨c, s, hname, isMark_of_isWordChar (isWordChar_of_isNameChar hc)⟩

/-- A name without quotes ends before the first character that cannot stand in it. -/
theorem readName_bare {name : String} (h : IsBare name) (hrest : ∀ c ∈ rest.head?, ¬ isNameChar c) :
    readName (name.toList ++ rest) = some (name, rest) := by
  have hchars := h.2
  have htake : rest.takeWhile isNameChar = [] := by
    cases rest with
    | nil => rfl
    | cons c s => exact List.takeWhile_cons_of_neg (hrest c rfl)
  have hdrop : rest.dropWhile isNameChar = rest := by
    cases rest with
    | nil => rfl
    | cons c s => exact List.dropWhile_cons_of_neg (hrest c rfl)
  have hspan : (name.toList ++ rest).span isNameChar = (name.toList, rest) := by
    rw [List.span_eq_takeWhile_dropWhile, List.takeWhile_append_of_pos hchars,
      List.dropWhile_append_of_pos hchars, htake, hdrop, List.append_nil]
  obtain ⟨c, s, hname, hc⟩ := h.exists_cons
  unfold readName
  split
  · rename_i heq
    rw [hname] at heq
    cases heq
    cases hc
  · rename_i heq
    rw [hname] at heq
    cases heq
    cases hc
  · have hempty : name.toList.isEmpty = false := by rw [hname]; rfl
    simp only [hspan, hempty, Bool.false_eq_true, if_false, String.ofList_toList]

/-- A name alone is a key. -/
theorem readKey_bare {name : String} (h : IsBare name) (hrest : ∀ c ∈ rest.head?, ¬ isNameChar c)
    (hdot : ∀ c ∈ (skipBlanks rest).head?, c ≠ '.') :
    readKey (name.toList ++ rest) = some (⟨[], name⟩, skipBlanks rest) := by
  have hnames : readNames (name.toList ++ rest) = some (⟨[], name⟩, skipBlanks rest) := by
    rw [readNames, (h.begins.append rest).skipBlanks, readName_bare h hrest]
    simp only
    split
    · rename_i heq
      rw [heq] at hdot
      exact absurd rfl (hdot '.' rfl)
    · rfl
  rw [readKey, hnames]
  rfl

/-! ## Statements -/

/-- A header is read back. -/
theorem readStatement_header {name : String} (h : IsBare name) (rest : List Char) :
    readStatement ('[' :: (name.toList ++ ']' :: rest)) = some (.table ⟨[], name⟩, rest) := by
  have hskip : skipBlanks (']' :: rest) = ']' :: rest := skipBlanks_mark (by decide)
  have hkey : readKey (name.toList ++ ']' :: rest) = some (⟨[], name⟩, ']' :: rest) := by
    rw [readKey_bare h, hskip]
    · rintro c ⟨⟩
      decide
    · rw [hskip]
      rintro c ⟨⟩
      decide
  obtain ⟨c, s, hname, hc⟩ := h.exists_cons
  unfold readStatement
  split
  · rename_i heq
    rw [hname] at heq
    cases heq
    cases hc
  · rename_i heq
    cases heq
    rw [hkey]
    rfl
  · rename_i heq
    exact absurd rfl (heq _)

/-- A setting with its name is read back. -/
theorem readStatement_line {name : String} (h : IsBare name) {setting : Setting}
    (hsetting : setting.InRange) (rest : List Char) :
    readStatement (Section.line name setting ++ rest)
      = some (.pair ⟨[], name⟩ setting.value, '\n' :: rest) := by
  set after := setting.text ++ '\n' :: rest with hafter
  have hline : Section.line name setting ++ rest
      = name.toList ++ ' ' :: '=' :: ' ' :: after := by
    have hsign : " = ".toList = [' ', '=', ' '] := rfl
    simp only [Section.line, hsign, hafter, List.append_assoc, List.cons_append, List.nil_append]
  have hskip : skipBlanks (' ' :: '=' :: ' ' :: after) = '=' :: ' ' :: after := rfl
  have hkey : readKey (name.toList ++ ' ' :: '=' :: ' ' :: after)
      = some (⟨[], name⟩, '=' :: ' ' :: after) := by
    rw [readKey_bare h, hskip]
    · rintro c ⟨⟩
      decide
    · rw [hskip]
      rintro c ⟨⟩
      decide
  have hvalue : skipBlanks (' ' :: after) = after := by
    change skipBlanks after = after
    exact ((Setting.begins_text hsetting).append _).skipBlanks
  have hpair : readPair (readValue maxDepth) (name.toList ++ ' ' :: '=' :: ' ' :: after)
      = some ((⟨[], name⟩, setting.value), '\n' :: rest) := by
    have hread : readValue maxDepth after = some (setting.value, '\n' :: rest) :=
      readValue_text hsetting 78 rest
    rw [readPair, hkey]
    simp only [hvalue, hread]
    rfl
  obtain ⟨c, s, hname, hc⟩ := h.exists_cons
  rw [hline]
  unfold readStatement
  split
  · rename_i heq
    rw [hname] at heq
    cases (List.cons.inj heq).1
    cases hc
  · rename_i heq
    rw [hname] at heq
    cases (List.cons.inj heq).1
    cases hc
  · rw [hpair]
    rfl

/-! ## Sections -/

/-- A statement at the end of its line, perhaps with blank lines before it. -/
theorem readStatements_cons {t : List Char} {statement : Statement} (hskip : skipTrivia false s = t)
    (ht : Begins t) (hread : readStatement t = some (statement, '\n' :: rest))
    (hlen : rest.length < s.length) :
    readStatements s = (readStatements rest).map (statement :: ·) := by
  have hbreak : readLineBreak? ('\n' :: rest) = some rest := rfl
  obtain ⟨c, more, rfl, -⟩ := ht
  rw [readStatements, hskip]
  simp only [hread, hbreak, if_pos hlen]

namespace Section

/-- What it means that a section is read back: its names need no quotes, no two of its settings have
the same one, and its numbers are in range. -/
structure Readable (sect : Section) : Prop where
  name : IsBare sect.name
  settings : ∀ p ∈ sect.settings, IsBare p.1 ∧ p.2.InRange
  nodup : (sect.settings.map Prod.fst).Nodup

/-- The statement that a setting is written for. -/
def pair (p : String × Setting) : Statement := .pair ⟨[], p.1⟩ p.2.value

/-- The statements that a section is written for. -/
def statements (sect : Section) : List Statement :=
  .table ⟨[], sect.name⟩ :: sect.settings.map pair

theorem begins_text (sect : Section) : Begins sect.text := ⟨'[', _, rfl, by decide⟩

end Section

/-- The lines of settings are read back. -/
theorem readStatements_lines {settings : List (String × Setting)}
    (h : ∀ p ∈ settings, IsBare p.1 ∧ p.2.InRange) (rest : List Char) :
    readStatements ((settings.flatMap fun p => Section.line p.1 p.2) ++ rest)
      = (readStatements rest).map (settings.map Section.pair ++ ·) := by
  induction settings with
  | nil => simp
  | cons p settings ih =>
    obtain ⟨hname, hrange⟩ := h p List.mem_cons_self
    set after := (settings.flatMap fun p => Section.line p.1 p.2) ++ rest with hafter
    have hbegins : Begins (Section.line p.1 p.2 ++ after) := by
      simp only [Section.line, List.append_assoc]
      exact hname.begins.append _
    have hlen : after.length < (Section.line p.1 p.2 ++ after).length := by
      simp only [Section.line, List.length_append, List.length_singleton]
      omega
    rw [List.flatMap_cons, List.append_assoc, ← hafter,
      readStatements_cons hbegins.skipTrivia hbegins (readStatement_line hname hrange _) hlen,
      ih fun q hq => h q (List.mem_cons_of_mem _ hq), Option.map_map]
    rfl

/-- A section is read back, perhaps with a blank line before it. -/
theorem readStatements_section {sect : Section} (h : sect.Readable) {rest : List Char}
    (hskip : skipTrivia false s = sect.text ++ rest)
    (hlen : (sect.text ++ rest).length ≤ s.length) :
    readStatements s = (readStatements rest).map (sect.statements ++ ·) := by
  set after := (sect.settings.flatMap fun p => Section.line p.1 p.2) ++ rest with hafter
  have htext : sect.text ++ rest = '[' :: (sect.name.toList ++ ']' :: '\n' :: after) := by
    simp only [Section.text, hafter, List.append_assoc, List.cons_append, List.nil_append]
  rw [htext] at hskip hlen
  have hbegins : Begins ('[' :: (sect.name.toList ++ ']' :: '\n' :: after)) :=
    ⟨'[', _, rfl, by decide⟩
  have hlen : after.length < s.length := by
    simp only [List.length_cons, List.length_append] at hlen
    omega
  rw [readStatements_cons hskip hbegins (readStatement_header h.name _) hlen, hafter,
    readStatements_lines h.settings, Option.map_map]
  rfl

/-- Sections with a blank line before each of them are read back. -/
theorem readStatements_blanks {sections : List Section} (h : ∀ s ∈ sections, s.Readable) :
    readStatements (sections.flatMap fun s => '\n' :: s.text)
      = some (sections.flatMap Section.statements) := by
  induction sections with
  | nil =>
    rw [List.flatMap_nil, readStatements]
    rfl
  | cons sect sections ih =>
    have hskip : skipTrivia false ('\n' :: (sect.text ++ sections.flatMap fun s => '\n' :: s.text))
        = sect.text ++ sections.flatMap fun s => '\n' :: s.text := by
      rw [skipTrivia_line]
      exact (sect.begins_text.append _).skipTrivia
    rw [List.flatMap_cons, List.cons_append,
      readStatements_section (h sect List.mem_cons_self) hskip (by simp),
      ih fun s hs => h s (List.mem_cons_of_mem _ hs)]
    rfl

/-- A blank line stands before every section but the first. -/
theorem write_cons (sect : Section) (sections : List Section) :
    write (sect :: sections) = sect.text ++ sections.flatMap fun s => '\n' :: s.text := by
  induction sections generalizing sect with
  | nil => simp [write]
  | cons t sections ih =>
    have h := ih t
    unfold write at h ⊢
    rw [List.map_cons, List.map_cons, List.intercalate_cons_cons, ← List.map_cons, h]
    simp

/-- Everything that is written is read back. -/
theorem readStatements_write {sections : List Section} (h : ∀ s ∈ sections, s.Readable) :
    readStatements (write sections) = some (sections.flatMap Section.statements) := by
  cases sections with
  | nil => exact readStatements_blanks h
  | cons sect sections =>
    rw [write_cons, readStatements_section (h sect List.mem_cons_self)
      (sect.begins_text.append _).skipTrivia (le_refl _),
      readStatements_blanks fun s hs => h s (List.mem_cons_of_mem _ hs)]
    rfl

end Toml

end MarkupGate
