import MarkupGate.Text.Ascii
import MarkupGate.Text.Digits

/-!
# Quoted strings

The strings of configuration texts. There are four forms: between double quotes a backslash stands
for what cannot be written directly, between single quotes every character stands for itself, and
both forms exist with tripled quotes, which may hold several lines.

A quote may stand in a text with tripled quotes as long as no three come together; at its end up to
two more quotes belong to the text. Right behind the opening quotes one line break is dropped. A
writer takes the first form that needs no backslash, see `StringForm.choose`.
-/

namespace MarkupGate

namespace Toml

/-- The characters that stand for themselves in strings and comments: a tab, and whatever is no
ASCII control character. -/
def isPlainChar (c : Char) : Bool := c = '\t' || (' ' ≤ c && c ≠ '\x7f')

/-- Blanks within a line. -/
def isTabOrSpace (c : Char) : Bool := c = ' ' || c = '\t'

/-- Drops blanks and line breaks. -/
def skipSpace : List Char → List Char
  | [] => []
  | '\r' :: '\n' :: s => skipSpace s
  | c :: s => if isTabOrSpace c || c = '\n' then skipSpace s else c :: s

theorem length_skipSpace_le (s : List Char) : (skipSpace s).length ≤ s.length := by
  fun_induction skipSpace s <;> simp_all <;> omega

/-! ## Reading -/

/-- The character of a code point. -/
def scalar? (n : Nat) : Option Char := if n.isValidChar then some (Char.ofNat n) else none

/-- The character of hexadecimal digits. -/
def hexScalar? (digits : List Char) : Option Char :=
  (digits.foldlM (fun n c => (hexValue? c).map (16 * n + ·)) 0).bind scalar?

/-- The character behind a backslash that stands for another one. -/
def unescape? (c : Char) : Option Char :=
  match c with
  | '"' => some '"'
  | '\\' => some '\\'
  | 'b' => some '\x08'
  | 't' => some '\t'
  | 'n' => some '\n'
  | 'f' => some '\x0c'
  | 'r' => some '\r'
  | _ => none

/-- Reads what stands behind a backslash: the character meant, and the rest. -/
def readEscape? : List Char → Option (Char × List Char)
  | 'u' :: a :: b :: c :: d :: s => (hexScalar? [a, b, c, d]).map (·, s)
  | 'U' :: a :: b :: c :: d :: e :: f :: g :: h :: s =>
    (hexScalar? [a, b, c, d, e, f, g, h]).map (·, s)
  | c :: s => (unescape? c).map (·, s)
  | [] => none

theorem length_lt_of_readEscape? {s rest : List Char} {c : Char}
    (h : readEscape? s = some (c, rest)) : rest.length < s.length := by
  unfold readEscape? at h
  split at h <;> simp only [Option.map_eq_some_iff, Prod.mk.injEq, reduceCtorEq] at h
  all_goals
    obtain ⟨_, -, -, rfl⟩ := h
    simp only [List.length_cons]
    omega

/-- Puts a character before what a reader found. -/
def prepend (c : Char) (found : Option (List Char × List Char)) : Option (List Char × List Char) :=
  found.map fun (text, rest) => (c :: text, rest)

/-- Reads a string on one line; its opening double quote is already behind. -/
def readBasic : List Char → Option (List Char × List Char)
  | [] => none
  | c :: s =>
    if c = '"' then some ([], s)
    else if c = '\\' then
      match h : readEscape? s with
      | none => none
      | some (x, rest) =>
        have := length_lt_of_readEscape? h
        prepend x (readBasic rest)
    else if isPlainChar c then prepend c (readBasic s)
    else none
termination_by s => s.length

/-- Reads a string on one line; its opening single quote is already behind. -/
def readLiteral : List Char → Option (List Char × List Char)
  | [] => none
  | c :: s =>
    if c = '\'' then some ([], s)
    else if isPlainChar c then prepend c (readLiteral s)
    else none

/-- The end of a text with tripled quotes: the quotes that still belong to the text, and the rest.
There is none where fewer than three quotes stand. -/
def readClosing? (quote : Char) (s : List Char) : Option (List Char × List Char) :=
  let n := (s.takeWhile fun c => c = quote).length
  if n < 3 then none else some (List.replicate (min n 5 - 3) quote, s.drop (min n 5))

/-- What follows a backslash at the end of a line: the next character that is no blank. -/
def readLineEnd? (s : List Char) : Option (List Char) :=
  match s.dropWhile isTabOrSpace with
  | '\n' :: rest => some (skipSpace rest)
  | '\r' :: '\n' :: rest => some (skipSpace rest)
  | _ => none

theorem length_le_of_readLineEnd? {s rest : List Char} (h : readLineEnd? s = some rest) :
    rest.length ≤ s.length := by
  have hs := (List.dropWhile_sublist (l := s) isTabOrSpace).length_le
  unfold readLineEnd? at h
  split at h <;> simp only [Option.some.injEq, reduceCtorEq] at h
  all_goals
    rename_i r hr
    rw [hr] at hs
    have := length_skipSpace_le r
    simp_all
    omega

/-- Reads a string with tripled double quotes; the opening ones are already behind. -/
def readMultiBasic (s : List Char) : Option (List Char × List Char) :=
  match readClosing? '"' s with
  | some found => some found
  | none =>
    match s with
    | [] => none
    | '\\' :: s =>
      match hl : readLineEnd? s with
      | some rest =>
        have := length_le_of_readLineEnd? hl
        readMultiBasic rest
      | none =>
        match he : readEscape? s with
        | none => none
        | some (x, rest) =>
          have := length_lt_of_readEscape? he
          prepend x (readMultiBasic rest)
    | '\r' :: '\n' :: s => prepend '\n' (readMultiBasic s)
    | c :: s => if isPlainChar c || c = '\n' then prepend c (readMultiBasic s) else none
termination_by s.length

/-- Reads a string with tripled single quotes; the opening ones are already behind. -/
def readMultiLiteral (s : List Char) : Option (List Char × List Char) :=
  match readClosing? '\'' s with
  | some found => some found
  | none =>
    match s with
    | [] => none
    | '\r' :: '\n' :: s => prepend '\n' (readMultiLiteral s)
    | c :: s => if isPlainChar c || c = '\n' then prepend c (readMultiLiteral s) else none

/-- Drops a line break at the beginning. -/
def dropLineBreak : List Char → List Char
  | '\n' :: s => s
  | '\r' :: '\n' :: s => s
  | s => s

/-- Reads a string in any of its forms. -/
def readString : List Char → Option (List Char × List Char)
  | '"' :: '"' :: '"' :: s => readMultiBasic (dropLineBreak s)
  | '\'' :: '\'' :: '\'' :: s => readMultiLiteral (dropLineBreak s)
  | '"' :: s => readBasic s
  | '\'' :: s => readLiteral s
  | _ => none

/-! ## Writing -/

/-- Whether a character can only be written with a backslash: control characters other than tab and
line feed. -/
def needsEscape (c : Char) : Bool := !isPlainChar c && c ≠ '\n'

/-- What is written for a character between double quotes on one line. -/
def escapeChar (c : Char) : List Char :=
  if c = '"' then ['\\', '"']
  else if c = '\\' then ['\\', '\\']
  else if c = '\x08' then ['\\', 'b']
  else if c = '\t' then ['\\', 't']
  else if c = '\n' then ['\\', 'n']
  else if c = '\x0c' then ['\\', 'f']
  else if c = '\r' then ['\\', 'r']
  else if needsEscape c then
    ['\\', 'u', '0', '0', hexDigit (c.toNat / 16), (hexDigit (c.toNat % 16)).toUpper]
  else [c]

/-- What is written for a text between tripled double quotes: line breaks as they are, and every
third quote of a run with a backslash. `quotes` tells how many quotes were just written. -/
def escapeLines (quotes : Nat) : List Char → List Char
  | [] => []
  | c :: s =>
    if c = '"' then
      if quotes = 2 then '\\' :: '"' :: escapeLines 0 s else '"' :: escapeLines (quotes + 1) s
    else if c = '\n' then '\n' :: escapeLines 0 s
    else escapeChar c ++ escapeLines 0 s

/-- The forms of strings. -/
inductive StringForm where
  | basic
  | literal
  | multiBasic
  | multiLiteral
  deriving DecidableEq, Repr

namespace StringForm

/-- The form in which a text is written: the first one that needs no backslash but for tabs, and if
there is none the form with double quotes, tripled where the text has several lines. -/
def choose (s : List Char) : StringForm :=
  let lines := s.contains '\n'
  let control := s.any needsEscape
  let direct := !control && !s.contains '\\'
  if direct && !s.contains '"' && !lines then .basic
  else if !control && !s.contains '\'' && !lines then .literal
  else if direct && !hasInfix ['"', '"', '"'] s then .multiBasic
  else if !control && !hasInfix ['\'', '\'', '\''] s then .multiLiteral
  else if lines then .multiBasic
  else .basic

/-- The quotes of a form. -/
def quotes : StringForm → List Char
  | .basic => ['"']
  | .literal => ['\'']
  | .multiBasic => ['"', '"', '"']
  | .multiLiteral => ['\'', '\'', '\'']

/-- What stands between the quotes for a text. -/
def body (s : List Char) : StringForm → List Char
  | .basic => s.flatMap escapeChar
  | .multiBasic => escapeLines 0 s
  | .literal | .multiLiteral => s

/-- Whether a line break stands behind the opening quotes: before every text of several lines. -/
def breaks (s : List Char) (form : StringForm) : Bool :=
  (form = .multiBasic || form = .multiLiteral) && s.contains '\n'

end StringForm

/-- A string with its quotes. -/
def quoted (s : List Char) : List Char :=
  let form := StringForm.choose s
  form.quotes ++ (if form.breaks s then ['\n'] else []) ++ form.body s ++ form.quotes

end Toml

end MarkupGate
