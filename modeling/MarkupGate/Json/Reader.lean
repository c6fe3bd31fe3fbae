import MarkupGate.Json.Value
import MarkupGate.Text.Digits

/-!
# Reading JSON

A text is first cut into tokens, strings and numbers already decoded; the tokens then build the
value on a stack of the arrays and objects that are still open. Each step takes one token, so the
reader follows its input and needs no bound on the depth.

A reader of a whole text gives nothing on any fault: bad escapes, lone surrogates, control
characters in strings, leading zeros, or anything after the value.
-/

namespace MarkupGate

/-! ## Numbers -/

namespace JsonNumber

/-- The exponent of a number, with its letter and sign; absent at the end of the number. -/
def readExponent? : List Char → Option (Option Int)
  | [] => some none
  | e :: rest =>
    let (negative, digits) :=
      match rest with
      | '-' :: digits => (true, digits)
      | '+' :: digits => (false, digits)
      | digits => (false, digits)
    if (e = 'e' || e = 'E') && !digits.isEmpty && digits.all Char.isDigit then
      some (some (if negative then -(decimalValue digits : Int) else decimalValue digits))
    else none

/-- The fraction of a number, with its point; empty when there is none. -/
def readFraction? : List Char → Option (List Char × List Char)
  | '.' :: rest =>
    let digits := rest.takeWhile Char.isDigit
    if digits.isEmpty then none else some (digits, rest.dropWhile Char.isDigit)
  | rest => some ([], rest)

/-- The number that a whole text spells. -/
def ofText? (s : List Char) : Option JsonNumber :=
  let (negative, s) :=
    match s with
    | '-' :: rest => (true, rest)
    | s => (false, s)
  let whole := s.takeWhile Char.isDigit
  if whole.isEmpty || (whole.head? = some '0' && whole.length ≠ 1) then none
  else do
    let (fraction, rest) ← readFraction? (s.dropWhile Char.isDigit)
    let exponent ← readExponent? rest
    let mantissa := decimalValue (whole ++ fraction)
    if fraction.isEmpty && exponent.isNone && !(negative && mantissa = 0) then
      some (.integer (if negative then -(mantissa : Int) else mantissa))
    else some (.decimal negative mantissa (exponent.getD 0 - fraction.length))

end JsonNumber

namespace Json

/-! ## Strings -/

/-- The character behind a backslash that stands for another one. -/
def unescape? (c : Char) : Option Char :=
  match c with
  | '"' => some '"'
  | '\\' => some '\\'
  | '/' => some '/'
  | 'b' => some '\x08'
  | 'f' => some '\x0c'
  | 'n' => some '\n'
  | 'r' => some '\r'
  | 't' => some '\t'
  | _ => none

/-- The number of four hexadecimal digits. -/
def hexQuad? (a b c d : Char) : Option Nat := do
  let a ← hexValue? a
  let b ← hexValue? b
  let c ← hexValue? c
  let d ← hexValue? d
  some (((a * 16 + b) * 16 + c) * 16 + d)

/-- The character of two halves of a surrogate pair. -/
def joinSurrogates? (high low : Nat) : Option Char :=
  if 0xd800 ≤ high ∧ high < 0xdc00 ∧ 0xdc00 ≤ low ∧ low < 0xe000 then
    some (Char.ofNat (0x10000 + (high - 0xd800) * 0x400 + (low - 0xdc00)))
  else none

/-- Reads a string whose opening quote is already behind. -/
def readString : List Char → Option (List Char × List Char)
  | [] => none
  | '"' :: rest => some ([], rest)
  | '\\' :: 'u' :: a :: b :: c :: d :: rest =>
    match hexQuad? a b c d with
    | none => none
    | some n =>
      if n < 0xd800 ∨ 0xe000 ≤ n then
        (readString rest).map fun (text, rest) => (Char.ofNat n :: text, rest)
      else
        match rest with
        | '\\' :: 'u' :: e :: f :: g :: h :: rest =>
          match (hexQuad? e f g h).bind (joinSurrogates? n) with
          | none => none
          | some x => (readString rest).map fun (text, rest) => (x :: text, rest)
        | _ => none
  | '\\' :: e :: rest =>
    match unescape? e with
    | none => none
    | some x => (readString rest).map fun (text, rest) => (x :: text, rest)
  | c :: rest =>
    if c.toNat < 0x20 then none
    else (readString rest).map fun (text, rest) => (c :: text, rest)

theorem length_le_of_readString {s text rest : List Char}
    (h : readString s = some (text, rest)) : rest.length ≤ s.length := by
  fun_induction readString s generalizing text rest <;>
    simp_all [Option.map_eq_some_iff] <;> grind

/-! ## Tokens -/

/-- A token of a JSON text. -/
inductive Token where
  | openArray
  | closeArray
  | openObject
  | closeObject
  | comma
  | colon
  /-- a string, number, truth value or null -/
  | scalar (value : Json)

/-- Whitespace between tokens. -/
def isSpace (c : Char) : Bool := c = ' ' || c = '\t' || c = '\n' || c = '\r'

/-- The characters of numbers and of the words `true`, `false` and `null`. -/
def isWordChar (c : Char) : Bool := c.isAlphanum || c = '-' || c = '+' || c = '.'

/-- The value that a word spells. -/
def wordValue? (word : List Char) : Option Json :=
  if word = "null".toList then some .null
  else if word = "true".toList then some (.bool true)
  else if word = "false".toList then some (.bool false)
  else (JsonNumber.ofText? word).map .number

/-- The token that is a single character. -/
def punctuation? (c : Char) : Option Token :=
  match c with
  | '[' => some .openArray
  | ']' => some .closeArray
  | '{' => some .openObject
  | '}' => some .closeObject
  | ',' => some .comma
  | ':' => some .colon
  | _ => none

/-- Takes the token that begins with `c`. -/
def readToken (c : Char) (cs : List Char) : Option (Token × List Char) :=
  match punctuation? c with
  | some t => some (t, cs)
  | none =>
    if c = '"' then
      (readString cs).map fun (text, rest) => (.scalar (.string (String.ofList text)), rest)
    else if isWordChar c then
      (wordValue? (c :: cs.takeWhile isWordChar)).map fun value =>
        (.scalar value, cs.dropWhile isWordChar)
    else none

theorem length_le_of_readToken {c : Char} {cs rest : List Char} {t : Token}
    (h : readToken c cs = some (t, rest)) : rest.length ≤ cs.length := by
  rw [readToken] at h
  split at h
  · cases h; exact Nat.le_refl _
  · split at h
    · obtain ⟨⟨text, r⟩, hr, heq⟩ := Option.map_eq_some_iff.1 h
      cases heq
      exact length_le_of_readString hr
    · split at h
      · obtain ⟨v, -, heq⟩ := Option.map_eq_some_iff.1 h
        cases heq
        exact (List.dropWhile_sublist _).length_le
      · simp at h

/-- The tokens of a text. -/
def readTokens : List Char → Option (List Token)
  | [] => some []
  | c :: cs =>
    if isSpace c then readTokens cs
    else
      match h : readToken c cs with
      | none => none
      | some (t, rest) =>
        have := length_le_of_readToken h
        (readTokens rest).map (t :: ·)
termination_by s => s.length

/-! ## Building values -/

/-- An array or object around the current value. -/
inductive Frame where
  /-- an array with the items before the current one, last first -/
  | array (before : List Json)
  /-- an object with the members before the current one, last first, and the name of that one -/
  | object (before : List (String × Json)) (name : String)

/-- A reader between two tokens; `frames` is what is open there, innermost first. -/
inductive Reading where
  /-- a value comes next -/
  | value (frames : List Frame)
  /-- an array was just opened: its first item or its end comes next -/
  | item (frames : List Frame)
  /-- the name of a member comes next, or the end of an object that was just opened -/
  | name (opened : Bool) (before : List (String × Json)) (frames : List Frame)
  /-- the colon behind a name comes next -/
  | colon (before : List (String × Json)) (key : String) (frames : List Frame)
  /-- a value is complete -/
  | complete (value : Json) (frames : List Frame)

namespace Reading

/-- Begins a value. -/
def enter (frames : List Frame) : Token → Option Reading
  | .scalar v => some (.complete v frames)
  | .openArray => some (.item (.array [] :: frames))
  | .openObject => some (.name true [] frames)
  | _ => none

/-- Goes on behind a complete value. -/
def leave (v : Json) : List Frame → Token → Option Reading
  | .array before :: frames, .comma => some (.value (.array (v :: before) :: frames))
  | .array before :: frames, .closeArray =>
    some (.complete (.array (v :: before).reverse) frames)
  | .object before key :: frames, .comma => some (.name false ((key, v) :: before) frames)
  | .object before key :: frames, .closeObject =>
    some (.complete (.object ((key, v) :: before).reverse) frames)
  | _, _ => none

/-- Takes one token. -/
def step : Reading → Token → Option Reading
  | .value frames, t => enter frames t
  | .item (.array [] :: frames), .closeArray => some (.complete (.array []) frames)
  | .item frames, t => enter frames t
  | .name true [] frames, .closeObject => some (.complete (.object []) frames)
  | .name _ before frames, .scalar (.string key) => some (.colon before key frames)
  | .colon before key frames, .colon => some (.value (.object before key :: frames))
  | .complete v frames, t => leave v frames t
  | _, _ => none

/-- The value of a text that ends here. -/
def result? : Reading → Option Json
  | .complete v [] => some v
  | _ => none

end Reading

/-- The value that a list of tokens spells. -/
def ofTokens? (tokens : List Token) : Option Json :=
  (tokens.foldlM Reading.step (.value [])).bind Reading.result?

/-- The value that a text spells. -/
def read? (s : List Char) : Option Json := (readTokens s).bind ofTokens?

end Json

end MarkupGate
