import MarkupGate.Toml.Quoted
import MarkupGate.Toml.Scalar

/-!
# Reading configuration texts

`Toml.read?` reads a text as a table. The text is a sequence of statements, one a line: pairs of a
key and a value, and headers. Between them there may be blank lines and comments. Arrays may go
over several lines and hold comments; tables between braces stay on their line.

Arrays and tables between braces nest at most `maxDepth` deep, and a dotted key has at most as many
names. Every loop below goes on only with a text that has become shorter.
-/

namespace MarkupGate

namespace Toml

/-- How deep values nest, and how many names a key has at most. -/
def maxDepth : Nat := 79

/-! ## Blanks and comments -/

/-- Drops blanks. -/
def skipBlanks (s : List Char) : List Char := s.dropWhile isTabOrSpace

/-- Drops blanks, line breaks and comments; `comment` tells whether the text begins inside a
comment. -/
def skipTrivia (comment : Bool) : List Char → List Char
  | [] => []
  | '\r' :: '\n' :: s => skipTrivia false s
  | c :: s =>
    if c = '\n' then skipTrivia false s
    else if comment then if isPlainChar c then skipTrivia true s else c :: s
    else if isTabOrSpace c then skipTrivia false s
    else if c = '#' then skipTrivia true s
    else c :: s

/-- What follows the end of a line; before it there may be blanks and a comment. -/
def readLineBreak? (s : List Char) : Option (List Char) :=
  let rest :=
    match skipBlanks s with
    | '#' :: rest => rest.dropWhile isPlainChar
    | rest => rest
  match rest with
  | [] => some []
  | '\n' :: rest => some rest
  | '\r' :: '\n' :: rest => some rest
  | _ => none

/-! ## Keys -/

/-- The characters of names without quotes. -/
def isNameChar (c : Char) : Bool := c.isAlphanum || c = '-' || c = '_'

/-- Reads one name of a key. -/
def readName : List Char → Option (String × List Char)
  | '"' :: s => (readBasic s).map fun (name, rest) => (String.ofList name, rest)
  | '\'' :: s => (readLiteral s).map fun (name, rest) => (String.ofList name, rest)
  | s =>
    let (name, rest) := s.span isNameChar
    if name.isEmpty then none else some (String.ofList name, rest)

/-- Reads the names of a dotted key and the blanks around them. -/
def readNames (s : List Char) : Option (Key × List Char) :=
  match readName (skipBlanks s) with
  | none => none
  | some (name, rest) =>
    match skipBlanks rest with
    | '.' :: rest =>
      if rest.length < s.length then
        (readNames rest).map fun (key, rest) => (⟨name :: key.path, key.name⟩, rest)
      else none
    | rest => some (⟨[], name⟩, rest)
termination_by s.length

/-- Reads a dotted key and the blanks around it. -/
def readKey (s : List Char) : Option (Key × List Char) :=
  (readNames s).filter fun (key, _) => key.names.length ≤ maxDepth

/-! ## Values -/

/-- Reads what does not nest. -/
def readScalar (s : List Char) : Option (Toml × List Char) :=
  match s with
  | '"' :: _ | '\'' :: _ =>
    (readString s).map fun (text, rest) => (.string (String.ofList text), rest)
  | _ => readWord s

/-- Reads the items of an array up to its closing bracket, each with `read`. -/
def readItems (read : List Char → Option (Toml × List Char)) (s : List Char) :
    Option (List Toml × List Char) :=
  match skipTrivia false s with
  | ']' :: rest => some ([], rest)
  | s' =>
    match read s' with
    | none => none
    | some (item, rest) =>
      match skipTrivia false rest with
      | ']' :: rest => some ([item], rest)
      | ',' :: rest =>
        if rest.length < s.length then
          (readItems read rest).map fun (items, rest) => (item :: items, rest)
        else none
      | _ => none
termination_by s.length

/-- Reads a key and its value, the value with `read`. -/
def readPair (read : List Char → Option (Toml × List Char)) (s : List Char) :
    Option ((Key × Toml) × List Char) :=
  match readKey s with
  | some (key, '=' :: rest) => (read (skipBlanks rest)).map fun (v, rest) => ((key, v), rest)
  | _ => none

/-- Reads pairs up to a closing brace, their values with `read`. -/
def readPairs (read : List Char → Option (Toml × List Char)) (s : List Char) :
    Option (List (Key × Toml) × List Char) :=
  match readPair read s with
  | none => none
  | some (pair, rest) =>
    match skipBlanks rest with
    | '}' :: rest => some ([pair], rest)
    | ',' :: rest =>
      if rest.length < s.length then
        (readPairs read rest).map fun (pairs, rest) => (pair :: pairs, rest)
      else none
    | _ => none
termination_by s.length

/-- Reads a table between braces, of which the opening one is behind. -/
def readBraces (read : List Char → Option (Toml × List Char)) (s : List Char) :
    Option (Toml × List Char) :=
  match skipBlanks s with
  | '}' :: rest => some (.table .braces [], rest)
  | s =>
    (readPairs read s).bind fun (pairs, rest) =>
      (Table.ofPairs? pairs).map fun t => (.table .braces t, rest)

/-- Reads a value that nests at most `depth` deep. -/
def readValue : Nat → List Char → Option (Toml × List Char)
  | depth + 1, '[' :: s =>
    (readItems (readValue depth) s).map fun (items, rest) => (.array items, rest)
  | depth + 1, '{' :: s => readBraces (readValue depth) s
  | _, s => readScalar s

/-! ## Statements -/

/-- Reads a statement. -/
def readStatement : List Char → Option (Statement × List Char)
  | '[' :: '[' :: s =>
    match readKey s with
    | some (key, ']' :: ']' :: rest) => some (.tables key, rest)
    | _ => none
  | '[' :: s =>
    match readKey s with
    | some (key, ']' :: rest) => some (.table key, rest)
    | _ => none
  | s => (readPair (readValue maxDepth) s).map fun ((key, v), rest) => (.pair key v, rest)

/-- Reads all statements of a text. -/
def readStatements (s : List Char) : Option (List Statement) :=
  match skipTrivia false s with
  | [] => some []
  | s' =>
    match readStatement s' with
    | none => none
    | some (statement, rest) =>
      match readLineBreak? rest with
      | none => none
      | some rest =>
        if rest.length < s.length then (readStatements rest).map (statement :: ·) else none
termination_by s.length

/-- Drops a mark of byte order. -/
def dropMark : List Char → List Char
  | '\ufeff' :: s => s
  | s => s

/-- The table that a text describes. -/
def read? (s : List Char) : Option Table :=
  (readStatements (dropMark s)).bind Table.ofStatements?

end Toml

end MarkupGate
