import MarkupGate.Regex.Basic
import MarkupGate.Regex.Property
import MarkupGate.Text.Digits

/-!
# Escapes in search patterns

What a backslash begins: characters by name or number, the classes of digits, blanks and word
characters, properties, and positions. Letters and digits are escapes only where they mean
something; any other ASCII character stands for itself.

Under the flag for ASCII the classes have ASCII members only. A class that would have to match other
characters then, and a character of two digits that is not ASCII, are no escapes.
-/

namespace MarkupGate

namespace Regex

/-- What an escape stands for. -/
inductive Escape where
  | char (c : Char)
  | set (s : CharSet)
  | assertion (a : Assertion)

/-! ## Characters by number -/

/-- The value of a run of hexadecimal digits that is not empty. -/
def hexadecimal? (digits : List Char) : Option Nat :=
  if digits.isEmpty then none
  else digits.foldlM (fun n c => (hexValue? c).map (16 * n + ·)) 0

/-- The character of a code point, if it is one. -/
def charOfCode? (n : Nat) : Option Char :=
  if n < 0xd800 || (0xe000 ≤ n && n < 0x110000) then some (Char.ofNat n) else none

/-- Reads a code point in braces or of exactly `width` hexadecimal digits. -/
def readCode (f : Flags) (width : Nat) (s : List Char) : Option (Escape × List Char) :=
  let isHex (c : Char) : Bool := (hexValue? c).isSome
  match f.skip s with
  | '{' :: rest =>
    match f.readRun isHex rest.length false rest with
    | (digits, '}' :: rest) => do
      let c ← charOfCode? (← hexadecimal? digits)
      some (.char c, rest)
    | _ => none
  | s => do
    let (digits, rest) := f.readRun isHex width false s
    let c ← charOfCode? (← hexadecimal? digits)
    if digits.length < width || (f.ascii && width = 2 && 0x80 ≤ c.toNat) then none
    else some (.char c, rest)

/-! ## Classes -/

/-- A class under the flags, or all characters that are not in it. -/
def Flags.class? (f : Flags) (ascii unicode : CharSet) (negated : Bool) : Option CharSet :=
  if f.ascii then if negated then none else some ascii
  else some (if negated then unicode.compl else unicode)

/-! ## Positions -/

/-- Reads what follows the escape of a word boundary: a kind in braces, or nothing. -/
def readBoundary (f : Flags) (s : List Char) : Option (Escape × List Char) :=
  let isKindChar (c : Char) : Bool := c.isAlpha || c = '-'
  match s with
  | '{' :: cs =>
    match f.readRun isKindChar cs.length false cs with
    | ([], _) => some (.assertion (.wordBoundary f.ascii), s)
    | (kind, '}' :: rest) => do
      let a ← match String.ofList kind with
        | "start" => some (Assertion.wordStart f.ascii)
        | "end" => some (Assertion.wordEnd f.ascii)
        | "start-half" => some (Assertion.noWordBefore f.ascii)
        | "end-half" => some (Assertion.noWordBehind f.ascii)
        | _ => none
      some (.assertion a, rest)
    | _ => none
  | _ => some (.assertion (.wordBoundary f.ascii), s)

/-! ## All escapes -/

/-- Reads an escape whose backslash is already behind. -/
def readEscape (f : Flags) : List Char → Option (Escape × List Char)
  | [] => none
  | c :: cs =>
    let char (c : Char) : Option (Escape × List Char) := some (.char c, cs)
    let assertion (a : Assertion) : Option (Escape × List Char) := some (.assertion a, cs)
    let named (ascii unicode : CharSet) (negated : Bool) : Option (Escape × List Char) :=
      (f.class? ascii unicode negated).map fun set => (.set set, cs)
    match c with
    | 'x' => readCode f 2 cs
    | 'u' => readCode f 4 cs
    | 'U' => readCode f 8 cs
    | 'p' => (readProperty f false cs).map fun (set, rest) => (.set set, rest)
    | 'P' => (readProperty f true cs).map fun (set, rest) => (.set set, rest)
    | 'd' => named .asciiDigit .digit false
    | 'D' => named .asciiDigit .digit true
    | 's' => named .asciiBlank .blank false
    | 'S' => named .asciiBlank .blank true
    | 'w' => named .asciiWord .word false
    | 'W' => named .asciiWord .word true
    | 'a' => char '\x07'
    | 'f' => char '\x0c'
    | 't' => char '\t'
    | 'n' => char '\n'
    | 'r' => char '\r'
    | 'v' => char '\x0b'
    | 'A' => assertion .textStart
    | 'z' => assertion .textEnd
    | 'b' => readBoundary f cs
    | 'B' => assertion (.noWordBoundary f.ascii)
    | '<' => assertion (.wordStart f.ascii)
    | '>' => assertion (.wordEnd f.ascii)
    | c => if c.toNat < 0x80 && !c.isAlphanum then char c else none

end Regex

end MarkupGate
