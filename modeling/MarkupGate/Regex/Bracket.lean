import MarkupGate.Regex.Escape

/-!
# Bracketed classes in search patterns

The classes of characters in brackets: characters, ranges, escapes and named classes side by side,
classes inside classes, negation, and the operators for what two operands share, what only the first
has, and what exactly one of them has. All operators bind alike, from the left, and less than
standing side by side.

A class that ignores case is closed under case when it ends, before it is negated; so are both
operands of an operator, and a named class where it stands. The reader keeps the classes that are
open on a stack, and takes at least one character at a time.
-/

namespace MarkupGate

namespace Regex

/-! ## Named classes -/

/-- The named classes of ASCII characters. -/
def asciiClass? (name : String) : Option CharSet :=
  match name with
  | "alnum" => some .asciiAlphanumeric
  | "alpha" => some (.union (.range 'A' 'Z') (.range 'a' 'z'))
  | "ascii" => some (.range '\x00' '\x7f')
  | "blank" => some (.ofChars "\t ")
  | "cntrl" => some (.union (.range '\x00' '\x1f') (.single '\x7f'))
  | "digit" => some .asciiDigit
  | "graph" => some (.range '!' '~')
  | "lower" => some (.range 'a' 'z')
  | "print" => some (.range ' ' '~')
  | "punct" =>
    some (.unions [.range '!' '/', .range ':' '@', .range '[' '\x60', .range '\x7b' '~'])
  | "space" => some .asciiBlank
  | "upper" => some .capital
  | "word" => some .asciiWord
  | "xdigit" => some (.unions [.asciiDigit, .range 'A' 'F', .range 'a' 'f'])
  | _ => none

/-- Reads the name of a class, and whether it is negated, behind the opening bracket. -/
def readAsciiClass (s : List Char) : Option (CharSet × Bool × List Char) :=
  match s with
  | ':' :: s =>
    let (negated, s) :=
      match s with
      | '^' :: s => (true, s)
      | s => (false, s)
    match s.dropWhile (· ≠ ':') with
    | ':' :: ']' :: rest =>
      (asciiClass? (String.ofList (s.takeWhile (· ≠ ':')))).map fun set => (set, negated, rest)
    | _ => none
  | _ => none

/-! ## Open classes -/

/-- How the operands of a class are combined. -/
inductive SetOperator where
  | intersection
  | difference
  | symmetricDifference

namespace SetOperator

/-- The combination of two sets. -/
def apply : SetOperator → CharSet → CharSet → CharSet
  | intersection, a, b => .inter a b
  | difference, a, b => .diff a b
  | symmetricDifference, a, b => .symmDiff a b

/-- The operator that comes next inside a class. -/
def read : List Char → Option (SetOperator × List Char)
  | '&' :: '&' :: rest => some (.intersection, rest)
  | '-' :: '-' :: rest => some (.difference, rest)
  | '~' :: '~' :: rest => some (.symmetricDifference, rest)
  | _ => none

end SetOperator

/-- A part of a class: its members, and how deeply classes and operators are nested in it. -/
structure ClassPart where
  set : CharSet
  depth : Nat

/-- A class that is still open. -/
structure OpenClass where
  /-- whether the class is negated -/
  negated : Bool
  /-- the operand before the current one and the operator behind it -/
  left? : Option (ClassPart × SetOperator)
  /-- the parts of the current operand, last first -/
  parts : List ClassPart

namespace OpenClass

/-- The class with one more part. -/
def add (k : OpenClass) (set : CharSet) (depth : Nat) : OpenClass :=
  { k with parts := ⟨set, depth⟩ :: k.parts }

/-- The current operand. -/
def right (k : OpenClass) : ClassPart :=
  let depth := (k.parts.map ClassPart.depth).foldl max 0
  ⟨.unions (k.parts.reverse.map ClassPart.set), if k.parts.length < 2 then depth else depth + 1⟩

/-- What the operands so far make. -/
def whole (f : Flags) (k : OpenClass) : ClassPart :=
  match k.left? with
  | none => k.right
  | some (left, op) =>
    ⟨op.apply (f.fold left.set) (f.fold k.right.set), max left.depth k.right.depth + 1⟩

/-- Begins the operand behind an operator. -/
def combine (f : Flags) (k : OpenClass) (op : SetOperator) : OpenClass :=
  { k with left? := some (k.whole f, op), parts := [] }

/-- The closed class. -/
def close (f : Flags) (k : OpenClass) : Option ClassPart :=
  let part := k.whole f
  (f.closed? k.negated part.set).map fun set => ⟨set, part.depth + 1⟩

/-- Reads the head of a class whose opening bracket is already behind: a negation, and then dashes
and a closing bracket that are members because nothing stands before them. -/
def readHead (f : Flags) (s : List Char) : OpenClass × List Char :=
  let (negated, s) :=
    match f.skip s with
    | '^' :: s => (true, s)
    | s => (false, s)
  let (dashes, s) := f.readRun (· = '-') s.length false s
  let k : OpenClass := ⟨negated, none, dashes.map fun c => ⟨.single c, 0⟩⟩
  match dashes, s with
  | [], ']' :: rest => (k.add (.single ']') 0, rest)
  | _, rest => (k, rest)

end OpenClass

/-! ## Members -/

/-- Reads one character or class of an escape inside a bracketed class. -/
def readMember (f : Flags) : List Char → Option (Escape × List Char)
  | [] => none
  | '\\' :: cs =>
    match readEscape f cs with
    | some (.assertion _, _) => none
    | e => e
  | c :: cs => some (.char c, cs)

/-- The character that comes next, where a verbose pattern is read up to the first `#` only. -/
def Flags.peek? (f : Flags) (s : List Char) : Option Char :=
  if f.verbose then
    match s.dropWhile isBlankChar with
    | '#' :: rest => (rest.dropWhile isBlankChar).head?
    | s => s.head?
  else s.head?

/-- Reads a member of a class, or a range of two. -/
def readMembers (f : Flags) (s : List Char) : Option (CharSet × List Char) := do
  let (first, rest) ← readMember f s
  let alone : CharSet :=
    match first with
    | .set set => set
    | .char c => .single c
    | .assertion _ => .empty
  let rest := f.skip rest
  match rest with
  | '-' :: behind =>
    if f.peek? behind = some ']' || f.peek? behind = some '-' then some (alone, rest)
    else
      let (last, rest) ← readMember f (f.skip behind)
      match first, last with
      | .char a, .char b => if a ≤ b then some (.range a b, rest) else none
      | _, _ => none
  | _ => some (alone, rest)

/-! ## Reading -/

/-- A reader inside a class: the innermost open class, and those around it. -/
structure ClassReader where
  /-- the innermost open class -/
  current : OpenClass
  /-- the classes around it, innermost first -/
  outer : List OpenClass

/-- Reads on inside a class, up to the bracket that closes the outermost one. Each step takes a
character, so as many steps as there are characters are enough. -/
def readClassFrom (f : Flags) : Nat → ClassReader → List Char → Option (ClassPart × List Char)
  | 0, _, _ => none
  | steps + 1, st, s =>
    let add (set : CharSet) (depth : Nat) (rest : List Char) : Option (ClassPart × List Char) :=
      readClassFrom f steps { st with current := st.current.add set depth } rest
    match f.skip s with
    | [] => none
    | ']' :: rest => do
      let part ← st.current.close f
      match st.outer with
      | [] => some (part, rest)
      | k :: outer => readClassFrom f steps ⟨k.add part.set part.depth, outer⟩ rest
    | '[' :: rest =>
      match readAsciiClass rest with
      | some (set, negated, rest) => do add (← f.closed? negated set) 0 rest
      | none =>
        let (k, rest) := OpenClass.readHead f rest
        readClassFrom f steps ⟨k, st.current :: st.outer⟩ rest
    | s =>
      match SetOperator.read s with
      | some (op, rest) =>
        readClassFrom f steps { st with current := st.current.combine f op } rest
      | none => do
        let (set, rest) ← readMembers f s
        if f.ascii && !set.isAscii then none else add set 0 rest

/-- Reads a class whose opening bracket is already behind. -/
def readClass (f : Flags) (s : List Char) : Option (ClassPart × List Char) :=
  let (k, rest) := OpenClass.readHead f s
  readClassFrom f (s.length + 1) ⟨k, []⟩ rest

end Regex

end MarkupGate
