import MarkupGate.Regex.Bracket
import MarkupGate.Regex.Footprint
import MarkupGate.Text.Numeric

/-!
# Reading search patterns

The notation in which patterns are configured: literal characters and escapes, bracketed classes,
groups with names and flags, alternatives, and greedy or lazy repetitions. `Regex.parse?` gives
nothing for a text that is no pattern: unbalanced groups or classes, a repetition of nothing,
reversed ranges or bounds, unknown escapes, flags or properties, look-around, back references, group
names used twice, patterns nested too deeply, and patterns too large to run.

The reader keeps the groups that are open on a stack and takes at least one character at a time.
With every item it notes how deeply that is nested: a group, a repetition, a class, a sequence of
several items and a choice of several alternatives are each one level above what they hold.
-/

namespace MarkupGate

namespace Regex

/-! ## Groups -/

/-- What an opening parenthesis begins. -/
inductive GroupHead where
  /-- a numbered group, named or not -/
  | numbered (name? : Option (List Char))
  /-- a group that only holds together, with its flags -/
  | plain (flags : Flags)
  /-- a change of flags for the rest of the group around it -/
  | directive (flags : Flags)

/-- Whether a text is the name of a group. -/
def isGroupName : List Char → Bool
  | [] => false
  | c :: cs =>
    (c = '_' || isAlphabetic c)
      && cs.all fun c => isLetterOrNumber c || c = '_' || c = '.' || c = '[' || c = ']'

/-- Reads the name of a group up to its closing bracket. -/
def readGroupName (s : List Char) : Option (GroupHead × List Char) :=
  match s.dropWhile (· ≠ '>') with
  | [] => none
  | _ :: rest =>
    let name := s.takeWhile (· ≠ '>')
    if isGroupName name then some (.numbered (some name), rest) else none

/-- Reads the head of a group whose opening parenthesis is already behind. -/
def readGroupHead (f : Flags) (s : List Char) : Option (GroupHead × List Char) :=
  match f.skip s with
  | '?' :: '=' :: _ | '?' :: '!' :: _ | '?' :: '<' :: '=' :: _ | '?' :: '<' :: '!' :: _ => none
  | '?' :: 'P' :: '<' :: rest => readGroupName rest
  | '?' :: '<' :: rest => readGroupName rest
  | '?' :: rest =>
    match f.read [] rest with
    | some (flags, ')', rest) => some (.directive flags, rest)
    | some (flags, _, rest) => some (.plain flags, rest)
    | none => none
  | s => some (.numbered none, s)

/-! ## Repetitions -/

/-- Reads a number, with blanks around it. -/
def readCount (f : Flags) (s : List Char) : Option (Nat × List Char) :=
  let s := s.dropWhile isBlankChar
  let (digits, rest) := f.readRun Char.isDigit s.length false s
  if digits.isEmpty || bound32 ≤ decimalValue digits then none
  else some (decimalValue digits, rest.dropWhile isBlankChar)

/-- Reads the bounds of a repetition whose opening brace is already behind. -/
def readBounds (f : Flags) (s : List Char) : Option ((Nat × Option Nat) × List Char) := do
  let (least, rest) ← readCount f (f.skip s)
  match rest with
  | '}' :: rest => some ((least, some least), f.skip rest)
  | ',' :: rest =>
    match f.skip rest with
    | '}' :: rest => some ((least, none), f.skip rest)
    | rest =>
      let (most, rest) ← readCount f rest
      match rest with
      | '}' :: rest => if least ≤ most then some ((least, some most), f.skip rest) else none
      | _ => none
  | _ => none

/-! ## Open groups -/

/-- A part of a pattern and how deeply it is nested. -/
structure PatternPart where
  regex : Regex
  depth : Nat

/-- A group that is still open, or the whole pattern. -/
structure OpenGroup where
  /-- the number of the group, if it has one -/
  number? : Option Nat
  /-- the flags to go back to when the group ends -/
  outerFlags : Flags
  /-- the alternatives before the current one, last first -/
  alternatives : List PatternPart
  /-- the current alternative, last item first; a change of flags leaves an empty place -/
  items : List (Option PatternPart)

namespace OpenGroup

/-- One level above the deepest of several parts, or the level of a part that stands alone. -/
def depthOf (depths : List Nat) : Nat :=
  depths.foldl max 0 + (if depths.length < 2 then 0 else 1)

/-- The current alternative. -/
def sequence (g : OpenGroup) : PatternPart :=
  ⟨concat (g.items.reverse.filterMap fun item => item.map PatternPart.regex),
    depthOf (g.items.map fun item => (item.map PatternPart.depth).getD 0)⟩

/-- The alternatives of the group. -/
def body (g : OpenGroup) : PatternPart :=
  let parts := (g.sequence :: g.alternatives).reverse
  ⟨alternation (parts.map PatternPart.regex), depthOf (parts.map PatternPart.depth)⟩

/-- The pattern of the closed group. -/
def close (g : OpenGroup) : PatternPart :=
  let part := g.body
  match g.number? with
  | some n => ⟨.group n part.regex, part.depth + 1⟩
  | none => ⟨part.regex, part.depth + 1⟩

end OpenGroup

/-! ## Patterns -/

/-- A reader inside a pattern. -/
structure PatternReader where
  /-- the innermost open group -/
  current : OpenGroup
  /-- the groups around it, innermost first -/
  outer : List OpenGroup
  /-- the flags that hold here -/
  flags : Flags
  /-- how many numbered groups there are so far -/
  groups : Nat
  /-- the names of groups so far -/
  names : List (List Char)

namespace PatternReader

/-- Before the first character of a pattern. -/
def start : PatternReader := ⟨⟨none, {}, [], []⟩, [], {}, 0, []⟩

/-- Puts an item behind the current alternative. -/
def push (st : PatternReader) (item : Option PatternPart) : PatternReader :=
  { st with current := { st.current with items := item :: st.current.items } }

/-- Puts a part that holds no others behind the current alternative. -/
def add (st : PatternReader) (r : Regex) : PatternReader := st.push (some ⟨r, 0⟩)

/-- Repeats the last item; there has to be one. -/
def repeatLast (st : PatternReader) (least : Nat) (most : Option Nat) (s : List Char) :
    Option (PatternReader × List Char) :=
  let (marked, rest) :=
    match s with
    | '?' :: rest => (true, rest)
    | s => (false, s)
  match st.current.items with
  | some part :: items =>
    let r := repetition part.regex least most (marked == st.flags.lazy)
    let st := { st with current := { st.current with items := items } }
    some (st.push (some ⟨r, part.depth + 1⟩), rest)
  | _ => none

/-- The pattern of one character under the current flags. -/
def character (st : PatternReader) (c : Char) : Regex := ofSet (st.flags.fold (.single c))

/-- The pattern of a dot under the current flags. -/
def dot? (st : PatternReader) : Option Regex :=
  if st.flags.ascii then none
  else if st.flags.dotAll then some (.char .all)
  else some (.char (.exceptChars (if st.flags.carriageReturn then "\r\n" else "\n")))

/-- The condition of a line anchor under the current flags. -/
def anchor (st : PatternReader) (text line lineBreak : Assertion) : Regex :=
  .assert
    (if !st.flags.multiLine then text else if st.flags.carriageReturn then lineBreak else line)

/-- Opens a group. -/
def openGroup (st : PatternReader) (s : List Char) : Option (PatternReader × List Char) :=
  let enter (number? : Option Nat) (flags : Flags) : PatternReader :=
    { st with
      current := ⟨number?, st.flags, [], []⟩
      outer := st.current :: st.outer
      flags := flags }
  match readGroupHead st.flags s with
  | none => none
  | some (.directive flags, rest) => some ({ st.push none with flags := flags }, rest)
  | some (.plain flags, rest) => some (enter none flags, rest)
  | some (.numbered name?, rest) =>
    if name?.any st.names.contains then none
    else
      let number := st.groups + 1
      some ({ enter (some number) st.flags with
        groups := number
        names := name?.toList ++ st.names }, rest)

/-- Closes the innermost group; there has to be one. -/
def closeGroup (st : PatternReader) : Option PatternReader :=
  match st.outer with
  | [] => none
  | g :: outer =>
    let inner : PatternReader :=
      { st with current := g, outer := outer, flags := st.current.outerFlags }
    some (inner.push (some st.current.close))

/-- Takes one item, which begins with `c`. -/
def step (st : PatternReader) (c : Char) (cs : List Char) : Option (PatternReader × List Char) :=
  match c with
  | '(' => st.openGroup cs
  | ')' => st.closeGroup.map fun st => (st, cs)
  | '|' =>
    let g := st.current
    some ({ st with
      current := { g with alternatives := g.sequence :: g.alternatives, items := [] } }, cs)
  | '*' => st.repeatLast 0 none cs
  | '+' => st.repeatLast 1 none cs
  | '?' => st.repeatLast 0 (some 1) cs
  | '{' => do
    let ((least, most), rest) ← readBounds st.flags cs
    st.repeatLast least most rest
  | '[' => do
    let (part, rest) ← readClass st.flags cs
    some (st.push (some ⟨ofSet part.set, part.depth⟩), rest)
  | '\\' =>
    (readEscape st.flags cs).map fun (e, rest) =>
      match e with
      | .char c => (st.add (st.character c), rest)
      | .set set => (st.add (ofSet set), rest)
      | .assertion a => (st.add (.assert a), rest)
  | '.' => st.dot?.map fun r => (st.add r, cs)
  | '^' => some (st.add (st.anchor .textStart .lineStart .breakStart), cs)
  | '$' => some (st.add (st.anchor .textEnd .lineEnd .breakEnd), cs)
  | c => some (st.add (st.character c), cs)

/-- Reads on to the end of a pattern. Each step takes a character, so as many steps as there are
characters are enough. -/
def finish : Nat → PatternReader → List Char → Option PatternPart
  | steps, st, s =>
    match st.flags.skip s with
    | [] => if st.outer.isEmpty then some st.current.body else none
    | c :: cs =>
      match steps with
      | 0 => none
      | steps + 1 => do
        let (st, rest) ← st.step c cs
        st.finish steps rest

end PatternReader

/-- The deepest level that a part of a pattern may have. -/
def depthLimit : Nat := 250

/-- The pattern that a text spells. -/
def parse? (s : List Char) : Option Regex := do
  let part ← PatternReader.start.finish s.length s
  if part.depth ≤ depthLimit && part.regex.fits then some part.regex else none

end Regex

end MarkupGate
