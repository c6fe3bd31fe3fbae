import Std.Data.HashSet
import MarkupGate.Regex.Program
import MarkupGate.Text.Offset

/-!
# Matching

A pattern is searched for by running its program over the text once, with a thread for every way in
which a match may still come about. The threads are kept in order of preference, and a thread that
arrives where a better one has been at the same position is dropped, so there are never more threads
than instructions.

* At each position a new thread begins behind all others, as long as there is no match.
* A thread that accepts drops all threads behind it; those before it run on and may still find a
  match that is preferred.
* Matches are found from left to right without overlap, and an empty match right behind another
  match is no match of its own.
-/

namespace MarkupGate

namespace Regex

/-! ## Positions -/

/-- A position in a text: what lies before it, how far it is from the start in bytes, and the rest
of the text. -/
structure Position where
  /-- the character before the position -/
  before? : Option Char
  /-- the number of bytes before it -/
  offset : Nat
  /-- the text behind it -/
  rest : List Char

namespace Position

/-- The start of a text. -/
def start (s : List Char) : Position := ⟨none, 0, s⟩

/-- Whether a word character of ASCII or of all scripts stands before the position. -/
def wordBefore (p : Position) (ascii : Bool) : Bool :=
  p.before?.any fun c => isWordChar c && (!ascii || c.toNat < 0x80)

/-- Whether a word character of ASCII or of all scripts stands behind the position. -/
def wordBehind (p : Position) (ascii : Bool) : Bool :=
  p.rest.head?.any fun c => isWordChar c && (!ascii || c.toNat < 0x80)

/-- Whether a condition holds at the position. -/
def holds (p : Position) : Assertion → Bool
  | .textStart => p.before?.isNone
  | .textEnd => p.rest.isEmpty
  | .lineStart => p.before?.all (· = '\n')
  | .lineEnd => p.rest.head?.all (· = '\n')
  | .breakStart =>
    p.before?.all fun c => c = '\n' || (c = '\r' && p.rest.head? ≠ some '\n')
  | .breakEnd =>
    p.rest.head?.all fun c => c = '\r' || (c = '\n' && p.before? ≠ some '\r')
  | .wordBoundary ascii => p.wordBefore ascii != p.wordBehind ascii
  | .noWordBoundary ascii => p.wordBefore ascii == p.wordBehind ascii
  | .wordStart ascii => !p.wordBefore ascii && p.wordBehind ascii
  | .wordEnd ascii => p.wordBefore ascii && !p.wordBehind ascii
  | .noWordBefore ascii => !p.wordBefore ascii
  | .noWordBehind ascii => !p.wordBehind ascii

end Position

/-! ## Threads -/

/-- A match in the making. -/
structure Thread where
  /-- where it began -/
  start : Position
  /-- the instruction to go on with -/
  next : Nat

/-- The threads at one position. -/
structure Front where
  /-- the instructions that some thread has come to -/
  seen : Std.HashSet Nat
  /-- the threads that wait for a character, the least preferred first -/
  waiting : List Thread
  /-- where the thread began that has accepted -/
  accepted? : Option Position

namespace Front

/-- Before any thread. -/
def empty : Front := ⟨∅, [], none⟩

/-- Follows a thread, from the instructions that it still has to try, to where it waits for
characters. Every instruction is entered once, and entering it adds at most two to those to try, so
twice the size of the program and two more steps are enough. -/
def follow (program : Program) (p start : Position) : Nat → List Nat → Front → Front
  | 0, _, f => f
  | _, [], f => f
  | steps + 1, i :: rest, f =>
    if f.seen.contains i then follow program p start steps rest f
    else
      let ⟨seen, waiting, accepted?⟩ := f
      let seen := seen.insert i
      match (program[i]? : Option Instr) with
      | some (.char _ _) =>
        follow program p start steps rest ⟨seen, ⟨start, i⟩ :: waiting, accepted?⟩
      | some (.assert a next) =>
        let rest := if p.holds a then next :: rest else rest
        follow program p start steps rest ⟨seen, waiting, accepted?⟩
      | some (.jump next) => follow program p start steps (next :: rest) ⟨seen, waiting, accepted?⟩
      | some (.split preferred other) =>
        follow program p start steps (preferred :: other :: rest) ⟨seen, waiting, accepted?⟩
      | some .accept => ⟨seen, waiting, some start⟩
      | none => follow program p start steps rest ⟨seen, waiting, accepted?⟩

/-- Follows some threads in order of preference, up to one that accepts. -/
def followAll (program : Program) (p : Position) : List Thread → Front → Front
  | [], f => f
  | t :: ts, f =>
    let f := follow program p t.start (2 * program.size + 2) [t.next] f
    if f.accepted?.isSome then f else followAll program p ts f

/-- The threads that go on behind a character, in order of preference. -/
def step (program : Program) (c : Char) (f : Front) : List Thread :=
  f.waiting.foldl (fun ts t =>
    match (program[t.next]? : Option Instr) with
    | some (.char set next) => if set.contains c then ⟨t.start, next⟩ :: ts else ts
    | _ => ts) []

end Front

/-! ## Searching a text -/

/-- A part of a text that a pattern matches. -/
structure Match where
  /-- the byte offset where it starts -/
  start : Nat
  /-- the byte offset just past it -/
  stop : Nat
  /-- the part itself -/
  text : List Char
  deriving DecidableEq, Repr

namespace Match

/-- The match between two positions of a text. -/
def between (start stop : Position) : Match :=
  let inside := splitAtOffset? (stop.offset - start.offset) start.rest
  ⟨start.offset, stop.offset, (inside.map Prod.fst).getD []⟩

end Match

/-- Runs on from a position with the threads that go on there and the best match so far. -/
def run (program : Program) (before? : Option Char) (offset : Nat) (threads : List Thread)
    (found? : Option Match) (s : List Char) : Option Match :=
  let p : Position := ⟨before?, offset, s⟩
  let threads := if found?.isNone then threads ++ [⟨p, 0⟩] else threads
  let front := Front.followAll program p threads Front.empty
  let found? := (front.accepted?.map (Match.between · p)).or found?
  match s with
  | [] => found?
  | c :: cs =>
    if front.waiting.isEmpty && found?.isSome then found?
    else run program (some c) (offset + c.utf8Size) (front.step program c) found? cs

/-- The first match that begins at a position or behind it. -/
def firstMatch? (program : Program) (p : Position) : Option Match :=
  run program p.before? p.offset [] none p.rest

/-- The matches from a position on that begin at `skipTo` or later and, where they are empty, not
at `lastStop?`. -/
def searchFrom (program : Program) (before? : Option Char) (offset skipTo : Nat)
    (lastStop? : Option Nat) (s : List Char) : List Match :=
  let goOn (skipTo : Nat) (lastStop? : Option Nat) : List Match :=
    match s with
    | [] => []
    | c :: cs => searchFrom program (some c) (offset + c.utf8Size) skipTo lastStop? cs
  if offset < skipTo then goOn skipTo lastStop?
  else
    match firstMatch? program ⟨before?, offset, s⟩ with
    | none => []
    | some m =>
      if m.start = m.stop && lastStop? = some m.start then goOn skipTo lastStop?
      else m :: goOn m.stop (some m.stop)

/-- The matches in a text from left to right, none of which overlaps another. -/
def findAll (r : Regex) (s : List Char) : List Match :=
  searchFrom r.program none 0 0 none s

/-- Whether a pattern matches somewhere in a text. -/
def occursIn (r : Regex) (s : List Char) : Bool :=
  (firstMatch? r.program (Position.start s)).isSome

end Regex

end MarkupGate
