import MarkupGate.Regex.Basic

/-!
# Search programs

A pattern as a list of numbered instructions. Each instruction names the ones that come next, and of
two ways to go on the first is preferred. The instructions of a part stand side by side and begin
with the one where the part is entered, so a part needs to know only where it stands and where to go
on behind it.

A greedy repetition prefers another round to going on, a lazy one the reverse. A body that can match
the empty text is repeated as "one or more rounds, or nothing", which leaves the order of preference
of the body untouched.
-/

namespace MarkupGate

/-- A step of a search. -/
inductive Instr where
  /-- takes a character of a set -/
  | char (set : CharSet) (next : Nat)
  /-- goes on where a condition holds -/
  | assert (a : Assertion) (next : Nat)
  /-- goes on elsewhere -/
  | jump (next : Nat)
  /-- goes on in one place or, if that leads nowhere, in another -/
  | split (preferred other : Nat)
  /-- the end of a match -/
  | accept
  deriving DecidableEq, Repr

/-- The instructions of a pattern; the first one is where a match begins. -/
abbrev Program := Array Instr

namespace Regex

/-- The number of instructions of a pattern. -/
def codeSize : Regex → Nat
  | .empty | .char _ | .assert _ => 1
  | .literal text => max text.length 1
  | .group _ body => body.codeSize
  | .seq first rest => first.codeSize + rest.codeSize
  | .alt preferred other => 1 + preferred.codeSize + other.codeSize
  | .repeated body least most _ =>
    let n := body.codeSize
    match least, most with
    | 0, none => if body.consumes then 1 + n else 2 + n
    | least, none => least * n + 1
    | least, some most =>
      if most ≤ least then max (least * n) 1 else least * n + (most - least) * (1 + n)

/-- A choice between another round of a repetition and what comes behind it. -/
def choice (greedy : Bool) (round behind : Nat) : Instr :=
  if greedy then .split round behind else .split behind round

/-- Writes some copies of a part, one after another. -/
def emitCopies (emit : Nat → Nat → Program → Program) (size : Nat) :
    Nat → Nat → Nat → Program → Program
  | 0, _, _, p => p
  | 1, here, next, p => emit here next p
  | n + 1, here, next, p =>
    emitCopies emit size n (here + size) next (emit here (here + size) p)

/-- Writes some copies of a part, each of which can be skipped with all behind it. -/
def emitSkippable (emit : Nat → Nat → Program → Program) (size : Nat) (greedy : Bool) :
    Nat → Nat → Nat → Program → Program
  | 0, _, _, p => p
  | n + 1, here, next, p =>
    let behind := if n = 0 then next else here + 1 + size
    let p := emit (here + 1) behind (p.push (choice greedy (here + 1) next))
    emitSkippable emit size greedy n (here + 1 + size) next p

/-- Writes the instructions of a text. -/
def emitText (next : Nat) : List Char → Nat → Program → Program
  | [], _, p => p.push (.jump next)
  | [c], _, p => p.push (.char (.single c) next)
  | c :: cs, here, p => emitText next cs (here + 1) (p.push (.char (.single c) (here + 1)))

/-- Writes the instructions of a pattern that stands `here` and goes on at `next`. -/
def emit : Regex → Nat → Nat → Program → Program
  | .empty, _, next, p => p.push (.jump next)
  | .literal text, here, next, p => emitText next text here p
  | .char set, _, next, p => p.push (.char set next)
  | .assert a, _, next, p => p.push (.assert a next)
  | .group _ body, here, next, p => emit body here next p
  | .seq first rest, here, next, p =>
    let middle := here + first.codeSize
    emit rest middle next (emit first here middle p)
  | .alt preferred other, here, next, p =>
    let second := here + 1 + preferred.codeSize
    emit other second next (emit preferred (here + 1) next (p.push (.split (here + 1) second)))
  | .repeated body least most greedy, here, next, p =>
    let n := body.codeSize
    match least, most with
    | 0, none =>
      if body.consumes then emit body (here + 1) here (p.push (choice greedy (here + 1) next))
      else
        let again := here + 1 + n
        (emit body (here + 1) again (p.push (choice greedy (here + 1) next))).push
          (choice greedy (here + 1) next)
    | least, none =>
      let last := here + (least - 1) * n
      let again := last + n
      (emitCopies (emit body) n least here again p).push (choice greedy last next)
    | least, some most =>
      if most ≤ least then
        if least = 0 then p.push (.jump next) else emitCopies (emit body) n least here next p
      else
        let behind := here + least * n
        emitSkippable (emit body) n greedy (most - least) behind next
          (emitCopies (emit body) n least here behind p)

/-- The program of a pattern. -/
def program (r : Regex) : Program := (emit r 0 r.codeSize #[]).push .accept

end Regex

end MarkupGate
