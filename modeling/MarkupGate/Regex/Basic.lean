import MarkupGate.Regex.CharSet

/-!
# Search patterns

The patterns that rules search texts with, as values: literal texts, characters, positions, groups,
sequences, ordered alternatives and counted repetitions. The order of the alternatives and whether a
repetition is greedy decide which of several matches at one position counts; see
`MarkupGate.Regex.Match`.

Sequences and alternatives lean to the right: `a`, `b` and `c` one after another are
`seq a (seq b c)`. The functions that build patterns keep them simple, and what they leave out
changes no match:

* `concat` joins literals that stand side by side and leaves out empty patterns;
* `alternation` makes one set of alternatives that are all characters, and reads a beginning that
  all alternatives share only once;
* `repetition` repeats a pattern that takes no character at most once.
-/

namespace MarkupGate

/-- A condition on a position between two characters. -/
inductive Assertion where
  | textStart
  | textEnd
  /-- at the start or behind a line feed -/
  | lineStart
  /-- at the end or before a line feed -/
  | lineEnd
  /-- at the start or behind a line break, which is a carriage return, a line feed or both -/
  | breakStart
  /-- at the end or before such a line break -/
  | breakEnd
  /-- a word character stands on one side only -/
  | wordBoundary (ascii : Bool)
  /-- a word character stands on both sides or on neither -/
  | noWordBoundary (ascii : Bool)
  /-- a word begins here -/
  | wordStart (ascii : Bool)
  /-- a word ends here -/
  | wordEnd (ascii : Bool)
  /-- no word character stands before -/
  | noWordBefore (ascii : Bool)
  /-- no word character stands behind -/
  | noWordBehind (ascii : Bool)
  deriving DecidableEq, Repr

/-- A search pattern. -/
inductive Regex where
  /-- matches the empty text -/
  | empty
  /-- matches a text -/
  | literal (text : List Char)
  /-- matches one character of a set -/
  | char (set : CharSet)
  /-- matches the empty text where a condition holds -/
  | assert (a : Assertion)
  /-- a pattern in numbered parentheses -/
  | group (number : Nat) (body : Regex)
  /-- one pattern after another -/
  | seq (first rest : Regex)
  /-- one pattern or, if that leads nowhere, another -/
  | alt (preferred other : Regex)
  /-- a pattern at least `least` times and at most `most` times, as often as possible if greedy and
  as seldom as possible otherwise -/
  | repeated (body : Regex) (least : Nat) (most : Option Nat) (greedy : Bool)
  deriving DecidableEq, Repr

namespace Regex

/-! ## Lengths -/

/-- The least number of characters of a match; nothing where a set without members takes part. -/
def minLength? : Regex → Option Nat
  | .empty | .assert _ => some 0
  | .literal text => some text.length
  | .char set => if set.ranges.isEmpty then none else some 1
  | .group _ body => body.minLength?
  | .seq first rest => do return (← first.minLength?) + (← rest.minLength?)
  | .alt preferred other => do return min (← preferred.minLength?) (← other.minLength?)
  | .repeated body least _ _ => body.minLength?.map (· * least)

/-- The greatest number of characters of a match; nothing if there is no bound, and nothing where a
set without members takes part. -/
def maxLength? : Regex → Option Nat
  | .empty | .assert _ => some 0
  | .literal text => some text.length
  | .char set => if set.ranges.isEmpty then none else some 1
  | .group _ body => body.maxLength?
  | .seq first rest => do return (← first.maxLength?) + (← rest.maxLength?)
  | .alt preferred other => do return max (← preferred.maxLength?) (← other.maxLength?)
  | .repeated body _ most _ => do return (← body.maxLength?) * (← most)

/-- Whether every match takes a character. -/
def consumes (r : Regex) : Bool := r.minLength?.any (0 < ·)

/-- Whether no match takes a character. -/
def isWidthless (r : Regex) : Bool := r.maxLength? = some 0

/-! ## Sequences -/

/-- One character of a set; a literal if the set has only one member. -/
def ofSet (set : CharSet) : Regex :=
  match set.single? with
  | some c => .literal [c]
  | none => .char set

/-- The pattern that matches nowhere. -/
def fail : Regex := .char .empty

/-- The parts of a sequence. -/
def items : Regex → List Regex
  | .empty => []
  | .seq first rest => first :: rest.items
  | r => [r]

/-- Joins the literals that stand side by side. -/
def joinLiterals : List Regex → List Regex
  | [] => []
  | r :: rs =>
    match r, joinLiterals rs with
    | .literal a, .literal b :: rest => .literal (a ++ b) :: rest
    | r, rest => r :: rest

/-- Some parts one after another, just as they are. -/
def seqs : List Regex → Regex
  | [] => .empty
  | [r] => r
  | r :: rs => .seq r (seqs rs)

/-- Patterns one after another. -/
def concat (rs : List Regex) : Regex := seqs (joinLiterals (rs.flatMap items))

/-! ## Alternatives -/

/-- The alternatives of a pattern, the preferred ones first. -/
def branches : Regex → List Regex
  | .alt preferred other => preferred :: other.branches
  | r => [r]

/-- Some alternatives, just as they are. -/
def alts : List Regex → Regex
  | [] => fail
  | [r] => r
  | r :: rs => .alt r (alts rs)

/-- The only character of a literal, if it has just one. -/
def literalChar? : Regex → Option Char
  | .literal [c] => some c
  | _ => none

/-- The set of a pattern for one character. -/
def charSet? : Regex → Option CharSet
  | .char set => some set
  | _ => none

/-- The parts of a sequence of two or more. -/
def sequence? : Regex → Option (List Regex)
  | .seq first rest => some (first :: rest.items)
  | _ => none

/-- What two lists begin with alike. -/
def commonStart : List Regex → List Regex → List Regex
  | a :: as, b :: bs => if a = b then a :: commonStart as bs else []
  | _, _ => []

/-- Alternatives that are more than one, with those for one character made into one set. -/
def joinChars (rs : List Regex) : Regex :=
  match rs.mapM literalChar? with
  | some cs => ofSet (.ofList cs)
  | none =>
    match rs.mapM charSet? with
    | some sets => ofSet (.unions sets)
    | none => alts rs

/-- Alternatives that are more than one, with a beginning that they share read once. -/
def shareStart (rs : List Regex) : Regex :=
  match rs.mapM sequence? with
  | some (s :: ss) =>
    let start := ss.foldl commonStart s
    if start.isEmpty then joinChars rs
    else
      let ends := (s :: ss).map fun parts => seqs (parts.drop start.length)
      concat (start ++ [joinChars (ends.flatMap branches)])
  | _ => joinChars rs

/-- Alternatives, the preferred ones first. -/
def alternation (rs : List Regex) : Regex :=
  match rs.flatMap branches with
  | [] => fail
  | [r] => r
  | rs => shareStart rs

/-! ## Repetitions -/

/-- A pattern repeated. -/
def repetition (body : Regex) (least : Nat) (most : Option Nat) (greedy : Bool) : Regex :=
  let (least, most) :=
    if body.isWidthless then (min least 1, some (min (most.getD 1) 1)) else (least, most)
  match least, most with
  | 0, some 0 => .empty
  | 1, some 1 => body
  | least, most => .repeated body least most greedy

/-! ## Common patterns -/

/-- The characters of a string. -/
def text (s : String) : Regex := .literal s.toList

/-- The characters of a string in any case. -/
def textAnyCase (s : String) : Regex :=
  concat (s.toList.map fun c => ofSet (.ofList (caseVariants c)))

/-- One of several strings, the preferred ones first. -/
def oneOf (ss : List String) : Regex := alternation (ss.map text)

/-- A pattern or nothing, preferably the pattern. -/
def optional (r : Regex) : Regex := repetition r 0 (some 1) true

/-- Any number of characters of a set, as many as possible. -/
def anyOf (set : CharSet) : Regex := repetition (.char set) 0 none true

/-- A fixed number of characters of a set. -/
def exactly (n : Nat) (set : CharSet) : Regex := repetition (.char set) n (some n) true

/-- At least so many characters of a set, and as many as possible. -/
def atLeast (n : Nat) (set : CharSet) : Regex := repetition (.char set) n none true

/-- A position with a word character on one side only. -/
def wordEdge : Regex := .assert (.wordBoundary false)

end Regex

end MarkupGate
