import Std.Data.HashMap
import MarkupGate.Regex.Basic
import MarkupGate.Regex.Utf8

/-!
# The size of a pattern

A pattern is accepted only if two machines for it, one that reads a text byte by byte from the start
and one that reads it from the end, both stay within `sizeLimit` bytes. The machines are not built
here; this module counts their states in the order in which they would be laid down.

* Every state takes 32 bytes, every link from a fork to one of its ways 4 more, and every way out of
  a state that tells several bytes apart 8 more.
* A part of a machine ends in a fork or in another state; only a link that starts at a fork counts.
* Forwards, the byte sequences of a set share their ends through a table of nodes; backwards,
  through a table of steps. A table holds one entry a slot, and a new entry drives out the one
  before it.
-/

namespace MarkupGate

/-! ## Counting -/

/-- What a machine takes so far. -/
structure Footprint where
  /-- the number of states, which also is the number of the next state -/
  states : Nat
  /-- the bytes that the states take on top of their own size -/
  extra : Nat
  deriving DecidableEq, Repr

namespace Footprint

/-- The bytes of an empty state. -/
def stateSize : Nat := 32

/-- The bytes of a link from a fork. -/
def linkSize : Nat := 4

/-- The bytes of a way out of a state that tells bytes apart. -/
def waySize : Nat := 8

/-- The greatest size of a machine. -/
def sizeLimit : Nat := 10485760

/-- The bytes of the machine. -/
def size (m : Footprint) : Nat := stateSize * m.states + m.extra

/-- The machine, if it is not too large. -/
def checked (m : Footprint) : Option Footprint := if m.size ≤ sizeLimit then some m else none

/-- The machine with more states, links and ways. -/
def more (m : Footprint) (states links ways : Nat) : Footprint :=
  ⟨m.states + states, m.extra + links * linkSize + ways * waySize⟩

/-- The machine with a link from the end of a part, which may be a fork. -/
def link (m : Footprint) (fork : Bool) : Footprint := if fork then m.more 0 1 0 else m

end Footprint

/-! ## Sets of characters -/

/-- A table of numbered states with at most one entry a slot. -/
structure SlotTable where
  /-- the number of slots -/
  slots : Nat
  /-- the entries by slot, each a key and the number of a state -/
  entries : Std.HashMap Nat (List Nat × Nat)

namespace SlotTable

/-- The table without entries. -/
def empty (slots : Nat) : SlotTable := ⟨slots, ∅⟩

/-- The slot of a key. -/
def slot (t : SlotTable) (key : List Nat) : Nat :=
  let mix (h : UInt64) (n : Nat) : UInt64 := (h ^^^ n.toUInt64) * 1099511628211
  (key.foldl mix 14695981039346656037).toNat % t.slots

/-- The state of a key, if it is the entry of its slot. -/
def find? (t : SlotTable) (key : List Nat) : Option Nat :=
  match t.entries[t.slot key]? with
  | some (found, state) => if found = key then some state else none
  | none => none

/-- The table with an entry for a key. -/
def insert (t : SlotTable) (key : List Nat) (state : Nat) : SlotTable :=
  { t with entries := t.entries.insert (t.slot key) (key, state) }

end SlotTable

namespace Footprint

/-- Lays down a byte sequence that is read from its end to its start, in front of the state `last`;
gives the first state of the steps that are shared or new. -/
def layBackward (m : Footprint) (t : SlotTable) (last : Nat) :
    List ByteRange → Footprint × SlotTable
  | [] => (m.more 0 1 0, t)
  | (first, final) :: rest =>
    let key := [last, first, final]
    match t.find? key with
    | some state => layBackward m t state rest
    | none => layBackward (m.more 1 0 0) (t.insert key m.states) m.states rest

/-- The machine with a set of characters that is read from the end of a text. -/
def addSetBackward (m : Footprint) (set : CharSet) : Footprint :=
  let last := m.states + 1
  (set.byteSequences.foldl (fun (m, t) s => m.layBackward t last s)
    (m.more 2 0 0, SlotTable.empty 1000)).1

/-- A node of the sequences read so far that may still get further ways. -/
structure OpenNode where
  /-- the finished ways, last first: a byte range and the state it leads to -/
  ways : List (Nat × Nat × Nat)
  /-- the byte range whose way is not finished yet -/
  pending? : Option ByteRange

namespace OpenNode

/-- The node with its unfinished way leading to a state. -/
def finish (n : OpenNode) (state : Nat) : OpenNode :=
  match n.pending? with
  | some (first, last) => ⟨(first, last, state) :: n.ways, none⟩
  | none => n

/-- What tells a node from others. -/
def key (n : OpenNode) : List Nat :=
  n.ways.reverse.flatMap fun (first, last, state) => [first, last, state]

end OpenNode

/-- Closes nodes, the innermost of which leads to the state `last`; gives the state that the
outermost becomes, which may be an earlier one. -/
def closeNodes (last : Nat) : List OpenNode → Footprint → SlotTable → Nat × Footprint × SlotTable
  | [], m, t => (last, m, t)
  | n :: inner, m, t =>
    let (state, m, t) := closeNodes last inner m t
    let node := n.finish state
    match t.find? node.key with
    | some state => (state, m, t)
    | none => (m.states, m.more 1 0 node.ways.length, t.insert node.key m.states)

/-- Opens nodes for the rest of a byte sequence. -/
def openNodes (s : List ByteRange) : List OpenNode := s.map fun r => ⟨[], some r⟩

/-- Adds a byte sequence to open nodes, the outermost first. -/
def layForward (last : Nat) :
    List OpenNode → List ByteRange → Footprint → SlotTable → List OpenNode × Footprint × SlotTable
  | n :: inner, r :: rest, m, t =>
    if n.pending? = some r then
      let (inner, m, t) := layForward last inner rest m t
      (n :: inner, m, t)
    else
      let (state, m, t) := closeNodes last inner m t
      ({ n.finish state with pending? := some r } :: openNodes rest, m, t)
  | _, s, m, t => (openNodes s, m, t)

/-- The machine with a set of characters that is read from the start of a text. -/
def addSetForward (m : Footprint) (set : CharSet) : Footprint :=
  let last := m.states
  let (nodes, m, t) :=
    set.byteSequences.foldl (fun (nodes, m, t) s => layForward last nodes s m t)
      ([⟨[], none⟩], m.more 1 0 0, SlotTable.empty 10000)
  (closeNodes last nodes m t).2.1

/-- The direction in which a machine reads a text. -/
inductive Direction where
  | forward
  | backward
  deriving DecidableEq, Repr

/-- The machine with a set of characters. Sets of ASCII characters take a state that tells bytes
apart and one behind it. -/
def addSet (m : Footprint) (d : Direction) (set : CharSet) : Footprint :=
  if set.isAscii then m.more 2 0 set.ranges.length
  else
    match d with
    | .forward => m.addSetForward set
    | .backward => m.addSetBackward set

/-! ## Texts -/

/-- Cuts a list of texts at those that are empty. -/
def cutAtEmpty : List (List Nat) → List (List (List Nat))
  | [] => [[]]
  | [] :: texts => [] :: cutAtEmpty texts
  | t :: texts =>
    match cutAtEmpty texts with
    | [] => [[t]]
    | part :: parts => (t :: part) :: parts

/-- The texts of a list by their first bytes, without these. -/
def byFirst (texts : List (List Nat)) : List (List (List Nat)) :=
  (texts.filterMap List.head?).eraseDups.map fun b =>
    texts.filterMap fun t =>
      match t with
      | [] => none
      | c :: rest => if c = b then some rest else none

/-- The machine with a tree for the texts that are read from one node on. Where one of the texts
ends in the middle of the list, those behind it are told apart by a state of their own. -/
def addTree : Nat → List (List Nat) → Footprint → Footprint
  | 0, _, m => m
  | depth + 1, texts, m =>
    if texts.all List.isEmpty then m
    else
      let texts :=
        if texts.head? = some [] then [] :: texts.dropWhile List.isEmpty else texts
      let parts := cutAtEmpty texts
      let forks := (parts.filter fun part => !part.isEmpty).map byFirst
      let m := m.more (1 + forks.length) (forks.length + (parts.length - 1))
        (((forks.map List.length).filter (1 < ·)).foldl (· + ·) 0)
      forks.flatten.foldl (fun m rest => addTree depth rest m) m

/-- The machine with some texts that are told apart byte by byte. -/
def addTexts (m : Footprint) (d : Direction) (texts : List (List Nat)) : Footprint :=
  let texts :=
    match d with
    | .forward => texts
    | .backward => texts.map List.reverse
  addTree ((texts.map List.length).foldl max 0 + 1) texts (m.more 1 0 0)

/-! ## Patterns -/

/-- A machine and whether its last part ends in a fork. -/
abbrev Part := Footprint × Bool

/-- Lays down some copies of a part one after another. -/
def copies (lay : Footprint → Option Part) : Nat → Footprint → Option Part
  | 0, m => (m.more 1 0 0).checked.map (·, false)
  | 1, m => lay m
  | n + 1, m =>
    match lay m with
    | some (m, fork) => copies lay n (m.link fork)
    | none => none

/-- Lays down some copies of a part, each of which can be skipped with all behind it. -/
def skippable (lay : Footprint → Option Part) : Nat → Footprint → Bool → Option Part
  | 0, m, fork => some (m.link fork, false)
  | n + 1, m, fork =>
    match lay ((m.link fork).more 1 2 0) with
    | some (m, fork) => skippable lay n m fork
    | none => none

/-- Lays down a repeated part. -/
def layRepeated (lay : Footprint → Option Part) (consumes : Bool) (least : Nat) (most : Option Nat)
    (m : Footprint) : Option Part :=
  match least, most with
  | 0, some 1 => do
    let (m, fork) ← lay (m.more 1 2 0)
    some ((m.more 1 0 0).link fork, false)
  | 0, none =>
    if consumes then do
      let (m, fork) ← lay (m.more 1 1 0)
      some (m.link fork, true)
    else do
      let (m, fork) ← lay m
      some ((m.more 3 4 0).link fork, false)
  | 1, none => do
    let (m, fork) ← lay m
    some ((m.more 1 1 0).link fork, true)
  | n + 1, none => do
    let (m, fork) ← copies lay n m
    let (m, fork) ← lay (m.link fork)
    some ((m.more 1 1 0).link fork, true)
  | least, some most =>
    if most ≤ least then copies lay least m
    else do
      let (m, fork) ← copies lay least m
      skippable lay (most - least) (m.more 1 0 0) fork

/-- Ends a part that is the alternative at a place of several, counted from 0; at the place 0 the
part may also stand alone. -/
def joinAlternative (place : Nat) (p : Part) : Part :=
  match place with
  | 0 => p
  | 1 => ((p.1.more 2 1 0).link p.2, false)
  | _ => ((p.1.more 0 1 0).link p.2, false)

/-- The bytes of a literal. -/
def literalBytes? : Regex → Option (List Nat)
  | .literal text => some (text.flatMap fun c => utf8Bytes c.toNat)
  | _ => none

/-- Lays down a pattern that stands at a place of several alternatives, or alone. -/
def lay (d : Direction) : Regex → Nat → Footprint → Option Part
  | .empty, place, m | .assert _, place, m =>
    (m.more 1 0 0).checked.map fun m => joinAlternative place (m, false)
  | .literal text, place, m =>
    (m.more (text.flatMap fun c => utf8Bytes c.toNat).length 0 0).checked.map fun m =>
      joinAlternative place (m, false)
  | .char set, place, m =>
    (m.addSet d set).checked.map fun m => joinAlternative place (m, false)
  | .group _ body, place, m =>
    match d with
    | .forward => do
      let (m, fork) ← lay d body 0 (m.more 1 0 0)
      some (joinAlternative place ((m.more 1 0 0).link fork, false))
    | .backward => (lay d body 0 m).map (joinAlternative place)
  | .seq first rest, place, m =>
    match d with
    | .forward => do
      let (m, fork) ← lay d first 0 m
      (lay d rest 0 (m.link fork)).map (joinAlternative place)
    | .backward => do
      let (m, fork) ← lay d rest 0 m
      (lay d first 0 (m.link fork)).map (joinAlternative place)
  | .alt preferred other, place, m =>
    match place, (preferred :: other.branches).mapM literalBytes? with
    | 0, some texts => (m.addTexts d texts).checked.map (·, false)
    | place, _ => do
      let (m, fork) ← lay d preferred 0 m
      let m := if place = 0 then (m.more 0 1 0).link fork else (joinAlternative place (m, fork)).1
      lay d other (place + 1) m
  | .repeated body least most _, place, m =>
    (layRepeated (lay d body 0) body.consumes least most m).map (joinAlternative place)

end Footprint

namespace Regex

/-- Whether every match begins at the start of the text. -/
def isAnchoredAtStart : Regex → Bool
  | .assert .textStart => true
  | .group _ body => body.isAnchoredAtStart
  | .seq first rest => first.isAnchoredAtStart || (first.isWidthless && rest.isAnchoredAtStart)
  | .alt preferred other => preferred.isAnchoredAtStart && other.isAnchoredAtStart
  | .repeated body least _ _ => 0 < least && body.isAnchoredAtStart
  | _ => false

/-- Whether every match ends at the end of the text. -/
def isAnchoredAtEnd : Regex → Bool
  | .assert .textEnd => true
  | .group _ body => body.isAnchoredAtEnd
  | .seq first rest => rest.isAnchoredAtEnd || (rest.isWidthless && first.isAnchoredAtEnd)
  | .alt preferred other => preferred.isAnchoredAtEnd && other.isAnchoredAtEnd
  | .repeated body least _ _ => 0 < least && body.isAnchoredAtEnd
  | _ => false

/-- The machine that reads from the start: what skips a beginning unless the pattern is anchored,
the pattern as a group, and a last state. -/
def forwardFootprint? (r : Regex) : Option Footprint := do
  let start : Footprint := if r.isAnchoredAtStart then ⟨1, 0⟩ else Footprint.more ⟨3, 0⟩ 0 2 1
  let (m, _) ← Footprint.lay .forward (.group 0 r) 0 start
  (m.more 1 0 0).checked

/-- The machine that reads from the end. -/
def backwardFootprint? (r : Regex) : Option Footprint := do
  let start : Footprint := if r.isAnchoredAtEnd then ⟨1, 0⟩ else Footprint.more ⟨3, 0⟩ 0 2 1
  let (m, fork) ← Footprint.lay .backward r 0 start
  ((m.more 1 0 0).link fork).checked

/-- Whether both machines are small enough. -/
def fits (r : Regex) : Bool := r.backwardFootprint?.isSome && r.forwardFootprint?.isSome

end Regex

end MarkupGate
