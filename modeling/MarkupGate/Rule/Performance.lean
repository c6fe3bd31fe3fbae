import MarkupGate.Page.Fold
import MarkupGate.Page.Script

/-!
# Performance rules

Images that load before they are needed, and scripts that hold a page up.

`scriptLoading` reports, in this order, each script that blocks the head, each address that is
loaded more than once, at its second place, and a number of distinct addresses above the limit.
-/

namespace MarkupGate

namespace Rule

/-- Finds images below the fold that do not load lazily. -/
def imgLazyLoading (policy : FoldPolicy) : Rule := .ofFindings .imgLazyLoading fun p =>
  (policy.deferrable p.doc).map fun t =>
    p.findingAt .imgLazyLoading t.start
      ("Image " ++ ((t.value? "src").map String.ofList).getD "(no src)"
        ++ " below the fold is not lazy-loaded")

/-! ## External scripts -/

/-- What has been noted of an address. -/
structure ScriptUse where
  /-- how many scripts load it -/
  count : Nat
  /-- where the second one of them begins; the first one as long as there is no other -/
  place : Nat

/-- What one pass over the scripts of a page has noted. -/
structure ScriptTally where
  /-- the use of each address -/
  uses : NameTable ScriptUse
  /-- the addresses in the order in which they came up -/
  order : Array (List Char)
  /-- the findings about scripts that the page has to wait for -/
  blocking : Array Finding

namespace ScriptTally

/-- The finding about a script in the head that the page has to wait for. -/
def blockingFinding (p : Page) (t : Tag) (src : List Char) : Finding :=
  p.findingAt .scriptLoading t.start
    ("Render-blocking script " ++ String.ofList src ++ " in <head>; add async or defer")

/-- The finding about an address that is loaded more than once. -/
def repeatFinding (p : Page) (src : List Char) (use : ScriptUse) : Finding :=
  p.findingAt .scriptLoading use.place
    ("Script " ++ String.ofList src ++ " is loaded " ++ toString use.count ++ " times")

/-- Notes a `script` tag of a page whose head has a range, if it has one; a tag that loads nothing is
passed over. -/
def note (p : Page) (head? : Option Span) (st : ScriptTally) (t : Tag) : ScriptTally :=
  match t.scriptSource? with
  | none => st
  | some src =>
    let known? := st.uses.lookup src
    let use := known?.getD ⟨0, t.start⟩
    let count := use.count + 1
    let place := if count = 2 then t.start else use.place
    { uses := st.uses.set src ⟨count, place⟩
      order := if known?.isSome then st.order else st.order.push src
      blocking :=
        if head?.any (·.contains t.start) && !t.isDeferred then
          st.blocking.push (blockingFinding p t src)
        else st.blocking }

/-- The tally of a page. -/
def ofPage (p : Page) : ScriptTally :=
  let head? := p.doc.headRange?
  (p.doc.openTagsNamed "script").foldl (note p head?) ⟨[], #[], #[]⟩

/-- The findings about addresses that are loaded more than once. -/
def repeated (p : Page) (st : ScriptTally) : List Finding :=
  st.order.toList.filterMap fun src =>
    match st.uses.lookup src with
    | some use => if 1 < use.count then some (repeatFinding p src use) else none
    | none => none

/-- The finding about too many addresses, if there are more than a limit. -/
def excess (limit : Nat) (st : ScriptTally) : List Finding :=
  if limit < st.order.size then
    [.ofRule .scriptLoading
      (toString st.order.size ++ " external scripts exceed the limit of " ++ toString limit) none]
  else []

end ScriptTally

/-- Finds external scripts that block, repeat or are too many. -/
def scriptLoading (limit : Nat) : Rule := .ofFindings .scriptLoading fun p =>
  let tally := ScriptTally.ofPage p
  tally.blocking.toList ++ tally.repeated p ++ tally.excess limit

end Rule

end MarkupGate
