import MarkupGate.Markup.Document
import MarkupGate.Proofs.Markup.Pairing

/-!
# Line feeds and lines

* `LineIndex.lineAt_ofText`: the line of a place is found by counting the line feeds before it.
* `Document.line_eq`: so it depends on these alone.
-/

namespace MarkupGate

theorem lineFeeds_append (offset : Nat) (s t : List Char) :
    lineFeeds offset (s ++ t) = lineFeeds offset s ++ lineFeeds (offset + byteLength s) t := by
  induction s generalizing offset with
  | nil => simp [lineFeeds]
  | cons c cs ih => by_cases hc : c = '\n' <;> simp [lineFeeds, hc, ih, Nat.add_assoc]

theorem lineFeeds_add (offset n : Nat) (s : List Char) :
    lineFeeds (offset + n) s = (lineFeeds n s).map (offset + ·) := by
  induction s generalizing n with
  | nil => rfl
  | cons c cs ih => by_cases hc : c = '\n' <;> simp [lineFeeds, hc, ih, Nat.add_assoc]

theorem mem_lineFeeds {offset x : Nat} {s : List Char} (h : x ∈ lineFeeds offset s) :
    offset ≤ x ∧ x < offset + byteLength s := by
  induction s generalizing offset with
  | nil => simp [lineFeeds] at h
  | cons c cs ih =>
    have hc := c.utf8Size_pos
    have hrest : x ∈ lineFeeds (offset + c.utf8Size) cs → offset ≤ x ∧
        x < offset + byteLength (c :: cs) := fun hx => by
      have := ih hx
      simp only [byteLength_cons]
      omega
    simp only [lineFeeds] at h
    split at h
    · rcases List.mem_cons.1 h with rfl | h
      · simp only [byteLength_cons]
        omega
      · exact hrest h
    · exact hrest h

theorem length_lineFeeds (offset : Nat) (s : List Char) :
    (lineFeeds offset s).length = s.count '\n' := by
  have := lineCount_eq offset s
  simp only [lineCount] at this
  omega

/-- Line feeds are found in order. -/
theorem pairwise_lineFeeds (offset : Nat) (s : List Char) :
    (lineFeeds offset s).Pairwise fun m n => m < n := by
  induction s generalizing offset with
  | nil => exact .nil
  | cons c cs ih =>
    rw [lineFeeds]
    split
    · refine .cons (fun n hn => ?_) (ih _)
      have := mem_lineFeeds hn
      have := c.utf8Size_pos
      omega
    · exact ih _

/-- The line of a place is found by counting the line feeds before it. -/
theorem LineIndex.lineAt_ofText (source : List Char) (offset : Nat) :
    (ofText source).lineAt offset = 1 + (lineFeeds 0 source).countP (· < offset) := by
  have hstarts : Descends (fun start => decide (start ≤ offset))
      (0 :: (lineFeeds 0 source).map (· + 1)) := by
    refine .cons (by simp) (List.pairwise_map.2 ?_)
    refine (pairwise_lineFeeds 0 source).imp fun h => ?_
    simp only [decide_eq_true_eq]
    omega
  rw [lineAt, ofText, partitionPoint_toArray hstarts, List.countP_cons, List.countP_map]
  simp only [Function.comp_def, Nat.succ_le_iff, Nat.zero_le, decide_true, if_true]
  omega

/-- The number of line feeds among the first bytes of a text. -/
def feedsBefore (n : Nat) (s : List Char) : Nat := (lineFeeds 0 s).countP (· < n)

/-- The bytes of the front of a text are not in what follows it. -/
theorem feedsBefore_append {n : Nat} {s : List Char} (h : n ≤ byteLength s) (t : List Char) :
    feedsBefore n (s ++ t) = feedsBefore n s := by
  rw [feedsBefore, feedsBefore, lineFeeds_append, List.countP_append, Nat.add_eq_left,
    List.countP_eq_zero]
  intro x hx
  have := mem_lineFeeds hx
  simp only [decide_eq_true_eq]
  omega

@[simp] theorem feedsBefore_zero (s : List Char) : feedsBefore 0 s = 0 := by simp [feedsBefore]

/-- The line of a place depends on the line feeds before it. -/
theorem Document.line_eq {source front s : List Char} (h : source = front ++ s) (n : Nat) :
    (Document.parse source).line (byteLength front + n)
      = 1 + front.count '\n' + feedsBefore n s := by
  have hfront : (lineFeeds 0 front).countP (· < byteLength front + n) = front.count '\n' := by
    rw [← length_lineFeeds 0, List.countP_eq_length]
    intro x hx
    have := mem_lineFeeds hx
    simp only [decide_eq_true_eq]
    omega
  have hs : (lineFeeds (byteLength front) s).countP (· < byteLength front + n)
      = feedsBefore n s := by
    have := lineFeeds_add (byteLength front) 0 s
    rw [Nat.add_zero] at this
    rw [this, List.countP_map, feedsBefore]
    congr 1
    funext x
    simp
  rw [Document.line, Document.parse, LineIndex.lineAt_ofText, h, lineFeeds_append, Nat.zero_add,
    List.countP_append, hfront, hs, Nat.add_assoc]

end MarkupGate
