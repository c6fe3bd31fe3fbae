import Mathlib
import MarkupGate.Fix.Edit

/-!
# Carrying out edits

Edits that begin one behind another are carried out from left to right, and each of them changes the
part of the text in which it lies and nothing else.

* `Edit.Rewrites`: an edit that lies in a part of a text, and what it makes of that part.
* `Edit.splice?_append`, `Edit.Rewrites.splice?`: going past a part without an edit, and past one with
  an edit.
* `applyEdits_of_splice?`: edits in order need no sorting.
-/

namespace MarkupGate

/-- Splitting further on splits what follows. -/
theorem splitAtOffset?_append (s t : List Char) (n : Nat) :
    splitAtOffset? (byteLength s + n) (s ++ t)
      = (splitAtOffset? n t).map fun (before, after) => (s ++ before, after) := by
  induction s with
  | nil => simp
  | cons c cs ih =>
    obtain ⟨k, hk⟩ : ∃ k, byteLength (c :: cs) + n = k + 1 :=
      ⟨byteLength (c :: cs) + n - 1, by have := c.utf8Size_pos; simp only [byteLength_cons]; omega⟩
    have hle : c.utf8Size ≤ k + 1 := by simp only [byteLength_cons] at hk; omega
    have hsub : k + 1 - c.utf8Size = byteLength cs + n := by
      simp only [byteLength_cons] at hk
      omega
    rw [hk, List.cons_append, splitAtOffset?, if_pos hle, hsub, ih, Option.map_map]
    rfl

namespace Edit

/-! ## The order of edits -/

theorem precedes_iff {a b : Edit} : a.precedes b
    ↔ b.span.start < a.span.start ∨ a.span.start = b.span.start ∧ b.span.stop ≤ a.span.stop := by
  simp [precedes]

theorem precedes_trans (a b c : Edit) (hab : a.precedes b) (hbc : b.precedes c) : a.precedes c := by
  rw [precedes_iff] at *
  omega

theorem precedes_total (a b : Edit) : a.precedes b || b.precedes a := by
  rw [Bool.or_eq_true, precedes_iff, precedes_iff]
  omega

/-- Edits that are not told apart by the order have the same range. -/
theorem span_eq_of_precedes {a b : Edit} (hab : a.precedes b) (hba : b.precedes a) :
    a.span = b.span := by
  obtain ⟨⟨start, stop⟩, text⟩ := a
  obtain ⟨⟨start', stop'⟩, text'⟩ := b
  simp only [precedes_iff, Span.mk.injEq] at *
  omega

/-! ## From left to right -/

/-- Whether an edit lies in a text that stands at an offset, and what the edit makes of the text. -/
def Rewrites (e : Edit) (start : Nat) (s s' : List Char) : Prop :=
  ∃ front cut behind, s = front ++ cut ++ behind ∧ s' = front ++ e.text ++ behind
    ∧ e.span = ⟨start + byteLength front, start + byteLength front + byteLength cut⟩

variable {e : Edit} {es : List Edit} {offset : Nat} {s s' rest : List Char}

theorem Rewrites.range (h : e.Rewrites offset s s') :
    offset ≤ e.span.start ∧ e.span.start ≤ offset + byteLength s := by
  obtain ⟨front, cut, behind, rfl, -, hspan⟩ := h
  simp only [hspan, byteLength_append]
  omega

/-- What stands around a text is not rewritten with it. -/
theorem Rewrites.around {front : List Char} (h : e.Rewrites (offset + byteLength front) s s')
    (behind : List Char) : e.Rewrites offset (front ++ s ++ behind) (front ++ s' ++ behind) := by
  obtain ⟨x, cut, y, rfl, rfl, hspan⟩ := h
  exact ⟨front ++ x, cut, y ++ behind, by simp, by simp, by simp [hspan, Nat.add_assoc]⟩

/-- Text in front of all edits stays. -/
theorem splice?_append (h : ∀ e ∈ es, offset + byteLength s ≤ e.span.start) :
    splice? offset es (s ++ rest) = (splice? (offset + byteLength s) es rest).map (s ++ ·) := by
  cases es with
  | nil => rfl
  | cons e es =>
    obtain ⟨n, hn⟩ := Nat.exists_eq_add_of_le (h e (by simp))
    by_cases hstop : e.span.stop < e.span.start
    · simp [splice?, hstop]
    · have hskip : e.span.start - offset = byteLength s + n := by omega
      have hskip' : e.span.start - (offset + byteLength s) = n := by omega
      have hbefore : ¬e.span.start < offset := by omega
      have hbefore' : ¬e.span.start < offset + byteLength s := by omega
      simp only [splice?, hstop, hbefore, hbefore', hskip, hskip', splitAtOffset?_append]
      cases splitAtOffset? n rest with
      | none => rfl
      | some parts =>
        simp only [decide_false, Bool.or_self, Bool.false_eq_true, if_false, Option.map_some,
          Option.bind_eq_bind, Option.bind_some, Option.map_bind, Option.pure_def,
          Function.comp_def, List.append_assoc]

/-- A text with an edit in it becomes what the edit makes of it. -/
theorem splice?_cons {front cut behind : List Char}
    (hspan : e.span = ⟨offset + byteLength front, offset + byteLength front + byteLength cut⟩)
    (hes : ∀ e' ∈ es, offset + byteLength (front ++ cut ++ behind) ≤ e'.span.start) :
    splice? offset (e :: es) (front ++ cut ++ behind ++ rest)
      = (splice? (offset + byteLength (front ++ cut ++ behind)) es rest).map
          (front ++ e.text ++ behind ++ ·) := by
  have hbehind : splice? (offset + byteLength front + byteLength cut) es (behind ++ rest)
      = (splice? (offset + byteLength (front ++ cut ++ behind)) es rest).map (behind ++ ·) := by
    simp only [byteLength_append, ← Nat.add_assoc] at hes ⊢
    exact splice?_append hes
  generalize splice? (offset + byteLength (front ++ cut ++ behind)) es rest = o at hbehind ⊢
  have hstart : ¬offset + byteLength front < offset := by omega
  have hstop : ¬offset + byteLength front + byteLength cut < offset + byteLength front := by omega
  simp only [splice?, hspan, hstart, hstop, List.append_assoc, Nat.add_sub_cancel_left]
  simp only [decide_false, Bool.or_self, Bool.false_eq_true, if_false, Option.bind_eq_bind,
    splitAtOffset?_byteLength, Option.bind_some, hbehind]
  cases o <;> simp

theorem Rewrites.splice? (h : e.Rewrites offset s s')
    (hes : ∀ e' ∈ es, offset + byteLength s ≤ e'.span.start) :
    splice? offset (e :: es) (s ++ rest)
      = (Edit.splice? (offset + byteLength s) es rest).map (s' ++ ·) := by
  obtain ⟨front, cut, behind, rfl, rfl, hspan⟩ := h
  exact splice?_cons hspan hes

end Edit

variable {es : List Edit} {source edited : List Char}

/-- Edits that begin one behind another are carried out as they are listed. -/
theorem applyEdits_of_splice? (fix : FixKind)
    (h : es.Pairwise fun e e' => e.span.start < e'.span.start)
    (hedited : Edit.splice? 0 es source = some edited) :
    applyEdits fix source es = .ok edited := by
  have hsorted : es.mergeSort Edit.precedes = es.reverse := by
    have hantisymm : ∀ a b, a ∈ es → b ∈ es → a.precedes b → b.precedes a → a = b := by
      intro a b ha hb hab hba
      have hstart : a.span.start = b.span.start :=
        congrArg Span.start (Edit.span_eq_of_precedes hab hba)
      have hnodup : (es.map fun e => e.span.start).Nodup := List.pairwise_map.2 (h.imp Nat.ne_of_lt)
      exact List.inj_on_of_nodup_map hnodup ha hb hstart
    have hreverse : es.reverse.Pairwise fun a b => a.precedes b := by
      exact List.pairwise_reverse.2 (h.imp fun hlt => Edit.precedes_iff.2 (.inl hlt))
    refine List.Perm.eq_of_pairwise (fun a b ha hb => ?_)
      (List.pairwise_mergeSort Edit.precedes_trans Edit.precedes_total es) hreverse
      ((es.mergeSort_perm Edit.precedes).trans es.reverse_perm.symm)
    exact hantisymm a b (List.mem_mergeSort.1 ha) (List.mem_reverse.1 hb)
  rw [applyEdits, hsorted, List.reverse_reverse, hedited]

/-- A single edit changes the part of the text that it names. -/
theorem applyEdits_single (fix : FixKind) (front cut behind text : List Char) :
    applyEdits fix (front ++ cut ++ behind)
        [⟨⟨byteLength front, byteLength front + byteLength cut⟩, text⟩]
      = .ok (front ++ text ++ behind) := by
  refine applyEdits_of_splice? fix (List.pairwise_singleton _ _) ?_
  have hsplice : Edit.splice? 0 [⟨⟨byteLength front, byteLength front + byteLength cut⟩, text⟩]
      (front ++ cut ++ behind ++ []) = _ :=
    Edit.splice?_cons (by simp) (by simp)
  simpa [Edit.splice?] using hsplice

end MarkupGate
