import MarkupGate.Text.Category.Letter
import MarkupGate.Text.Category.Mark
import MarkupGate.Text.Category.Number
import MarkupGate.Text.Category.Other
import MarkupGate.Text.Category.Punctuation
import MarkupGate.Text.Category.Symbol
import MarkupGate.Text.CodeRange

/-!
# General categories

The general categories of Unicode 17.0 and the groups they form. Every code point but those of
surrogates is in exactly one category; a group is named by the first letter of its categories.
-/

namespace MarkupGate

/-- The general categories. -/
def generalCategories : List CharProperty := [
  ⟨["lu", "uppercaseletter"], uppercaseLetterRanges⟩,
  ⟨["ll", "lowercaseletter"], lowercaseLetterRanges⟩,
  ⟨["lt", "titlecaseletter"], titlecaseLetterRanges⟩,
  ⟨["lm", "modifierletter"], modifierLetterRanges⟩,
  ⟨["lo", "otherletter"], otherLetterRanges⟩,
  ⟨["mn", "nonspacingmark"], nonspacingMarkRanges⟩,
  ⟨["mc", "spacingmark"], spacingMarkRanges⟩,
  ⟨["me", "enclosingmark"], enclosingMarkRanges⟩,
  ⟨["nd", "decimalnumber", "digit"], decimalDigitRanges⟩,
  ⟨["nl", "letternumber"], letterNumberRanges⟩,
  ⟨["no", "othernumber"], otherNumberRanges⟩,
  ⟨["pc", "connectorpunctuation"], connectorRanges⟩,
  ⟨["pd", "dashpunctuation"], dashRanges⟩,
  ⟨["ps", "openpunctuation"], openingRanges⟩,
  ⟨["pe", "closepunctuation"], closingRanges⟩,
  ⟨["pi", "initialpunctuation"], initialQuoteRanges⟩,
  ⟨["pf", "finalpunctuation"], finalQuoteRanges⟩,
  ⟨["po", "otherpunctuation"], otherPunctuationRanges⟩,
  ⟨["sm", "mathsymbol"], mathSymbolRanges⟩,
  ⟨["sc", "currencysymbol"], currencySymbolRanges⟩,
  ⟨["sk", "modifiersymbol"], modifierSymbolRanges⟩,
  ⟨["so", "othersymbol"], otherSymbolRanges⟩,
  ⟨["zs", "spaceseparator"], spaceRanges⟩,
  ⟨["zl", "lineseparator"], lineSeparatorRanges⟩,
  ⟨["zp", "paragraphseparator"], paragraphSeparatorRanges⟩,
  ⟨["cc", "control", "cntrl"], controlRanges⟩,
  ⟨["cf", "format"], formatRanges⟩,
  ⟨["co", "privateuse"], privateUseRanges⟩,
  ⟨["cn", "unassigned"], unassignedRanges⟩]

/-- The groups of categories: their names, and the short names of the members. -/
def categoryGroups : List (List String × List String) := [
  (["l", "letter"], ["lu", "ll", "lt", "lm", "lo"]),
  (["lc", "casedletter"], ["lu", "ll", "lt"]),
  (["m", "mark", "combiningmark"], ["mn", "mc", "me"]),
  (["n", "number"], ["nd", "nl", "no"]),
  (["p", "punctuation", "punct"], ["pc", "pd", "ps", "pe", "pi", "pf", "po"]),
  (["s", "symbol"], ["sm", "sc", "sk", "so"]),
  (["z", "separator"], ["zs", "zl", "zp"]),
  (["c", "other"], ["cc", "cf", "co", "cn"])]

end MarkupGate
