import MarkupGate.Text.Alphabetic
import MarkupGate.Text.Category.Number

/-!
# Numerals

The characters that are decimal digits, and those that are letters or numbers of any kind. Letter
numbers such as the Roman numerals are alphabetic.
-/

namespace MarkupGate

/-- Whether a character is a decimal digit of some script. -/
def isDecimalDigit (c : Char) : Bool :=
  if c.toNat < 0x80 then c.isDigit else inRanges c.toNat decimalDigitRanges

/-- Whether a character is a letter or a number of some script. -/
def isLetterOrNumber (c : Char) : Bool :=
  if c.toNat < 0x80 then c.isAlphanum
  else isAlphabetic c || isDecimalDigit c || inRanges c.toNat otherNumberRanges

end MarkupGate
