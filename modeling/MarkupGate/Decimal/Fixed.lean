import MarkupGate.Decimal.Binary
import MarkupGate.Text.Digits

/-!
# Decimals with fixed places

A double written with a fixed number of decimal places: the nearest such decimal, a tie to the even
digit.
-/

namespace MarkupGate

/-- The decimal of `scaled` divided by ten to the `places`. -/
def pointText (places scaled : Nat) : List Char :=
  let whole := decimalDigits (scaled / Nat.pow 10 places)
  if places = 0 then whole
  else
    let digits := decimalDigits (scaled % Nat.pow 10 places)
    whole ++ '.' :: List.replicate (places - digits.length) '0' ++ digits

/-- A double with a fixed number of decimal places. -/
def fixedText (places : Nat) (x : Float) : List Char :=
  match BinaryValue.ofFloat x with
  | .nan => "NaN".toList
  | .infinite negative => (if negative then "-inf" else "inf").toList
  | .finite negative mantissa exponent =>
    let num := mantissa * Nat.pow 10 places * Nat.pow 2 exponent.toNat
    let den := Nat.pow 2 (-exponent).toNat
    (if negative then ['-'] else []) ++ pointText places (roundDiv num den)

end MarkupGate
