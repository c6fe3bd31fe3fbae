import MarkupGate.Text.Digits

/-!
# Reading decimals

The double nearest to a decimal number. Decimals beyond all doubles become infinite and those below
them zero, decided by the place of their first digit alone.
-/

namespace MarkupGate

/-- The double nearest to `coefficient` times ten to the `exponent`. -/
def nearestFloat (coefficient : Nat) (exponent : Int) : Float :=
  let magnitude := exponent + (decimalDigits coefficient).length
  if coefficient = 0 ∨ magnitude < -350 then 0
  else if 350 < magnitude then 1 / 0
  else Float.ofScientific coefficient (exponent < 0) exponent.natAbs

end MarkupGate
