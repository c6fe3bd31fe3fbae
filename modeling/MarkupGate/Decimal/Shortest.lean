import MarkupGate.Decimal.Fixed
import MarkupGate.Decimal.Reading

/-!
# Shortest decimals

A double written with the fewest decimal digits that read back to the same double; of several such
decimals with as many digits, the nearest. Ever finer grids of decimals are tried, from the power of
ten above the value down to its seventeenth digit: on each grid the two neighbours of the value are
read back, the nearer one first, of two equally near the larger one. What no grid catches is written
out in full.
-/

namespace MarkupGate

/-- A decimal number: `coefficient` times ten to the `exponent`. -/
structure DecimalNumber where
  coefficient : Nat
  exponent : Int
  deriving DecidableEq, Repr

namespace DecimalNumber

/-- Whether a double with these bits is the nearest to the decimal. -/
def readsBack (bits : UInt64) (d : DecimalNumber) : Bool :=
  (nearestFloat d.coefficient d.exponent).toBits = bits

/-- The decimal in digits, without an exponent; a whole number has no point. -/
def text (d : DecimalNumber) : List Char :=
  if d.exponent < 0 then pointText d.exponent.natAbs d.coefficient
  else decimalDigits d.coefficient ++ List.replicate d.exponent.toNat '0'

end DecimalNumber

/-- The power of ten at the first digit of a positive quotient. -/
def leadingExponent (num den : Nat) : Int :=
  if den ≤ num then (decimalDigits (num / den)).length - 1
  else -(decimalDigits ((den - 1) / num)).length

/-- The two neighbours of a quotient among the multiples of a power of ten, the nearer one
first. -/
def neighbours (num den : Nat) (exponent : Int) : List DecimalNumber :=
  let num := num * Nat.pow 10 (-exponent).toNat
  let den := den * Nat.pow 10 exponent.toNat
  let below := num / den
  let low : DecimalNumber := ⟨below, exponent⟩
  let high : DecimalNumber := ⟨below + 1, exponent⟩
  if 2 * (num % den) < den then [low, high] else [high, low]

/-- The shortest decimal of a positive double, given its exact value and its bits. -/
def shortestDecimal (mantissa : Nat) (exponent : Int) (bits : UInt64) : DecimalNumber :=
  let num := mantissa * Nat.pow 2 exponent.toNat
  let den := Nat.pow 2 (-exponent).toNat
  let leading := leadingExponent num den
  let candidates := (List.range 18).flatMap fun (n : Nat) =>
    neighbours num den (leading + 1 - (n : Int))
  (candidates.find? (DecimalNumber.readsBack bits)).getD
    ⟨num * Nat.pow 5 (-exponent).toNat, min exponent 0⟩

/-- A finite double in its shortest decimal, with its sign; `whole` is put behind a whole
number. -/
def shortestFinite (whole : String) (x : Float) (negative : Bool) (mantissa : Nat)
    (exponent : Int) : List Char :=
  let sign := if negative then ['-'] else []
  if mantissa = 0 then sign ++ '0' :: whole.toList
  else
    let d := shortestDecimal mantissa exponent x.abs.toBits
    sign ++ d.text ++ if d.exponent < 0 then [] else whole.toList

/-- A double in its shortest decimal, without an exponent; `whole` is put behind a whole number. -/
def shortestText (whole : String) (x : Float) : List Char :=
  match BinaryValue.ofFloat x with
  | .nan => "nan".toList
  | .infinite negative => (if negative then "-inf" else "inf").toList
  | .finite negative mantissa exponent => shortestFinite whole x negative mantissa exponent

end MarkupGate
