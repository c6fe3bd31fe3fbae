/-!
# Doubles as exact numbers

A finite double is a sign, a natural number and a power of two. Everything that is written about a
double is computed from these in exact arithmetic.
-/

namespace MarkupGate

/-- What a double stands for. -/
inductive BinaryValue where
  | nan
  | infinite (negative : Bool)
  /-- `mantissa` times two to the `exponent`, negated on demand -/
  | finite (negative : Bool) (mantissa : Nat) (exponent : Int)
  deriving DecidableEq, Repr

/-- The value of the 64 bits of a double. -/
def BinaryValue.ofBits (bits : Nat) : BinaryValue :=
  let negative : Bool := (bits >>> 63) % 2 = 1
  let biased : Nat := (bits >>> 52) % 2048
  let fraction : Nat := bits % (1 <<< 52)
  if biased = 2047 then if fraction = 0 then .infinite negative else .nan
  else if biased = 0 then .finite negative fraction (-1074)
  else .finite negative ((1 <<< 52) + fraction) ((biased : Int) - 1075)

/-- The value of a double. -/
def BinaryValue.ofFloat (x : Float) : BinaryValue := .ofBits x.toBits.toNat

/-- The quotient of two numbers to the nearest, a tie to the even neighbour. -/
def roundDiv (num den : Nat) : Nat :=
  let q := num / den
  let r := num % den
  if 2 * r < den || (2 * r = den && q % 2 = 0) then q else q + 1

end MarkupGate
