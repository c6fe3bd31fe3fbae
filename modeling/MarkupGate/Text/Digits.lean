/-!
# Numbers in digits

Natural numbers written in decimal and hexadecimal ASCII digits, and read back. Where a number has
to fit a machine word, it lies below one of the bounds at the end.
-/

namespace MarkupGate

/-- The decimal digits of a natural number. -/
def decimalDigits (n : Nat) : List Char := Nat.toDigits 10 n

/-- The value of a run of decimal digits. -/
def decimalValue (digits : List Char) : Nat :=
  digits.foldl (fun n c => 10 * n + (c.toNat - '0'.toNat)) 0

/-- The digit of a hexadecimal number below sixteen, in small letters. -/
def hexDigit (n : Nat) : Char :=
  if n < 10 then Char.ofNat ('0'.toNat + n) else Char.ofNat ('a'.toNat + (n - 10))

/-- The value of a hexadecimal digit of either case. -/
def hexValue? (c : Char) : Option Nat :=
  if c.isDigit then some (c.toNat - '0'.toNat)
  else if 'a' ≤ c ∧ c ≤ 'f' then some (c.toNat - 'a'.toNat + 10)
  else if 'A' ≤ c ∧ c ≤ 'F' then some (c.toNat - 'A'.toNat + 10)
  else none

/-- The first number that takes more than 32 bits. -/
abbrev bound32 : Nat := 4294967296

/-- The first number that takes more than 63 bits. -/
abbrev bound63 : Nat := 9223372036854775808

/-- The first number that takes more than 64 bits. -/
abbrev bound64 : Nat := 18446744073709551616

end MarkupGate
