import MarkupGate.Regex.CharSet

/-!
# Sets of characters as byte sequences

A machine that reads a text byte by byte takes a character in one to four steps. The code points of
a range are cut into blocks whose encodings differ byte by byte independently, so each block is a
sequence of byte ranges; the sequences of a set come in the order of the code points.
-/

namespace MarkupGate

/-- A range of bytes, both ends included. -/
abbrev ByteRange := Nat × Nat

/-- The bytes of a code point. -/
def utf8Bytes (n : Nat) : List Nat :=
  if n < 0x80 then [n]
  else if n < 0x800 then [0xc0 + n / 64, 0x80 + n % 64]
  else if n < 0x10000 then [0xe0 + n / 4096, 0x80 + n / 64 % 64, 0x80 + n % 64]
  else [0xf0 + n / 262144, 0x80 + n / 4096 % 64, 0x80 + n / 64 % 64, 0x80 + n % 64]

/-- The ranges of code points whose encodings have one length; none of them holds a surrogate. -/
def encodingRanges : List (Nat × Nat) :=
  [(0, 0x7f), (0x80, 0x7ff), (0x800, 0xd7ff), (0xe000, 0xffff), (0x10000, 0x10ffff)]

/-- Cuts a range into blocks, first what does not fill blocks of `size` at either end, then the same
with blocks that are 64 times larger in between. -/
def blocks : Nat → Nat → Nat → Nat → List (Nat × Nat)
  | 0, _, first, last => [(first, last)]
  | levels + 1, size, first, last =>
    if first / size = last / size then [(first, last)]
    else
      let low := if first % size = 0 then first else first - first % size + size
      let high := if last % size = size - 1 then last + 1 else last - last % size
      (if first < low then [(first, low - 1)] else [])
        ++ (if low < high then blocks levels (64 * size) low (high - 1) else [])
        ++ (if high ≤ last then [(high, last)] else [])

/-- The byte sequences of a range of code points. -/
def byteSequences (r : Nat × Nat) : List (List ByteRange) :=
  encodingRanges.flatMap fun (first, last) =>
    if max r.1 first ≤ min r.2 last then
      let parts :=
        if last < 0x80 then [(max r.1 first, min r.2 last)]
        else blocks 3 64 (max r.1 first) (min r.2 last)
      parts.map fun (a, b) => (utf8Bytes a).zip (utf8Bytes b)
    else []

/-- The byte sequences of a set of characters. -/
def CharSet.byteSequences (s : CharSet) : List (List ByteRange) :=
  s.ranges.flatMap MarkupGate.byteSequences

end MarkupGate
