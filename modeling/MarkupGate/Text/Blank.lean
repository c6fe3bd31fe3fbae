/-!
# Blank characters

The whitespace that readers of a text skip: the characters with the Unicode property White_Space.
`trim` takes them off both ends, `words` cuts a text at them, `collapse` leaves one space between
words.
-/

namespace MarkupGate

/-- The characters with the Unicode property White_Space. -/
def isBlankChar (c : Char) : Bool :=
  let n := c.toNat
  (9 ≤ n && n ≤ 13) || n = 0x20 || n = 0x85 || n = 0xa0 || n = 0x1680
    || (0x2000 ≤ n && n ≤ 0x200a) || n = 0x2028 || n = 0x2029 || n = 0x202f || n = 0x205f
    || n = 0x3000

/-- The text without blanks at its ends. -/
def trim (s : List Char) : List Char :=
  ((s.dropWhile isBlankChar).reverse.dropWhile isBlankChar).reverse

/-- Whether a text holds nothing but blanks. -/
def isBlank (s : List Char) : Bool := s.all isBlankChar

/-- Cuts a text at the characters for which `cut` holds; two of them side by side leave an empty
part between them, and a text without any is its own only part. -/
def splitAll (cut : Char → Bool) : List Char → List (List Char)
  | [] => [[]]
  | c :: cs =>
    if cut c then [] :: splitAll cut cs
    else
      match splitAll cut cs with
      | [] => [[c]]
      | part :: parts => (c :: part) :: parts

/-- The parts of a text between blanks. -/
def words (s : List Char) : List (List Char) :=
  (splitAll isBlankChar s).filter fun w => !w.isEmpty

/-- The text with one space between its words and no blanks around them. -/
def collapse (s : List Char) : List Char := [' '].intercalate (words s)

end MarkupGate
