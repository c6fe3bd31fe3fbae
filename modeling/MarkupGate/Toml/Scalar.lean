import MarkupGate.Decimal.Reading
import MarkupGate.Text.Blank
import MarkupGate.Toml.Value

/-!
# Scalars without quotes

Truth values, numbers, dates and times. Each is a word of ASCII letters, digits and a few signs,
so the whole word decides what it is. Digits may be grouped with underscores between them. Integers
have at most 64 bits with sign; a decimal may be as large as it likes in digits, but not exceed all
doubles. Dates and times must exist, a second of 60 included.
-/

namespace MarkupGate

namespace Toml

/-- The characters of words. -/
def isWordChar (c : Char) : Bool :=
  c.isAlphanum || c = '+' || c = '-' || c = '_' || c = '.' || c = ':'

/-! ## Numbers -/

/-- The digits of a number without the underscores, which may only stand between two digits. -/
def ungroup? (isDigit : Char → Bool) (s : List Char) : Option (List Char) :=
  let groups := splitAll (fun c => c = '_') s
  if groups.all fun g => !g.isEmpty && g.all isDigit then some groups.flatten else none

/-- The digits of a whole decimal number, which has no zeros in front. -/
def wholeDigits? (s : List Char) : Option (List Char) :=
  (ungroup? Char.isDigit s).bind fun digits =>
    if digits.head? = some '0' ∧ digits.length ≠ 1 then none else some digits

/-- Whether a number has a minus sign, and what follows its sign. -/
def splitSign : List Char → Bool × List Char
  | '-' :: s => (true, s)
  | '+' :: s => (false, s)
  | s => (false, s)

/-- An integer within 64 bits. -/
def integer? (value : Int) : Option Toml :=
  if -bound63 ≤ value ∧ value < bound63 then some (.integer value) else none

/-- The number of digits to a base, underscores between them. -/
def digitsValue? (base : Nat) (s : List Char) : Option Nat :=
  let digit? (c : Char) : Option Nat := (hexValue? c).filter fun d => d < base
  (ungroup? (fun c => (digit? c).isSome) s).map fun digits =>
    digits.foldl (fun n c => base * n + (digit? c).getD 0) 0

/-- The integer that a word spells. -/
def integerWord? : List Char → Option Toml
  | '0' :: 'x' :: digits => (digitsValue? 16 digits).bind fun (n : Nat) => integer? n
  | '0' :: 'o' :: digits => (digitsValue? 8 digits).bind fun (n : Nat) => integer? n
  | '0' :: 'b' :: digits => (digitsValue? 2 digits).bind fun (n : Nat) => integer? n
  | word =>
    let (negative, digits) := splitSign word
    (wholeDigits? digits).bind fun digits =>
      let n : Int := decimalValue digits
      integer? (if negative then -n else n)

/-- The exponent of a decimal, given what follows the digits before it; zero if there is none. -/
def exponentWord? : List Char → Option Int
  | [] => some 0
  | e :: s =>
    if e = 'e' || e = 'E' then
      let (negative, digits) := splitSign s
      (ungroup? Char.isDigit digits).map fun digits =>
        let n : Int := decimalValue digits
        if negative then -n else n
    else none

/-- Whether a character may stand in a run of digits. -/
def isGroupedDigit (c : Char) : Bool := c.isDigit || c = '_'

/-- The fraction of a decimal without its point, and what follows it; empty if there is none. -/
def fractionWord? : List Char → Option (List Char × List Char)
  | '.' :: s =>
    (ungroup? Char.isDigit (s.takeWhile isGroupedDigit)).map (·, s.dropWhile isGroupedDigit)
  | s => some ([], s)

/-- The decimal number that a word without sign spells; it has a fraction or an exponent. -/
def decimalWord? (word : List Char) : Option Float := do
  let whole ← wholeDigits? (word.takeWhile isGroupedDigit)
  let rest := word.dropWhile isGroupedDigit
  if rest.isEmpty then none
  else
    let (fraction, rest) ← fractionWord? rest
    let exponent ← exponentWord? rest
    some (nearestFloat (decimalValue (whole ++ fraction)) (exponent - fraction.length))

/-- The number with fraction or exponent that a word spells, infinity, or no number at all. -/
def floatWord? (word : List Char) : Option Toml :=
  let (negative, size) := splitSign word
  let signed (x : Float) : Toml := .float (if negative then -x else x)
  if size = "inf".toList then some (signed (1 / 0))
  else if size = "nan".toList then some (signed (0 / 0))
  else
    (decimalWord? size).bind fun x =>
      if x.isInf && !negative then none else some (signed x)

/-! ## Dates and times -/

/-- The value of a fixed number of digits. -/
def fixedDigits? (count : Nat) (s : List Char) : Option Nat :=
  if s.length = count ∧ s.all Char.isDigit then some (decimalValue s) else none

/-- Whether a text is a number with two digits between two bounds. -/
def isTwoDigits (low high : Nat) (s : List Char) : Bool :=
  (fixedDigits? 2 s).any fun n => low ≤ n && n ≤ high

/-- The number of days of a month. -/
def daysInMonth (year month : Nat) : Nat :=
  if month = 2 then if (year % 4 = 0 ∧ year % 100 ≠ 0) ∨ year % 400 = 0 then 29 else 28
  else if month = 4 ∨ month = 6 ∨ month = 9 ∨ month = 11 then 30
  else 31

/-- Whether a text is a date that exists. -/
def isDate (s : List Char) : Bool :=
  match splitAll (fun c => c = '-') s with
  | [year, month, day] =>
    match fixedDigits? 4 year, fixedDigits? 2 month with
    | some y, some m => 1 ≤ m && m ≤ 12 && isTwoDigits 1 (daysInMonth y m) day
    | _, _ => false
  | _ => false

/-- Whether a text is a time of day, perhaps with parts of a second. -/
def isTime (s : List Char) : Bool :=
  let clock := s.take 8
  match splitAll (fun c => c = ':') clock, s.drop 8 with
  | [hour, minute, second], fraction =>
    isTwoDigits 0 23 hour && isTwoDigits 0 59 minute && isTwoDigits 0 60 second
      && match fraction with
        | [] => true
        | c :: digits => c = '.' && !digits.isEmpty && digits.all Char.isDigit
  | _, _ => false

/-- Whether a text is the distance of a time zone. -/
def isZone : List Char → Bool
  | ['Z'] => true
  | ['z'] => true
  | sign :: s =>
    (sign = '+' || sign = '-') &&
      match splitAll (fun c => c = ':') s with
      | [hour, minute] => isTwoDigits 0 23 hour && isTwoDigits 0 59 minute
      | _ => false
  | [] => false

/-- Whether a text is a time of day, perhaps with a time zone. -/
def isZonedTime (s : List Char) : Bool :=
  let isClockChar (c : Char) : Bool := c.isDigit || c = ':' || c = '.'
  let zone := s.dropWhile isClockChar
  isTime (s.takeWhile isClockChar) && (zone.isEmpty || isZone zone)

/-- Whether a word is a date, a time of day, or both with a sign between them. -/
def isMoment (word : List Char) : Bool :=
  isDate word || isTime word ||
    (isDate (word.take 10) &&
      match word.drop 10 with
      | c :: time => (c = 'T' || c = 't' || c = ' ') && isZonedTime time
      | [] => false)

/-! ## Words -/

/-- The value that a word spells. -/
def wordValue? (word : List Char) : Option Toml :=
  if word = "true".toList then some (.bool true)
  else if word = "false".toList then some (.bool false)
  else if isMoment word then some .moment
  else (floatWord? word).or (integerWord? word)

/-- Takes a word off a text. A date takes a time behind a single space with it. -/
def splitWord (s : List Char) : List Char × List Char :=
  let (word, rest) := s.span isWordChar
  match rest with
  | ' ' :: c :: more =>
    if isDate word ∧ c.isDigit then
      let (time, rest) := (c :: more).span isWordChar
      (word ++ ' ' :: time, rest)
    else (word, rest)
  | _ => (word, rest)

/-- Reads a scalar that is no string. -/
def readWord (s : List Char) : Option (Toml × List Char) :=
  let (word, rest) := splitWord s
  (wordValue? word).map (·, rest)

end Toml

end MarkupGate
