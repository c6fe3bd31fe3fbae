import MarkupGate.Json.Value
import MarkupGate.Text.Digits

/-!
# Writing JSON

`Json.pretty` puts every item and member on a line of its own, two spaces deeper than what holds
it; `Json.compact` uses one line. Both escape quotes, backslashes and the control characters below
the space and nothing else, and both write an empty array as `[]`.
-/

namespace MarkupGate

namespace Json

/-- One character inside a JSON string. -/
def escapeChar (c : Char) : List Char :=
  if c = '"' then ['\\', '"']
  else if c = '\\' then ['\\', '\\']
  else if c = '\x08' then ['\\', 'b']
  else if c = '\t' then ['\\', 't']
  else if c = '\n' then ['\\', 'n']
  else if c = '\x0c' then ['\\', 'f']
  else if c = '\r' then ['\\', 'r']
  else if c.toNat < 0x20 then
    ['\\', 'u', '0', '0', hexDigit (c.toNat / 16), hexDigit (c.toNat % 16)]
  else [c]

/-- A JSON string with its quotes. -/
def quoted (s : List Char) : List Char := '"' :: s.flatMap escapeChar ++ ['"']

/-- The text of a number; one with an exponent is written with all its digits before it. -/
def numberText : JsonNumber → List Char
  | .integer value =>
    (if value < 0 then ['-'] else []) ++ decimalDigits value.natAbs
  | .decimal negative mantissa exponent =>
    (if negative then ['-'] else []) ++ decimalDigits mantissa ++ 'e' ::
      (if exponent < 0 then ['-'] else []) ++ decimalDigits exponent.natAbs

/-- A line feed and the indentation of a depth. -/
def newline (depth : Nat) : List Char := '\n' :: List.replicate (2 * depth) ' '

mutual

/-- The text of a value that stands at a depth, over several lines. -/
def prettyAt (depth : Nat) : Json → List Char
  | .null => "null".toList
  | .bool true => "true".toList
  | .bool false => "false".toList
  | .number n => numberText n
  | .string s => quoted s.toList
  | .array [] => ['[', ']']
  | .array (x :: xs) =>
    '[' :: newline (depth + 1) ++ prettyAt (depth + 1) x ++ prettyItems (depth + 1) xs
      ++ newline depth ++ [']']
  | .object [] => ['{', '}']
  | .object (m :: ms) =>
    '{' :: newline (depth + 1) ++ prettyMember (depth + 1) m ++ prettyMembers (depth + 1) ms
      ++ newline depth ++ ['}']

/-- The items of an array after the first, each behind a comma. -/
def prettyItems (depth : Nat) : List Json → List Char
  | [] => []
  | x :: xs => ',' :: newline depth ++ prettyAt depth x ++ prettyItems depth xs

/-- One member of an object. -/
def prettyMember (depth : Nat) : String × Json → List Char
  | (name, value) => quoted name.toList ++ ':' :: ' ' :: prettyAt depth value

/-- The members of an object after the first, each behind a comma. -/
def prettyMembers (depth : Nat) : List (String × Json) → List Char
  | [] => []
  | m :: ms => ',' :: newline depth ++ prettyMember depth m ++ prettyMembers depth ms

end

/-- The text of a value over several lines. -/
def pretty (j : Json) : List Char := prettyAt 0 j

mutual

/-- The text of a value on one line, without any space outside its strings. -/
def compact : Json → List Char
  | .null => "null".toList
  | .bool true => "true".toList
  | .bool false => "false".toList
  | .number n => numberText n
  | .string s => quoted s.toList
  | .array [] => ['[', ']']
  | .array (x :: xs) => '[' :: compact x ++ compactItems xs ++ [']']
  | .object [] => ['{', '}']
  | .object (m :: ms) => '{' :: compactMember m ++ compactMembers ms ++ ['}']

/-- The items of an array after the first, each behind a comma. -/
def compactItems : List Json → List Char
  | [] => []
  | x :: xs => ',' :: compact x ++ compactItems xs

/-- One member of an object. -/
def compactMember : String × Json → List Char
  | (name, value) => quoted name.toList ++ ':' :: compact value

/-- The members of an object after the first, each behind a comma. -/
def compactMembers : List (String × Json) → List Char
  | [] => []
  | m :: ms => ',' :: compactMember m ++ compactMembers ms

end

end Json

end MarkupGate
