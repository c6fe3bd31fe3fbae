import MarkupGate.Decimal.Shortest
import MarkupGate.Toml.Quoted

/-!
# Writing configuration texts

A configuration text is written section by section, each under its header and with a blank line
before the next. A list of two or more strings has one string a line; a number with a fraction keeps
its point even when the fraction is zero.
-/

namespace MarkupGate

namespace Toml

/-- A value that is written. -/
inductive Setting where
  | integer (value : Nat)
  | float (value : Float)
  | string (value : String)
  | strings (values : List String)
  deriving Repr

namespace Setting

/-- The text of a value. -/
def text : Setting → List Char
  | .integer value => decimalDigits value
  | .float value => shortestText ".0" value
  | .string value => quoted value.toList
  | .strings [] => ['[', ']']
  | .strings [value] => '[' :: quoted value.toList ++ [']']
  | .strings values =>
    '[' :: values.flatMap (fun value => "\n    ".toList ++ quoted value.toList ++ [','])
      ++ ['\n', ']']

end Setting

/-- A header and the values below it. -/
structure Section where
  name : String
  settings : List (String × Setting)

namespace Section

/-- The text of one value with its name. -/
def line (name : String) (setting : Setting) : List Char :=
  name.toList ++ " = ".toList ++ setting.text ++ ['\n']

/-- The text of a section. -/
def text (s : Section) : List Char :=
  '[' :: s.name.toList ++ [']', '\n'] ++ s.settings.flatMap fun (name, setting) => line name setting

end Section

/-- The text of sections. -/
def write (sections : List Section) : List Char :=
  ['\n'].intercalate (sections.map Section.text)

end Toml

end MarkupGate
