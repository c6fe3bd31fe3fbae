import MarkupGate.Regex.Flags
import MarkupGate.Text.Category
import MarkupGate.Text.Script

/-!
# Properties in search patterns

The sets of characters that a pattern names by a property: general categories and their groups,
scripts, and some properties that are true or false of a character. Names are compared without
regard to case, blanks, dashes and underscores, and may begin with `is`.

Patterns know the characters of Unicode 16.0, so what 17.0 added is still unassigned here.
-/

namespace MarkupGate

namespace Regex

/-! ## Names -/

/-- The form in which names of properties are compared. The one name that `is` really belongs to
keeps it. -/
def plainName (s : List Char) : String :=
  let letters (s : List Char) : List Char :=
    (s.filter fun c => c.toNat < 0x80 && c ≠ ' ' && c ≠ '_' && c ≠ '-').map Char.toLower
  match s with
  | 'i' :: 's' :: rest | 'I' :: 's' :: rest | 'i' :: 'S' :: rest | 'I' :: 'S' :: rest =>
    let name := String.ofList (letters rest)
    if name = "c" then "isc" else name
  | s => String.ofList (letters s)

/-- The property with a name. -/
def findProperty? (properties : List CharProperty) (name : String) : Option CharProperty :=
  properties.find? fun p => p.names.contains name

/-! ## Sets -/

/-- The code points of small letters outside the category of small letters. -/
def otherLowercaseRanges : List (Nat × Nat) :=
  [(0xaa, 0xaa), (0xba, 0xba), (0x2b0, 0x2b8), (0x2c0, 0x2c1), (0x2e0, 0x2e4), (0x345, 0x345),
  (0x37a, 0x37a), (0x10fc, 0x10fc), (0x1d2c, 0x1d6a), (0x1d78, 0x1d78), (0x1d9b, 0x1dbf),
  (0x2071, 0x2071), (0x207f, 0x207f), (0x2090, 0x209c), (0x2170, 0x217f), (0x24d0, 0x24e9),
  (0x2c7c, 0x2c7d), (0xa69c, 0xa69d), (0xa770, 0xa770), (0xa7f1, 0xa7f4), (0xa7f8, 0xa7f9),
  (0xab5c, 0xab5f), (0xab69, 0xab69), (0x10780, 0x10780), (0x10783, 0x10785), (0x10787, 0x107b0),
  (0x107b2, 0x107ba), (0x1e030, 0x1e06d)]

/-- The code points of capitals outside the category of capitals. -/
def otherUppercaseRanges : List (Nat × Nat) :=
  [(0x2160, 0x216f), (0x24b6, 0x24cf), (0x1f130, 0x1f149), (0x1f150, 0x1f169), (0x1f170, 0x1f189)]

/-- The code points of hexadecimal digits, full width ones among them. -/
def hexDigitRanges : List (Nat × Nat) :=
  [(0x30, 0x39), (0x41, 0x46), (0x61, 0x66), (0xff10, 0xff19), (0xff21, 0xff26), (0xff41, 0xff46)]

/-- The properties that are true or false of a character. -/
def binarySet? (name : String) : Option CharSet :=
  match name with
  | "alphabetic" | "alpha" => some (.ofTables [alphabeticRanges])
  | "lowercase" | "lower" => some (.ofTables [lowercaseLetterRanges, otherLowercaseRanges])
  | "uppercase" | "upper" => some (.ofTables [uppercaseLetterRanges, otherUppercaseRanges])
  | "cased" =>
    some (.ofTables [lowercaseLetterRanges, otherLowercaseRanges, uppercaseLetterRanges,
      otherUppercaseRanges, titlecaseLetterRanges])
  | "whitespace" | "wspace" | "space" => some .blank
  | "joincontrol" | "joinc" => some (.ofTables [joinControlRanges])
  | "asciihexdigit" | "ahex" => some (.ofTables [hexDigitRanges.take 3])
  | "hexdigit" | "hex" => some (.ofTables [hexDigitRanges])
  | _ => none

/-- The characters of a general category. -/
def categoryMembers (p : CharProperty) : CharSet :=
  if p.names.contains "cn" then .ofRanges (p.ranges ++ addedRanges) else .ofTables [p.ranges]

/-- The set of a general category, of a group of them, or of one of the names for larger sets. -/
def categorySet? (name : String) : Option CharSet :=
  match name with
  | "any" => some .all
  | "ascii" => some (.range '\x00' '\x7f')
  | "assigned" =>
    (findProperty? generalCategories "unassigned").map fun p => (categoryMembers p).compl
  | name =>
    match categoryGroups.find? fun g => g.1.contains name with
    | some (_, members) =>
      some (.unions ((members.filterMap (findProperty? generalCategories)).map categoryMembers))
    | none => (findProperty? generalCategories name).map categoryMembers

/-- The set of a script. -/
def scriptSet? (name : String) : Option CharSet :=
  (findProperty? scripts name).map fun p => .ofTables [p.ranges]

/-- The set of a property that is named without a value. Three names stand for categories though
they also are short for properties that have values. -/
def propertySet? (name : String) : Option CharSet :=
  let binary := if name = "cf" || name = "sc" || name = "lc" then none else binarySet? name
  (binary.or (categorySet? name)).or (scriptSet? name)

/-- The set of a property with a value. -/
def propertyValueSet? (name value : String) : Option CharSet :=
  match name with
  | "gc" | "generalcategory" => categorySet? value
  | "sc" | "script" => scriptSet? value
  | _ => none

/-! ## Reading -/

/-- The set of a property as it is written between braces. An exclamation mark before the equals
sign changes nothing. -/
def bracedSet? (s : List Char) : Option CharSet :=
  match s.span fun c => c ≠ ':' && c ≠ '=' with
  | (name, []) => propertySet? (plainName name)
  | (name, mark :: value) =>
    let name := if mark = '=' && name.getLast? = some '!' then name.dropLast else name
    propertyValueSet? (plainName name) (plainName value)

/-- Reads a property, negated or not, behind the letter of its escape. -/
def readProperty (f : Flags) (negated : Bool) (s : List Char) : Option (CharSet × List Char) := do
  if f.ascii then none
  else
    let (set, rest) ←
      match f.skip s with
      | '\x7b' :: rest =>
        match f.readRun (· ≠ '\x7d') rest.length false rest with
        | (name, '\x7d' :: rest) => do pure (← bracedSet? name, rest)
        | _ => none
      | c :: rest => do pure (← propertySet? (plainName [c]), f.skip rest)
      | [] => none
    pure (← f.closed? negated set, rest)

end Regex

end MarkupGate
