import MarkupGate.Decimal.Reading

/-!
# JSON values

The values of the data format in which results are stored and exchanged. A number remembers whether
it was written as a plain integer, because a count written as `1.0` is no count; everything else
about its spelling is forgotten. The members of an object keep their order.
-/

namespace MarkupGate

/-- A JSON number. -/
inductive JsonNumber where
  /-- a number written without fraction, exponent or negative zero -/
  | integer (value : Int)
  /-- any other number: `mantissa` times ten to the `exponent`, negated on demand -/
  | decimal (negative : Bool) (mantissa : Nat) (exponent : Int)
  deriving DecidableEq, Repr

namespace JsonNumber

/-- The nearest double; negative zero keeps its sign. -/
def toFloat : JsonNumber → Float
  | integer value => if value < 0 then -nearestFloat value.natAbs 0 else nearestFloat value.natAbs 0
  | decimal negative mantissa exponent =>
    let size := nearestFloat mantissa exponent
    if negative then -size else size

end JsonNumber

/-- A JSON value. -/
inductive Json where
  | null
  | bool (value : Bool)
  | number (value : JsonNumber)
  | string (value : String)
  | array (items : List Json)
  | object (members : List (String × Json))
  deriving Repr

namespace Json

/-- The number of a count. -/
def ofNat (n : Nat) : Json := .number (.integer n)

/-- An absent value is `null`. -/
def ofOption {α : Type} (encode : α → Json) : Option α → Json
  | none => .null
  | some x => encode x

/-- The array of the encodings of a list. -/
def ofList {α : Type} (encode : α → Json) (xs : List α) : Json := .array (xs.map encode)

/-- The member of an object; of two with one name the later counts. -/
def member? (name : String) : Json → Option Json
  | .object members => (members.reverse.find? fun m => m.1 = name).map Prod.snd
  | _ => none

/-- The integer, if the value is a number written as one. -/
def integer? : Json → Option Int
  | .number (.integer value) => some value
  | _ => none

/-- The natural number, if the value is a number written as one. -/
def nat? (j : Json) : Option Nat := j.integer?.bind fun i => if i < 0 then none else some i.natAbs

/-- The text, if the value is a string. -/
def string? : Json → Option String
  | .string value => some value
  | _ => none

/-- The word that a value of an enumeration is written as: a string, or an object whose only member
has that name and is `null`. -/
def word? : Json → Option String
  | .string value => some value
  | .object members =>
    match members.reverse with
    | (name, .null) :: others => if others.all fun m => m.1 = name then some name else none
    | _ => none
  | _ => none

/-- The truth value, if the value is one. -/
def bool? : Json → Option Bool
  | .bool value => some value
  | _ => none

/-- The items, if the value is an array. -/
def array? : Json → Option (List Json)
  | .array items => some items
  | _ => none

/-- Reads every item of an array. -/
def list? {α : Type} (decode : Json → Option α) (j : Json) : Option (List α) :=
  j.array?.bind fun items => items.mapM decode

end Json

end MarkupGate
