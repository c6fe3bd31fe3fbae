/-!
# Tables of settings

The values of the text format in which configurations are written (TOML): scalars, arrays and
tables of named values. A table remembers how it came about, because that decides whether a later
line may still add to it:

* a table between braces is closed;
* a table with a header of its own takes the pairs under that header, and subtables;
* a table that was only passed through on the way to another one can still get its own header;
* a table made by a dotted key takes further dotted keys, but no header.

A name is given only once in a table: `insert?` refuses a second time.
-/

namespace MarkupGate

/-- How a table came about. -/
inductive TableOrigin where
  /-- written between braces -/
  | braces
  /-- under a header of its own -/
  | header
  /-- on the way to a table with a header -/
  | passed
  /-- on the way of a dotted key -/
  | dotted
  deriving DecidableEq, Repr

/-- A value in a configuration text. -/
inductive Toml where
  | string (value : String)
  | integer (value : Int)
  | float (value : Float)
  | bool (value : Bool)
  /-- a date, a time of day or both; what it says is not kept -/
  | moment
  | array (items : List Toml)
  | table (origin : TableOrigin) (entries : List (String × Toml))
  /-- the tables under a repeated header, the last one apart because it can still grow -/
  | tables (earlier : List (List (String × Toml))) (last : List (String × Toml))
  deriving Repr

namespace Toml

/-- The named values of a table, in the order in which they were given. -/
abbrev Table := List (String × Toml)

namespace Table

/-- The value of a name. -/
def value? (t : Table) (name : String) : Option Toml := t.lookup name

/-- Changes the value of a name, which may be absent; the rest of the table stays. -/
def alter? (name : String) (change : Option Toml → Option Toml) : Table → Option Table
  | [] => (change none).map fun v => [(name, v)]
  | (key, v) :: t =>
    if key = name then (change (some v)).map fun v => (key, v) :: t
    else (alter? name change t).map ((key, v) :: ·)

/-- Adds a new name. -/
def insert? (name : String) (v : Toml) (t : Table) : Option Table :=
  t.alter? name fun
    | none => some v
    | some _ => none

/-- Changes the table at the end of a path, given how the table at its start came about. Tables
that are missing on the way are made, as `made`; of the tables under a repeated header the last one
is meant. A dotted key does not enter a table that has its own header. -/
def within? (made : TableOrigin) (change : TableOrigin → Table → Option Table)
    (origin : TableOrigin) : List String → Table → Option Table
  | [], t => change origin t
  | name :: path, t =>
    t.alter? name fun
      | none => (within? made change made path []).map (.table made)
      | some (.table origin entries) =>
        if origin = .braces ∨ (origin = .header ∧ made = .dotted) then none
        else (within? made change origin path entries).map (.table origin)
      | some (.tables earlier last) => (within? made change .header path last).map (.tables earlier)
      | some _ => none

/-- Adds a value under a dotted key: the names before its last one lead to a table of dotted
keys. -/
def insertAt? (path : List String) (name : String) (v : Toml) (origin : TableOrigin) (t : Table) :
    Option Table :=
  let add (origin : TableOrigin) (t : Table) : Option Table :=
    if path = [] ∨ origin = .dotted then t.insert? name v else none
  t.within? .dotted add origin path

/-- Gives a header to a table, which is new or was only passed through so far. -/
def open? (name : String) (t : Table) : Option Table :=
  t.alter? name fun
    | none => some (.table .header [])
    | some (.table .passed entries) => some (.table .header entries)
    | some _ => none

/-- Begins one more table under a repeated header. -/
def append? (name : String) (t : Table) : Option Table :=
  t.alter? name fun
    | none => some (.tables [] [])
    | some (.tables earlier last) => some (.tables (earlier ++ [last]) [])
    | some _ => none

end Table

/-! ## Statements -/

/-- A dotted key: the last name and those before it. -/
structure Key where
  path : List String
  name : String
  deriving DecidableEq, Repr

namespace Key

/-- The names of a dotted key. -/
def names (k : Key) : List String := k.path ++ [k.name]

end Key

/-- What a line of a configuration text says. -/
inductive Statement where
  /-- a value for a key of the current table -/
  | pair (key : Key) (value : Toml)
  /-- the header of a table, which becomes the current one -/
  | table (key : Key)
  /-- a repeated header: one more table, which becomes the current one -/
  | tables (key : Key)

/-- What the lines so far say. -/
structure Outline where
  root : Table
  /-- the way to the current table -/
  current : List String

namespace Outline

/-- Takes in one more statement. -/
def add? (o : Outline) : Statement → Option Outline
  | .pair key v =>
    (o.root.within? .passed (fun origin t => t.insertAt? key.path key.name v origin) .header
      o.current).map fun root => ⟨root, o.current⟩
  | .table key =>
    (o.root.within? .passed (fun _ t => t.open? key.name) .header key.path).map fun root =>
      ⟨root, key.names⟩
  | .tables key =>
    (o.root.within? .passed (fun _ t => t.append? key.name) .header key.path).map fun root =>
      ⟨root, key.names⟩

end Outline

/-- The table that statements describe. -/
def Table.ofStatements? (statements : List Statement) : Option Table :=
  (statements.foldlM Outline.add? ⟨[], []⟩).map Outline.root

/-- The table between braces that holds some pairs. -/
def Table.ofPairs? (pairs : List (Key × Toml)) : Option Table :=
  pairs.foldlM (fun t (key, v) => t.insertAt? key.path key.name v .header) []

end Toml

end MarkupGate
