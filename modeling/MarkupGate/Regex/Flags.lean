import MarkupGate.Regex.CharSet

/-!
# Flags of search patterns

What can be switched inside a pattern, how the letters for it are read, and the one switch that
changes the notation itself: in a verbose pattern, blanks and the comments from a `#` to the end of
the line are left out between the parts of the notation.
-/

namespace MarkupGate

namespace Regex

/-- What can be switched inside a pattern. -/
structure Flags where
  /-- letters match in any case -/
  ignoreCase : Bool := false
  /-- anchors match at lines -/
  multiLine : Bool := false
  /-- a dot matches line breaks too -/
  dotAll : Bool := false
  /-- repetitions are lazy unless marked -/
  lazy : Bool := false
  /-- classes, word edges and cases are those of ASCII -/
  ascii : Bool := false
  /-- lines end at a carriage return, a line feed or both -/
  carriageReturn : Bool := false
  /-- blanks and comments mean nothing -/
  verbose : Bool := false

namespace Flags

/-- The flags with one of them set. -/
def set (f : Flags) (letter : Char) (value : Bool) : Option Flags :=
  match letter with
  | 'i' => some { f with ignoreCase := value }
  | 'm' => some { f with multiLine := value }
  | 's' => some { f with dotAll := value }
  | 'U' => some { f with lazy := value }
  | 'u' => some { f with ascii := !value }
  | 'R' => some { f with carriageReturn := value }
  | 'x' => some { f with verbose := value }
  | _ => none

/-- Reads flags up to a colon or a closing parenthesis, which is given with the rest. `used` holds
the letters read so far; with a dash among them, further flags are switched off. -/
def read (f : Flags) (used : List Char) : List Char → Option (Flags × Char × List Char)
  | [] => none
  | c :: cs =>
    if c = ':' || c = ')' then
      if used.head? = some '-' || (c = ')' && used.isEmpty) then none else some (f, c, cs)
    else if used.contains c then none
    else if c = '-' then f.read (c :: used) cs
    else
      match f.set c (!used.contains '-') with
      | some f => f.read (c :: used) cs
      | none => none

/-- The set closed under case, if the flags ask for it. -/
def fold (f : Flags) (s : CharSet) : CharSet :=
  if !f.ignoreCase then s else if f.ascii then s.foldAsciiCase else s.foldCase

/-- The set under the flags, negated or not; nothing if only ASCII can be matched and it has other
members. -/
def closed? (f : Flags) (negated : Bool) (s : CharSet) : Option CharSet :=
  let s := if negated then (f.fold s).compl else f.fold s
  if f.ascii && !s.isAscii then none else some s

end Flags

/-! ## Verbose patterns -/

/-- Leaves out blanks and comments, from inside a comment or not. -/
def skipNotes (inComment : Bool) : List Char → List Char
  | [] => []
  | c :: cs =>
    if inComment then skipNotes (c ≠ '\n') cs
    else if isBlankChar c then skipNotes false cs
    else if c = '#' then skipNotes true cs
    else c :: cs

/-- Leaves out what means nothing under the flags. -/
def Flags.skip (f : Flags) (s : List Char) : List Char := if f.verbose then skipNotes false s else s

/-- Reads at most `limit` characters of one kind, and leaves out what means nothing before each and,
unless the limit is reached, behind the last. -/
def Flags.readRun (f : Flags) (wanted : Char → Bool) :
    Nat → Bool → List Char → List Char × List Char
  | _, _, [] => ([], [])
  | limit, inComment, c :: cs =>
    if inComment then f.readRun wanted limit (c ≠ '\n') cs
    else if limit = 0 then ([], c :: cs)
    else if wanted c then
      let (run, rest) := f.readRun wanted (limit - 1) false cs
      (c :: run, rest)
    else if f.verbose && isBlankChar c then f.readRun wanted limit false cs
    else if f.verbose && c = '#' then f.readRun wanted limit true cs
    else ([], c :: cs)

end Regex

end MarkupGate
