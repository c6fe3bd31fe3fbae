/-!
# Replacing every occurrence

`replaceAll` goes through a text from left to right and puts a replacement for each occurrence of a
pattern; what it has put in is not looked at again.
-/

namespace MarkupGate

/-- Replaces the occurrences of a pattern that is not empty, skipping `skip` characters first. -/
def replaceFrom (pattern replacement : List Char) (skip : Nat) : List Char → List Char
  | [] => []
  | c :: cs =>
    match skip with
    | n + 1 => replaceFrom pattern replacement n cs
    | 0 =>
      if pattern.isPrefixOf (c :: cs) then
        replacement ++ replaceFrom pattern replacement (pattern.length - 1) cs
      else c :: replaceFrom pattern replacement 0 cs

/-- The text with every occurrence of `pattern` replaced. -/
def replaceAll (pattern replacement s : List Char) : List Char :=
  replaceFrom pattern replacement 0 s

end MarkupGate
