import MarkupGate.Decimal.Fixed
import MarkupGate.Rule.Basic

/-!
# Colour contrast

The contrast of text against its background, as the ratio of their relative luminances. Only
colours written in hexadecimal are judged; declarations are read from `style` attributes and from
the innermost blocks of style sheets.
-/

namespace MarkupGate

/-- A colour, with channels from 0 to 255. -/
structure Color where
  red : Float
  green : Float
  blue : Float

namespace Color

/-- The linear intensity of one channel. -/
def linear (channel : Float) : Float :=
  let c := channel / 255.0
  if c ≤ 0.03928 then c / 12.92 else Float.pow ((c + 0.055) / 1.055) 2.4

/-- The relative luminance of a colour. -/
def luminance (c : Color) : Float :=
  0.2126 * linear c.red + 0.7152 * linear c.green + 0.0722 * linear c.blue

/-- The contrast ratio of two colours, from 1 to 21. -/
def contrast (a b : Color) : Float :=
  let la := a.luminance
  let lb := b.luminance
  if lb ≤ la then (la + 0.05) / (lb + 0.05) else (lb + 0.05) / (la + 0.05)

/-- The colour of a hexadecimal notation with three or six digits; a single digit stands for two
equal ones. -/
def ofHex? : List Char → Option Color
  | '#' :: digits =>
    match digits.mapM hexValue? with
    | some [r, g, b] => some ⟨.ofNat (17 * r), .ofNat (17 * g), .ofNat (17 * b)⟩
    | some [r, r', g, g', b, b'] =>
      some ⟨.ofNat (16 * r + r'), .ofNat (16 * g + g'), .ofNat (16 * b + b')⟩
    | _ => none
  | _ => none

end Color

/-! ## Declarations -/

/-- Takes a word off the end of a text as often as it stands there, given the text reversed. -/
def dropSuffixes (word : List Char) (reversed : List Char) : List Char :=
  if word.isEmpty then reversed
  else if word.reverse.isPrefixOf reversed then
    dropSuffixes word (reversed.drop word.length)
  else reversed
termination_by reversed.length
decreasing_by
  rename_i hne hpre
  obtain ⟨t, rfl⟩ := List.isPrefixOf_iff_prefix.1 hpre
  have : 0 < word.length := by
    cases word <;> simp_all
  simp
  omega

/-- The properties and values of a declaration block. A value is trimmed and loses its marks of
importance; what has no colon is no declaration. -/
def declarations (block : List Char) : List (List Char × List Char) :=
  (splitAll (· = ';') block).filterMap fun declaration =>
    (breakOn? [':'] declaration).map fun (property, value) =>
      let plain := (dropSuffixes "!important".toList (trim value).reverse).reverse
      (asciiLower (trim property), trim plain)

/-- A colour with its notation. -/
abbrev NotedColor := List Char × Color

/-- The colour of the text in a block: the value of its last `color` declaration, if that is a
colour. -/
def foreground? (block : List Char) : Option NotedColor := do
  let (_, value) ←
    (declarations block).reverse.find? fun d => d.1 = "color".toList
  let color ← Color.ofHex? value
  some (value, color)

/-- The colour of the background in a block: the first colour in the value of its last background
declaration. -/
def background? (block : List Char) : Option NotedColor := do
  let (_, value) ← (declarations block).reverse.find? fun d =>
    d.1 = "background-color".toList || d.1 = "background".toList
  (words value).findSome? fun w => (Color.ofHex? w).map fun color => (w, color)

/-- The lowest contrast ratio at which text is easy to read. -/
def minimumContrast : Float := 4.5

/-- What is wrong with the contrast in a block, if both colours are known and too close. -/
def contrastFault? (block : List Char) : Option String := do
  let (fgText, fg) ← foreground? block
  let (bgText, bg) ← background? block
  let ratio := fg.contrast bg
  if ratio < minimumContrast then
    some ("Low contrast " ++ String.ofList (fixedText 2 ratio) ++ ":1 between "
      ++ String.ofList fgText ++ " and " ++ String.ofList bgText ++ " (minimum 4.5:1)")
  else none

/-- The innermost blocks of a style sheet from an offset on, each with the offset of its opening
brace. `open?` is the block that is open, its text reversed. -/
def blocksFrom (offset : Nat) (open? : Option (Nat × List Char)) :
    List Char → List (Nat × List Char)
  | [] => []
  | c :: cs =>
    let next := offset + c.utf8Size
    if c = '{' then blocksFrom next (some (offset, [])) cs
    else if c = '}' then
      (open?.map fun (start, text) => (start, text.reverse)).toList ++ blocksFrom next none cs
    else blocksFrom next (open?.map fun (start, text) => (start, c :: text)) cs

/-- The innermost blocks of a style sheet with the offsets of their opening braces. -/
def styleBlocks (css : List Char) : List (Nat × List Char) := blocksFrom 0 none css

end MarkupGate
