import MarkupGate.Regex.Match
import MarkupGate.Rule.Basic

/-!
# Secrets in page sources

The shapes of keys and tokens that must not be published, and how a text is scanned for them. All
patterns are searched for on their own; of matches that overlap, the one that starts first counts,
and of those that start together the longest.
-/

namespace MarkupGate

/-- A shape of secrets. -/
structure SecretShape where
  /-- what such a secret is called -/
  name : String
  pattern : Regex

namespace SecretShape

/-- Letters and digits, underscores and dashes. -/
def tokenChar : CharSet := .union .asciiAlphanumeric (.ofChars "_-")

/-- A segment of a signed token. -/
def tokenSegment : Regex := .atLeast 10 tokenChar

/-- Words that name a secret, in any case, some of them in two parts. -/
def secretWord : Regex :=
  let dash : Regex := .optional (.char (.ofChars "_-"))
  let word (s : String) : Regex := .textAnyCase s
  .alternation [
    .concat [word "api", dash, word "key"],
    .concat [word "secret", .optional (.concat [dash, word "key"])],
    .concat [word "client", dash, word "secret"],
    .concat [word "access", dash, word "token"],
    .concat [word "auth", dash, word "token"],
    word "token", word "password", word "passwd"]

/-- The built-in shapes. -/
def builtin : List SecretShape := [
  ⟨"AWS access key",
    .concat [.wordEdge, .oneOf ["AKIA", "ASIA"], .exactly 16 (.union .asciiDigit .capital),
      .wordEdge]⟩,
  ⟨"Stripe live key",
    .concat [.wordEdge, .oneOf ["sk", "rk"], .text "_live_", .atLeast 24 .asciiAlphanumeric]⟩,
  ⟨"GitHub token",
    .concat [.wordEdge, .text "gh", .char (.ofChars "pousr"), .text "_",
      .atLeast 36 .asciiAlphanumeric]⟩,
  ⟨"Google API key", .concat [.wordEdge, .text "AIza", .exactly 35 tokenChar]⟩,
  ⟨"Slack token",
    .concat [.wordEdge, .text "xox", .char (.ofChars "baprs"), .text "-",
      .atLeast 10 (.union .asciiAlphanumeric (.single '-'))]⟩,
  ⟨"private key",
    .concat [.text "-----BEGIN ",
      .optional (.oneOf ["RSA ", "EC ", "DSA ", "OPENSSH ", "PGP ", "ENCRYPTED "]),
      .text "PRIVATE KEY"]⟩,
  ⟨"JWT",
    .concat [.wordEdge, .text "eyJ", tokenSegment, .text ".eyJ", tokenSegment, .text ".",
      tokenSegment]⟩,
  ⟨"credential assignment",
    .concat [.wordEdge, secretWord, .optional (.char (.ofChars "\"'")), .anyOf .blank,
      .char (.ofChars ":="), .anyOf .blank, .char (.ofChars "\"'"),
      .atLeast 16 (.compl (.union (.ofChars "\"'") .blank)), .char (.ofChars "\"'")]⟩]

/-- The shape of a configured pattern, named after its place in the configuration. -/
def custom (place : Nat) (pattern : Regex) : SecretShape :=
  ⟨"custom pattern #" ++ toString (place + 1), pattern⟩

end SecretShape

/-- A place where a text matches the shape of a secret. -/
structure SecretHit where
  start : Nat
  stop : Nat
  /-- the name of the shape -/
  name : String
  deriving DecidableEq, Repr

namespace SecretHit

/-- Whether a hit comes first: it starts earlier, or it is no shorter from the same start. -/
def precedes (a b : SecretHit) : Bool :=
  a.start < b.start || (a.start = b.start && b.stop ≤ a.stop)

/-- Leaves out the hits that start before the end of one kept earlier, given where that is. -/
def disjointFrom (covered : Nat) : List SecretHit → List SecretHit
  | [] => []
  | h :: hs =>
    if h.start < covered then disjointFrom covered hs else h :: disjointFrom h.stop hs

end SecretHit

/-- All matches of some shapes in a text, shape by shape. -/
def allSecrets (shapes : List SecretShape) (s : List Char) : List SecretHit :=
  shapes.flatMap fun shape =>
    (shape.pattern.findAll s).map fun m => ⟨m.start, m.stop, shape.name⟩

/-- The secrets of a text from left to right, none of which overlaps another. -/
def secretsIn (shapes : List SecretShape) (s : List Char) : List SecretHit :=
  SecretHit.disjointFrom 0 ((allSecrets shapes s).mergeSort SecretHit.precedes)

end MarkupGate
