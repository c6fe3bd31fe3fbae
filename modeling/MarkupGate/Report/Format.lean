import MarkupGate.Json.Printer
import MarkupGate.Report.Encoding

/-!
# Reports

A validation result written for programs, as JSON, or for people, as text for a terminal that may
be coloured. The text names the score, then lists the findings tier by tier, each with its line, its
cost and what to do about it, and ends in a summary.
-/

namespace MarkupGate

/-- How a result is written. -/
inductive ReportFormat where
  | json
  /-- text for a terminal, coloured or not -/
  | console (color : Bool)
  deriving DecidableEq, Repr

namespace ReportFormat

/-- The names of the formats. -/
def names : List String := ["json", "console"]

/-- The name of a format. -/
def name : ReportFormat → String
  | .json => "json"
  | .console _ => "console"

/-- The format of a name; text is coloured unless asked otherwise. -/
def ofName (name : String) : Except ReportError ReportFormat :=
  match name with
  | "json" => .ok .json
  | "console" => .ok (.console true)
  | other => .error (.unknownFormat other)

end ReportFormat

/-! ## Text for a terminal -/

/-- What switches the colour of a tier on. -/
def Tier.colorStart : Tier → String
  | .error => "\x1b[31m"
  | .warning => "\x1b[33m"
  | .info => "\x1b[36m"

/-- What switches colours off. -/
def colorEnd : String := "\x1b[0m"

/-- The name of a tier in its colour. -/
def Tier.shown (color : Bool) (t : Tier) : String :=
  if color then t.colorStart ++ t.name ++ colorEnd else t.name

/-- The lines of one finding. -/
def Finding.shown (color : Bool) (f : Finding) : String :=
  let place := (f.line.map fun line => "line " ++ toString line).getD "document"
  let advice :=
    match f.suggestion with
    | none => ""
    | some s => "    Fix: " ++ s ++ (if f.fixable then " (auto-fixable)" else "") ++ "\n"
  "  " ++ f.severity.tier.shown color ++ " [" ++ f.ruleId ++ "] " ++ f.message ++ " (" ++ place
    ++ ", -" ++ toString f.weight ++ ")\n" ++ advice

/-- The findings of one tier under their heading; nothing if there are none. -/
def shownSection (color : Bool) (title : String) (findings : List Finding) : String :=
  if findings.isEmpty then ""
  else
    "\n" ++ title ++ " (" ++ toString findings.length ++ "):\n"
      ++ String.join (findings.map (Finding.shown color))

namespace ValidationResult

/-- The result as text for a terminal. -/
def shown (color : Bool) (r : ValidationResult) : String :=
  "Score: " ++ toString r.score ++ "/100  Grade: " ++ r.grade.name ++ "  Result: "
    ++ (if r.passed then "PASSED" else "FAILED") ++ "\n"
    ++ (if !r.passed && r.hasAutoFail then
        "Critical findings fail the document regardless of score.\n" else "")
    ++ shownSection color "Errors" r.errors
    ++ shownSection color "Warnings" r.warnings
    ++ shownSection color "Info" r.info
    ++ "\n--- Summary: " ++ toString r.errors.length ++ " errors, "
    ++ toString r.warnings.length ++ " warnings, " ++ toString r.info.length ++ " info ---\n"

/-- The result in a format. -/
def report (r : ValidationResult) : ReportFormat → String
  | .json => String.ofList r.toJson.pretty
  | .console color => r.shown color

end ValidationResult

end MarkupGate
