/-!
# Errors

What can go wrong, by activity. Every error has a message for people and a code for programs; the
codes never change.
-/

namespace MarkupGate

/-- Errors with a message and a stable code. -/
class CodedError (ε : Type) where
  /-- what went wrong, in words -/
  message : ε → String
  /-- the stable code of the kind of error -/
  code : ε → String

/-- The message of an error behind its code in brackets. -/
def CodedError.coded {ε : Type} [CodedError ε] (e : ε) : String :=
  "[" ++ code e ++ "] " ++ message e

/-- Errors in building a rule catalog. -/
inductive CatalogError where
  /-- a rule was given a search pattern that cannot be read -/
  | invalidPattern (ruleId message : String)
  /-- two rules have one identifier -/
  | duplicateRuleId (id : String)
  /-- a rule to leave out is not a built-in one -/
  | unknownRuleId (id : String)
  deriving DecidableEq, Repr

instance : CodedError CatalogError where
  message
    | .invalidPattern ruleId message =>
      "Invalid detection pattern for " ++ ruleId ++ ": " ++ message
    | .duplicateRuleId id => "Duplicate rule id: " ++ id
    | .unknownRuleId id => "Unknown rule id: " ++ id
  code
    | .invalidPattern .. => "INVALID_PATTERN"
    | .duplicateRuleId .. => "CATALOG_ERROR"
    | .unknownRuleId .. => "UNKNOWN_RULE"

/-- Errors in reading and checking a configuration. -/
inductive ConfigError where
  /-- a configuration file cannot be read -/
  | fileNotFound (path : String)
  /-- a configuration file is malformed -/
  | parseError (path message : String)
  /-- a setting has a value outside its range -/
  | validationFailed (field message : String)
  /-- an environment variable does not hold a number -/
  | invalidValue (field message : String)
  deriving DecidableEq, Repr

instance : CodedError ConfigError where
  message
    | .fileNotFound path => "Config file not found: " ++ path
    | .parseError path message => "Config parse error in " ++ path ++ ": " ++ message
    | .validationFailed field message =>
      "Config validation failed for " ++ field ++ ": " ++ message
    | .invalidValue field message => "Invalid config value for " ++ field ++ ": " ++ message
  code _ := "CONFIG_ERROR"

/-- Errors of a repair; a repair that fails is not applied. -/
inductive FixError where
  /-- the edits of a repair cannot be carried out -/
  | transformFailed (fix message : String)
  /-- a repair broke off -/
  | brokeOff (fix message : String)
  deriving DecidableEq, Repr

instance : CodedError FixError where
  message
    | .transformFailed fix message => "Fix " ++ fix ++ " failed: " ++ message
    | .brokeOff fix message => "Fix " ++ fix ++ " panicked: " ++ message
  code
    | .transformFailed .. => "FIX_FAILED"
    | .brokeOff .. => "FIX_PANIC"

/-- Errors in writing a report. -/
inductive ReportError where
  /-- a result cannot be written -/
  | serialization (message : String)
  /-- there is no report of this name -/
  | unknownFormat (format : String)
  deriving DecidableEq, Repr

instance : CodedError ReportError where
  message
    | .serialization message => "Serialization failed: " ++ message
    | .unknownFormat format => "Unknown report format: " ++ format
  code _ := "REPORT_ERROR"

/-- Errors of a rule; a rule that fails does not keep the others from running. -/
inductive RuleError where
  /-- a rule gave up -/
  | checkFailed (ruleId message : String)
  /-- a rule broke off -/
  | brokeOff (ruleId message : String)
  deriving DecidableEq, Repr

namespace RuleError

/-- The rule that failed. -/
def ruleId : RuleError → String
  | .checkFailed ruleId _ => ruleId
  | .brokeOff ruleId _ => ruleId

end RuleError

instance : CodedError RuleError where
  message
    | .checkFailed ruleId message => "Rule " ++ ruleId ++ " failed: " ++ message
    | .brokeOff ruleId message => "Rule " ++ ruleId ++ " panicked: " ++ message
  code
    | .checkFailed .. => "RULE_FAULT"
    | .brokeOff .. => "RULE_PANIC"

end MarkupGate
