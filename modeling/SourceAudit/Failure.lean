import SourceAudit.Config.Fault
import SourceAudit.Document.Display
import SourceAudit.Language.Registry

/-!
  What can go wrong, as callers are told: a sentence, and details by name. The
  text of a failure is the sentence, followed by the details in parentheses.
-/
namespace SourceAudit

/-- A failure by its cause. -/
inductive Failure where
  | general (message : String) (details : List (String × Value))
  | analysis (message : String) (details : List (String × Value))
  | configuration (message : String) (details : List (String × Value))
  | fileAccess (path reason : String)
  | unknownLanguage (cause : UnknownLanguage)
  | detector (name language reason : String)
  | invalidSetting (key value reason : String)
  | gateway (message url reason : String)
  | gatewayUnavailable (url reason : String) (status : Option Int)
  | gatewayTimeout (url seconds : String)
  | malformedResponse (url reason : String)

namespace Failure

/-- The sentence that reports a failure. -/
def message : Failure → String
  | general m _ | analysis m _ | configuration m _ => m
  | fileAccess path _ => "Cannot access file: " ++ path
  | unknownLanguage cause => "Unsupported language: " ++ cause.name.getD "None"
  | detector name _ _ => "Detector '" ++ name ++ "' failed"
  | invalidSetting key value _ => "Invalid configuration for " ++ key ++ ": " ++ value
  | gateway m _ _ => m
  | gatewayUnavailable url _ _ => "Enrichment service unavailable: " ++ url
  | gatewayTimeout _ seconds => "Enrichment request timed out after " ++ seconds ++ "s"
  | malformedResponse _ _ => "Malformed enrichment response"

/-- The address of a request and, unless it is empty, why it failed. -/
def requestDetails (url reason : String) : List (String × Value) :=
  ("url", .text url) :: if reason.isEmpty then [] else [("reason", .text reason)]

/-- The details of a failure, in order. -/
def details : Failure → List (String × Value)
  | general _ d | analysis _ d | configuration _ d => d
  | fileAccess path reason => [("filepath", .text path), ("reason", .text reason)]
  | unknownLanguage cause =>
    [("language", .textOrNull cause.name), ("supported", .text (", ".intercalate cause.known))]
  | detector name language reason =>
    [("detector", .text name), ("language", .text language), ("reason", .text reason)]
  | invalidSetting key value reason =>
    [("key", .text key), ("value", .text value), ("reason", .text reason)]
  | gateway _ url reason => requestDetails url reason
  | gatewayUnavailable url reason status =>
    requestDetails url reason ++ match status with
      | some n => [("status", .text (toString n))]
      | none => []
  | gatewayTimeout url _ => requestDetails url "timeout"
  | malformedResponse url reason => requestDetails url reason

/-- The text of a failure. -/
def text (f : Failure) : String :=
  let d := f.details
  if d.isEmpty then f.message
  else
    f.message ++ " (" ++ ", ".intercalate (d.map fun e => e.1 ++ "=" ++ e.2.shown) ++ ")"

/-- The failure of a configuration that cannot be loaded. -/
def ofConfig : ConfigFault → Failure
  | .invalidVariable name value reason => invalidSetting name value reason
  | fault => configuration fault.message []

end Failure
end SourceAudit
