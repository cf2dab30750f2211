/-!
  Findings before they are merged: a line, a message, a severity and the kind
  of problem.
-/
namespace SourceAudit

/-- How grave a finding is. -/
inductive Severity where
  | major
  | minor
  deriving DecidableEq, Repr, Inhabited

/-- The name of a severity. -/
def Severity.name : Severity → String
  | major => "major"
  | minor => "minor"

/-- One finding of a detector. -/
structure RawIssue where
  line : Int
  message : String
  severity : Severity := .minor
  kind : String := ""
  deriving DecidableEq, Repr, Inhabited

end SourceAudit
