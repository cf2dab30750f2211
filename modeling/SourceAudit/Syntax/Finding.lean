/-!
  Findings about the syntax of a source, split by severity.
-/
namespace SourceAudit

/-- How grave a finding about syntax is. -/
inductive SyntaxSeverity where
  | error
  | warning
  | info
  deriving DecidableEq, Repr, Inhabited

/-- The name of a severity. -/
def SyntaxSeverity.name : SyntaxSeverity → String
  | error => "error"
  | warning => "warning"
  | info => "info"

/-- A finding about syntax. -/
structure SyntaxFinding where
  line : Int
  column : Int
  message : String
  severity : SyntaxSeverity
  type : String := "syntax"
  quickFix : Option String := none
  code : String := "SYNTAX_ISSUE"
  deriving DecidableEq, Repr

/-- The findings about the syntax of a source. -/
structure SyntaxReport where
  errors : List SyntaxFinding := []
  warnings : List SyntaxFinding := []
  suggestions : List SyntaxFinding := []
  deriving DecidableEq, Repr, Inhabited

namespace SyntaxReport

/-- The report on findings, in their order. -/
def ofFindings (fs : List SyntaxFinding) : SyntaxReport :=
  let ofSeverity := fun s => fs.filter fun f => f.severity == s
  { errors := ofSeverity .error, warnings := ofSeverity .warning, suggestions := ofSeverity .info }

/-- All findings, errors first. -/
def findings (r : SyntaxReport) : List SyntaxFinding := r.errors ++ r.warnings ++ r.suggestions

/-- A finding in one line. -/
def line (label : String) (f : SyntaxFinding) : String :=
  "Line " ++ toString f.line ++ ":" ++ toString f.column ++ " - " ++ label ++ ": " ++ f.message

/-- The errors and warnings, each in one line. -/
def formatted (r : SyntaxReport) : List String :=
  r.errors.map (line "Error") ++ r.warnings.map (line "Warning")

/-- The quick fixes of the findings that have one. -/
def quickFixes (r : SyntaxReport) : List String :=
  r.findings.filterMap fun f =>
    match f.quickFix with
    | none => none
    | some fix => if fix.isEmpty then none else some ("Line " ++ toString f.line ++ ": " ++ fix)

/-- What is found, in one sentence. -/
def verdict (errors warnings : Nat) : String :=
  if errors == 0 && warnings == 0 then "No syntax issues detected"
  else if errors != 0 then
    toString errors ++ " syntax error" ++ (if 1 < errors then "s" else "") ++ " found"
  else toString warnings ++ " warning" ++ (if 1 < warnings then "s" else "") ++ " found"

/-- The summary of a report by the library itself or by a remote service. -/
def summary (r : SyntaxReport) (remote : Bool) : String :=
  let errors := r.errors.length
  let warnings := r.warnings.length
  "Syntax check complete (" ++ (if remote then "remote" else "local") ++ ")\n" ++
    "Found: " ++ toString errors ++ " errors, " ++ toString warnings ++ " warnings, " ++
    toString r.suggestions.length ++ " suggestions\n" ++ verdict errors warnings

end SyntaxReport
end SourceAudit
