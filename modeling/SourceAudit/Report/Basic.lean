import SourceAudit.Document.JsonWriter
import SourceAudit.Report.Console
import SourceAudit.Report.Markdown
import SourceAudit.Report.Record
import SourceAudit.Text.Quoted

/-!
  Reports: the formats in which a result is shown, and the findings that make a
  check fail.
-/
namespace SourceAudit

/-- The format of a report. -/
inductive ReportFormat where
  | console
  | json
  | markdown
  deriving DecidableEq, Repr

namespace ReportFormat

/-- The name of a format. -/
def name : ReportFormat → String
  | console => "rich"
  | json => "json"
  | markdown => "markdown"

/-- All formats, by name. -/
def all : List ReportFormat := [json, markdown, console]

/-- The format of a name. -/
def ofName? (s : String) : Option ReportFormat := all.find? fun f => f.name == s

/-- What is said about a name that no format has. -/
def unknown (s : String) : String :=
  "Unknown formatter: " ++ Quoted.ofString s ++ ". Choose from: " ++
    ", ".intercalate (all.map name)

end ReportFormat

namespace AnalysisResult

/-- The report as a JSON text, with the time and the duration of the analysis. -/
def jsonText (r : AnalysisResult) (name timestamp : String) (duration : Rat) : String :=
  Json.indented 0 (.table (("source", .text name) ::
    (Record.resultAt timestamp duration r).entries))

end AnalysisResult

/-- Which findings make a check fail: grave ones, or any. -/
inductive FailOn where
  | major
  | any
  deriving DecidableEq, Repr

namespace FailOn

/-- The name of a choice. -/
def name : FailOn → String
  | major => "major"
  | any => "any"

/-- The choice of a name. -/
def ofName? (s : String) : Option FailOn := [major, any].find? fun f => f.name == s

/-- Whether a result makes a check fail. Syntax errors always do. -/
def fails : FailOn → AnalysisResult → Bool
  | major, r =>
    decide (0 < r.violations.majorCount) || r.security.findings.any (fun f => f.severity.isUrgent)
      || !r.grammar.errors.isEmpty
  | any, r =>
    decide (0 < r.violations.total) || !r.security.findings.isEmpty || !r.grammar.errors.isEmpty

end FailOn
end SourceAudit
