import SourceAudit.Number.Rounding
import SourceAudit.Result.Basic

/-!
  The report as a Markdown document. Sections without contents are left out,
  apart from those on metrics, complexity, violations and security.
-/
namespace SourceAudit
namespace Markdown

/-- A row of a table. -/
def row (cells : List String) : String := "| " ++ " | ".intercalate cells ++ " |"

/-- A table. -/
def table (header : List String) (rows : List (List String)) : List String :=
  row header :: ("|" ++ String.join (header.map fun _ => "---|")) :: rows.map row

/-- A section with a heading. -/
def titled (title : String) (lines : List String) : List String :=
  ["", "## " ++ title, ""] ++ lines

/-- A section that is left out if it is empty. -/
def titledUnlessEmpty (title : String) (lines : List String) : List String :=
  if lines.isEmpty then [] else titled title lines

/-- The heading of the document and the grade. -/
def heading (r : AnalysisResult) (name : String) : List String := [
  "# codelens report: " ++ name,
  "",
  "**Language:** " ++ r.language ++ " (confidence " ++ toString r.detection.confidence ++ ")  ",
  "**Overall grade:** " ++ r.overallGrade.letter ++ " (score " ++
    toString r.summary.overallScore ++ ", priority " ++ r.summary.priority.name ++ ")"]

/-- The metrics. -/
def metrics (m : Metrics) : List String :=
  table ["Metric", "Value"] [
    ["Lines of code", toString m.linesOfCode],
    ["Code lines", toString m.codeLines],
    ["Comment lines",
      toString m.commentLines ++ " (" ++ Number.fixedText 1 m.commentPercentage ++ "%)"],
    ["Functions", toString m.functionCount],
    ["Average function length", Number.fixedText 1 m.averageFunctionLength],
    ["Max nesting depth", toString m.maxNestingDepth],
    ["Cyclomatic complexity", toString m.cyclomaticComplexity]]

/-- An estimate with its reasons. -/
def estimate (label : String) (e : Estimate) : List String :=
  ("- **" ++ label ++ ":** " ++ e.growth.text ++ " (" ++ e.confidence.name ++ ") - " ++
      e.description) ::
    e.factors.map ("  - " ++ ·)

/-- The violations. -/
def violations (r : ViolationReport) : List String :=
  [r.summary, "", r.markdown] ++
    if r.lineReferences.isEmpty then []
    else
      "" :: table ["Line", "Severity", "Category", "Message"] (r.lineReferences.map fun i =>
        [toString i.line, i.severity.name, i.category, i.message])

/-- A vulnerability. -/
def vulnerability (f : SecurityFinding) : String :=
  let place := match f.line with
    | some n => if n == 0 then "" else " (line " ++ toString n ++ ")"
    | none => ""
  "- **" ++ String.ofList (f.severity.name.toList.map Char.toUpper) ++ "** " ++ f.title ++ place ++
    " [" ++ f.weakness ++ "] - " ++ f.suggestion

/-- The vulnerabilities. -/
def security (r : SecurityReport) : List String :=
  ("Score " ++ toString r.score ++ " (" ++ r.grade ++ "): " ++ r.summary) ::
    r.findings.map vulnerability

/-- The test cases. -/
def tests (ts : List TestSkeleton) : List String :=
  if ts.isEmpty then []
  else
    table ["Name", "Category", "Priority", "Input", "Expected"] (ts.map fun t =>
      [t.name, t.category, t.priority, "\x60" ++ t.input ++ "\x60", t.expected])

/-- A piece of advice. -/
def advice (r : Recommendation) : String := "- Line " ++ r.place ++ ": " ++ r.suggestion

/-- The figures that a remote service gave. -/
def assessment (a : RemoteAssessment) : List String := [
  "- Time " ++ a.timeComplexity ++ ", space " ++ a.spaceComplexity ++ ", cyclomatic " ++
    toString a.cyclomaticComplexity,
  "- Maintainability " ++ toString a.maintainability ++ ", readability " ++
    toString a.readability ++ ", overall " ++ toString a.overallScore]

/-- The lines of the document. -/
def lines (r : AnalysisResult) (name : String) : List String :=
  heading r name ++ titled "Metrics" (metrics r.metrics) ++
    titled "Complexity" (estimate "Time" r.complexity.time ++
      estimate "Space" r.complexity.space) ++
    titled "Violations" (violations r.violations) ++
    titledUnlessEmpty "Syntax" (r.grammar.formatted.map ("- " ++ ·)) ++
    titled "Security" (security r.security) ++
    titledUnlessEmpty "Test Case Skeletons" (tests r.tests) ++
    titledUnlessEmpty "Recommendations" (r.recommendations.map advice) ++
    titledUnlessEmpty "Remote Assessment" (r.remote.toList.flatMap assessment)

/-- The document, with a line break at its end. -/
def document (r : AnalysisResult) (name : String) : String :=
  "\n".intercalate (lines r name) ++ "\n"

end Markdown
end SourceAudit
