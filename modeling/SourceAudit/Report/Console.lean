import SourceAudit.Report.Markup
import SourceAudit.Result.Basic

/-!
  The report on a console: what is printed, one after the other. Texts are
  markup; a panel has a title, and a table has columns and rows. Of an unexpected
  error the trace may be printed. Without their styles the items are lines of
  plain text.
-/
namespace SourceAudit

/-- Something printed on a console. -/
inductive ConsoleItem where
  | line (markup : String)
  | panel (body title : String)
  | table (title : Option String) (columns : List String) (rows : List (List String))
  | trace
  deriving DecidableEq, Repr

namespace ConsoleItem

/-- An empty line. -/
def gap : ConsoleItem := line ""

end ConsoleItem

namespace Console

open Markup ConsoleItem

/-- The styles of grades. -/
def gradeStyles : List (String × String) :=
  [("A", "green"), ("B", "cyan"), ("C", "yellow"), ("D", "red"), ("F", "red bold")]

/-- A grade in its style. -/
def gradeLabel (grade : String) : String :=
  styled ((gradeStyles.lookup grade).getD "white") grade

/-- A severity in its style. -/
def severityLabel : Severity → String
  | .major => styled "red" "major"
  | .minor => styled "yellow" "minor"

/-- The style of a degree of risk. -/
def riskStyle : Risk → String
  | .critical => "red bold"
  | .high => "red"
  | .medium => "yellow"
  | .low => "blue"
  | .info => "dim"

/-- A degree of risk in its style. -/
def riskLabel (r : Risk) : String := styled (riskStyle r) r.name

/-- An estimate in short. -/
def estimateLabel (e : Estimate) : String :=
  styled "bold" e.growth.text ++ " (" ++ e.confidence.name ++ ")"

/-- A label with blanks up to a width of sixteen. -/
def padded (label : String) : String :=
  label ++ String.ofList (List.replicate (16 - label.length) ' ')

/-- The panel that sums a result up. -/
def overview (r : AnalysisResult) (name : String) : ConsoleItem :=
  let origin := if r.remoteUsed then "remote + local" else "local"
  panel
    (styled "bold" (escape name) ++ "  |  " ++ styled "cyan" r.language ++ " (" ++
      toString r.detection.confidence ++ "%)  |  " ++ toString r.metrics.linesOfCode ++
      " lines, " ++ toString r.metrics.functionCount ++ " functions\nGrade " ++
      gradeLabel r.overallGrade.letter ++ " (score " ++ toString r.summary.overallScore ++
      ")  |  Time " ++ estimateLabel r.complexity.time ++ "  |  Space " ++
      estimateLabel r.complexity.space ++ "  |  Cyclomatic " ++
      toString r.metrics.cyclomaticComplexity ++ "  |  " ++ styled "dim" (origin ++ " analysis"))
    (styled "bold cyan" "codelens")

/-- The line of a rating, if there is one. -/
def ratingLine (label : String) (rating : Option QualityRating) : List ConsoleItem :=
  rating.toList.map fun q =>
    line ("  " ++ padded label ++ " " ++ gradeLabel q.grade.letter ++ "  " ++
      styled "dim" q.description)

/-- The overview and the ratings. -/
def summary (r : AnalysisResult) (name : String) : List ConsoleItem :=
  [overview r name, gap] ++ ratingLine "Cyclomatic" r.cyclomaticRating ++
    ratingLine "Maintainability" r.maintainabilityRating ++
    ratingLine "Reliability" r.reliabilityRating ++ [gap]

/-- The row of a violation. -/
def violationRow (i : Issue) : List String :=
  [toString i.line, severityLabel i.severity, i.category, escape i.message]

/-- The violations. -/
def violations (r : ViolationReport) : List ConsoleItem :=
  line (styled "bold" "Violations:" ++ " " ++ r.summary) ::
    if r.lineReferences.isEmpty then [gap]
    else
      [table none ["Line", "Severity", "Category", "Message"] (r.lineReferences.map violationRow),
        gap]

/-- A line that starts with an arrow. -/
def arrow (indent rest : String) : ConsoleItem := line (indent ++ styled "green" "->" ++ " " ++ rest)

/-- The lines of a vulnerability. -/
def vulnerability (f : SecurityFinding) : List ConsoleItem :=
  let place := match f.line with
    | some n => if n == 0 then "-" else "line " ++ toString n
    | none => "-"
  line ("  " ++ riskLabel f.severity ++ " " ++ escape f.title ++ " " ++
      styled "dim" ("(" ++ f.weakness ++ ", " ++ place ++ ")")) ::
    if f.suggestion.isEmpty then [] else [arrow "    " (escape f.suggestion)]

/-- The vulnerabilities. -/
def security (r : SecurityReport) : List ConsoleItem :=
  line (styled "bold" "Security:" ++ " score " ++ toString r.score ++ " (" ++ gradeLabel r.grade ++
      ")  " ++ r.summary) ::
    r.findings.flatMap vulnerability ++ [gap]

/-- The findings about syntax, if there are any. -/
def grammar (r : SyntaxReport) : List ConsoleItem :=
  if r.formatted.isEmpty then []
  else
    line (styled "bold" "Syntax:") ::
      r.formatted.map (fun f => line ("  " ++ styled "red" "!" ++ " " ++ escape f)) ++ [gap]

/-- The row of a test case. -/
def testRow (t : TestSkeleton) : List String :=
  [escape t.name, t.category, t.priority, escape t.input, escape t.expected]

/-- The test cases, if there are any. -/
def tests (ts : List TestSkeleton) : List ConsoleItem :=
  if ts.isEmpty then []
  else
    [table (some "Test Case Skeletons") ["Name", "Category", "Priority", "Input", "Expected"]
      (ts.map testRow), gap]

/-- The advice, if there is any. -/
def advice (rs : List Recommendation) : List ConsoleItem :=
  if rs.isEmpty then []
  else
    line (styled "bold" "Recommendations:") ::
      rs.map (fun r => arrow "  " ("Line " ++ r.place ++ ": " ++ escape r.suggestion)) ++
      [gap]

/-- The report on a result. -/
def report (r : AnalysisResult) (name : String) : List ConsoleItem :=
  summary r name ++ violations r.violations ++ security r.security ++ grammar r.grammar ++
    tests r.tests ++ advice r.recommendations

end Console

namespace Markup

/-- A text without its tags; the first argument is how many characters still belong to one. -/
def plainFrom : Nat → Text → Text
  | _, [] => []
  | inside + 1, _ :: rest => plainFrom inside rest
  | 0, c :: rest =>
    if c == '\\' && (tagLength? rest).isSome then
      match rest with
      | [] => []
      | d :: more => d :: plainFrom 0 more
    else
      match tagLength? (c :: rest) with
      | some n => plainFrom (n - 1) rest
      | none => c :: plainFrom 0 rest

/-- A text without its tags. -/
def plain (s : String) : String := String.ofList (plainFrom 0 s.toList)

end Markup

namespace ConsoleItem

/-- The lines of an item. -/
def plainLines : ConsoleItem → List String
  | line markup => [Markup.plain markup]
  | panel body title => [Markup.plain title, Markup.plain body]
  | table title columns rows =>
    title.toList ++ (columns :: rows).map fun row => " | ".intercalate (row.map Markup.plain)
  | trace => []

end ConsoleItem

end SourceAudit
