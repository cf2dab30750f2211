import SourceAudit.Number.Rounding
import SourceAudit.Score.Basic

/-!
  Ratings, summary and insights from the scores of a result.
-/
namespace SourceAudit
namespace Score

/-- The rating of the number of paths. -/
def rateCyclomatic (m : Metrics) : QualityRating :=
  let paths := m.cyclomaticComplexity
  let many := decide (10 ≤ paths)
  { grade := cyclomaticGrade paths
    description := "Cyclomatic Complexity: " ++ toString paths
    score := paths
    issues := if many then [toString paths ++ " independent paths through the code"] else []
    improvements := if many then ["Split branching logic into smaller functions"] else [] }

/-- What lowers maintainability, with what helps. -/
def maintainabilityIssues (m : Metrics) : List (String × String) :=
  (if 20 < m.averageFunctionLength then
    [("Average function length " ++ Number.fixedText 0 m.averageFunctionLength ++ " lines",
      "Keep functions short and focused")] else []) ++
  (if 3 < m.maxNestingDepth then
    [("Nesting depth " ++ toString m.maxNestingDepth,
      "Flatten nested blocks with early returns")] else []) ++
  (if 20 < m.linesOfCode && m.commentPercentage < 10 then
    [("Comment density " ++ Number.fixedText 1 m.commentPercentage ++ "%",
      "Document intent of non-obvious code")] else [])

/-- The rating of maintainability. -/
def rateMaintainability (m : Metrics) (index : Int) : QualityRating where
  grade := maintainabilityGrade index
  description := "Maintainability Index: " ++ toString index
  score := index
  issues := (maintainabilityIssues m).map (·.1)
  improvements := (maintainabilityIssues m).map (·.2)

/-- A count with what is counted, unless it is zero. -/
def counted (n : Int) (what : String) : List String :=
  if n == 0 then [] else [toString n ++ what]

/-- The rating of reliability. -/
def rateReliability (r : AnalysisResult) (score : Int) : QualityRating where
  grade := scoreGrade score
  description := "Reliability Score: " ++ toString score
  score := score
  issues :=
    counted r.grammar.errors.length " syntax error(s)" ++
      counted r.security.findings.length " security finding(s)" ++
      counted r.violations.majorCount " major violation categories"

/-- A sentence, if it applies. -/
def said (applies : Bool) (sentence : String) : List String := if applies then [sentence] else []

/-- What is good about a result. -/
def strengths (r : AnalysisResult) (index : Int) : List String :=
  said r.grammar.errors.isEmpty "No syntax errors detected" ++
    said (decide (r.metrics.cyclomaticComplexity < 10)) "Low complexity" ++
    said (decide (70 < index)) "Good maintainability" ++
    said r.security.findings.isEmpty "No known vulnerability patterns"

/-- What is bad about a result. -/
def weaknesses (r : AnalysisResult) (index : Int) : List String :=
  counted r.grammar.errors.length " syntax error(s) found" ++
    counted r.grammar.warnings.length " warning(s) found" ++
    said (decide (15 < r.metrics.cyclomaticComplexity)) "High complexity" ++
    said (decide (index < 50)) "Poor maintainability"

/-- What can be done at once. -/
def quickFixes (r : AnalysisResult) : List String :=
  r.grammar.quickFixes.take 3 ++
    said (decide (15 < r.metrics.cyclomaticComplexity)) "Reduce function complexity" ++
    said (decide (0 < r.violations.majorCount)) "Fix major violations"

/-- What can be done in time. -/
def longTermGoals (r : AnalysisResult) (index : Int) : List String :=
  said (!r.grammar.suggestions.isEmpty) "Address style suggestions" ++
    said (decide (index < 70)) "Improve code maintainability" ++
    ["Add comprehensive test coverage"]

/-- How soon something has to be done about a result. -/
def urgency (r : AnalysisResult) : Urgency :=
  if !r.grammar.errors.isEmpty then .critical
  else if !r.grammar.warnings.isEmpty then .high
  else if 0 < r.violations.majorCount then .medium
  else .low

/-- The summary of a result with an index of maintainability and an overall score. -/
def summarize (r : AnalysisResult) (index : Int) (score : Rat) : Summary where
  overallScore := Number.toScore score
  strengths := strengths r index
  weaknesses := weaknesses r index
  quickFixes := quickFixes r
  longTermGoals := longTermGoals r index
  priority := urgency r

/-- The insights into a result. -/
def insights (r : AnalysisResult) (index : Int) : Insights :=
  let paths := r.metrics.cyclomaticComplexity
  let errors := r.grammar.errors.length
  let warnings := r.grammar.warnings.length
  let tests := r.tests.length
  { complexityLevel :=
      if paths < 5 then "simple" else if paths < 15 then "moderate"
      else if paths < 25 then "complex" else "very-complex"
    maintenanceEffort := if 70 < index then "low" else if 50 < index then "medium" else "high"
    testCoverage :=
      if 6 < tests then "excellent" else if 4 < tests then "good"
      else if 2 < tests then "fair" else "poor"
    readabilityScore := max 0 (100 - (errors : Int) * 20 - (warnings : Int) * 5)
    technicalDebt :=
      if errors != 0 then "very-high" else if 5 < warnings then "high"
      else if warnings != 0 then "medium" else "low" }

end Score
end SourceAudit
