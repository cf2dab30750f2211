import SourceAudit.Result.Rating
import SourceAudit.Score.Rating
import SourceAudit.Violation.Merge

/-!
  Advice on violations: one piece for each, by the first word of a rule that its
  message has. With it a finished result has all its judgements.
-/
namespace SourceAudit
namespace Advice

/-- The rules in order: a word to look for, and what to do. -/
def rules : List (String × String) := [
  ("null", "Ensure the variable is checked for null before use."),
  ("array", "Verify the array index is within valid bounds."),
  ("division", "Add a check to prevent division by zero."),
  ("json", "Wrap parsing calls in error handling to survive invalid input."),
  ("file", "Handle file system errors and release file handles deterministically."),
  ("cast", "Check the runtime type before casting."),
  ("throw", "Catch the exception or declare it so callers can handle it."),
  ("raise", "Catch the exception or document it so callers can handle it."),
  ("promise", "Attach error handling to awaited promises."),
  ("error handling", "Wrap risky code with try-catch blocks to prevent runtime crashes."),
  ("magic number", "Replace magic numbers with named constants for better code clarity."),
  ("unused variable", "Remove unused variables to reduce clutter and improve readability."),
  ("duplicate code", "Refactor duplicated logic into reusable functions."),
  ("long function", "Break large functions into smaller, focused units."),
  ("nesting",
    "Consider refactoring nested blocks into separate functions to improve readability."),
  ("comment", "Add function or class-level documentation to improve code understanding."),
  ("variable name", "Rename variables or functions to be more descriptive and intuitive."),
  ("unreachable", "Remove unreachable or obsolete code to keep the codebase clean."),
  ("debug", "Remove debug output before shipping or route it through a logger."),
  ("todo", "Resolve outstanding TODO items or move them to the issue tracker.")]

/-- What to do about a message. -/
def suggestion (message : String) : String :=
  let low := Message.small message
  match rules.find? fun rule => Text.holds rule.1.toList low with
  | some rule => rule.2
  | none => "Review and improve this \"" ++ message ++ "\" issue for better code quality."

/-- The advice on a violation. -/
def ofIssue (i : Issue) : Recommendation where
  rule := i.message
  suggestion := suggestion i.message
  category := if i.category.isEmpty then "General" else i.category
  line := some i.line

end Advice

namespace Score

/-- The advice on violations, one piece each. -/
def recommend (issues : List Issue) : List Recommendation := issues.map Advice.ofIssue

end Score

namespace AnalysisResult

/-- The overall score of a result. -/
def overallScore (r : AnalysisResult) : Rat :=
  Score.overall (Score.maintainability r.metrics) r.metrics.cyclomaticComplexity
    (Score.reliability r)

/-- The result with its ratings, grade, summary, insights and advice. -/
def scored (r : AnalysisResult) : AnalysisResult :=
  let index := Score.maintainability r.metrics
  let reliability := Score.reliability r
  let score := r.overallScore
  { r with
    cyclomaticRating := some (Score.rateCyclomatic r.metrics)
    maintainabilityRating := some (Score.rateMaintainability r.metrics index)
    reliabilityRating := some (Score.rateReliability r reliability)
    overallGrade := Score.scoreGrade score
    summary := Score.summarize r index score
    insights := Score.insights r index
    recommendations := Score.recommend r.violations.lineReferences }

end AnalysisResult

end SourceAudit
