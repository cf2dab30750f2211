import SourceAudit.Complexity.Estimate
import SourceAudit.Language.Classifier
import SourceAudit.Metrics.Basic
import SourceAudit.Result.Rating
import SourceAudit.Security.Report
import SourceAudit.Skeleton.Basic
import SourceAudit.Syntax.Check
import SourceAudit.Violation.Smell

/-!
  The result of an analysis: what each analysis found, what a remote service
  added, and the judgements on it.
-/
namespace SourceAudit

/-- A remark on performance. -/
structure PerformanceFinding where
  message : String
  severity : Risk := .info
  line : Option Int := none
  suggestion : String := ""
  impact : String := ""
  deriving DecidableEq, Repr

/-- The figures that a remote service gives. -/
structure RemoteAssessment where
  cyclomaticComplexity : Int := 5
  timeComplexity : String := "O(n)"
  spaceComplexity : String := "O(1)"
  maintainability : Int := 70
  readability : Int := 75
  overallScore : Int := 70
  deriving DecidableEq, Repr, Inhabited

/-- The size class of a source. -/
inductive CodeSize where
  | small
  | medium
  | large
  deriving DecidableEq, Repr, Inhabited

namespace CodeSize

/-- The name of a size class. -/
def name : CodeSize → String
  | small => "small"
  | medium => "medium"
  | large => "large"

/-- The size class of a number of lines. -/
def ofLineCount (n : Int) : CodeSize := if n < 50 then small else if n < 200 then medium else large

end CodeSize

/-- The result of an analysis. -/
structure AnalysisResult where
  language : String
  detection : Detection
  metrics : Metrics := {}
  complexity : Complexity := {}
  violations : ViolationReport := {}
  smells : SmellReport := {}
  security : SecurityReport := {}
  tests : List TestSkeleton := []
  grammar : SyntaxReport := {}
  performance : List PerformanceFinding := []
  cyclomaticRating : Option QualityRating := none
  maintainabilityRating : Option QualityRating := none
  reliabilityRating : Option QualityRating := none
  overallGrade : Grade := .a
  summary : Summary := {}
  insights : Insights := {}
  recommendations : List Recommendation := []
  remote : Option RemoteAssessment := none
  codeSize : CodeSize := .small
  remoteUsed : Bool := false
  deriving DecidableEq, Repr

end SourceAudit
