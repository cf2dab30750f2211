/-!
  Judgements on a source: ratings with grades, a summary, insights, advice.
-/
namespace SourceAudit

/-- A grade, the best first. -/
inductive Grade where
  | a
  | b
  | c
  | d
  deriving DecidableEq, Repr, Inhabited

namespace Grade

/-- The letter of a grade. -/
def letter : Grade → String
  | a => "A"
  | b => "B"
  | c => "C"
  | d => "D"

/-- The place of a grade; the best has the lowest. -/
def rank : Grade → Nat
  | a => 0
  | b => 1
  | c => 2
  | d => 3

end Grade

/-- The rating of a source in one respect. -/
structure QualityRating where
  grade : Grade
  description : String
  score : Int := 0
  reason : String := ""
  issues : List String := []
  improvements : List String := []
  deriving DecidableEq, Repr, Inhabited

/-- How soon something has to be done. -/
inductive Urgency where
  | low
  | medium
  | high
  | critical
  deriving DecidableEq, Repr, Inhabited

/-- The name of an urgency. -/
def Urgency.name : Urgency → String
  | low => "low"
  | medium => "medium"
  | high => "high"
  | critical => "critical"

/-- What is good and bad about a source, and what to do. -/
structure Summary where
  overallScore : Int := 100
  strengths : List String := []
  weaknesses : List String := []
  quickFixes : List String := []
  longTermGoals : List String := []
  priority : Urgency := .low
  deriving DecidableEq, Repr, Inhabited

/-- Judgements in a word each. -/
structure Insights where
  complexityLevel : String := "simple"
  maintenanceEffort : String := "low"
  testCoverage : String := "poor"
  readabilityScore : Int := 100
  technicalDebt : String := "low"
  deriving DecidableEq, Repr, Inhabited

/-- Advice on a line. -/
structure Recommendation where
  rule : String
  suggestion : String
  category : String := "General"
  line : Option Int := none
  deriving DecidableEq, Repr

/-- The number of the line, or a word for none. -/
def Recommendation.place (r : Recommendation) : String :=
  match r.line with
  | some n => toString n
  | none => "None"

end SourceAudit
