import SourceAudit.Number.Quantity
import SourceAudit.Result.Basic

/-!
  Scores of a result: maintainability, reliability, and both together with the
  number of paths. Every finding and every excess lowers a score. Scores that are
  fractions are computed step by step; `round` says what a step makes of its
  exact value.
-/
namespace SourceAudit
namespace Score

/-- The binary fraction nearest to a number of tenths. -/
def tenths (n : Nat) : Rat := Number.toBinary ((n : Rat) / 10)

/-- Maintainability before it is made whole: 100, less penalties for paths, long functions, deep
blocks and, in sources above 20 lines, few comments. -/
def maintainabilityWith (round : Rat → Rat) (m : Metrics) : Rat :=
  let afterPaths : Rat := 100 - ((max 0 (m.cyclomaticComplexity - 10) * 2 : Int) : Rat)
  let tooLong := Number.atLeastZero (round (m.averageFunctionLength - 20)) / 2
  let afterLength := round (afterPaths - tooLong)
  let afterDepth := round (afterLength - ((max 0 (m.maxNestingDepth - 3) * 5 : Int) : Rat))
  if 20 < m.linesOfCode && m.commentPercentage < 10 then
    round (afterDepth - round (10 - m.commentPercentage))
  else afterDepth

/-- The maintainability index, a whole number within 0 and 100. -/
def maintainability (m : Metrics) : Int := Number.toScore (maintainabilityWith Number.toBinary m)

/-- What excesses of structure take from reliability. -/
def structuralPenalty (m : Metrics) : Int :=
  (if 6 < m.maxNestingDepth then 5 else 0) + (if 8 < m.maxNestingDepth then 10 else 0) +
    (if 40 < m.averageFunctionLength then 5 else 0) +
    (if 60 < m.averageFunctionLength then 10 else 0) +
    (if m.commentPercentage < 5 then 5 else 0) +
    (if 15 < m.cyclomaticComplexity then 8 else 0) +
    (if 25 < m.cyclomaticComplexity then 15 else 0)

/-- What findings take from reliability. -/
def findingPenalty (r : AnalysisResult) : Int :=
  10 * r.violations.majorCount + 2 * r.violations.minorCount +
    5 * (SmellReport.countOf .major r.smells.smells : Int) +
    2 * (SmellReport.countOf .minor r.smells.smells : Int) +
    8 * (r.grammar.errors.length : Int) + 12 * (r.security.findings.length : Int) +
    4 * (r.performance.length : Int)

/-- Reliability: 100 less all penalties, and not below zero. -/
def reliability (r : AnalysisResult) : Int :=
  max 0 (100 - (findingPenalty r + structuralPenalty r.metrics))

/-- Four tenths maintainability, three tenths simplicity, three tenths reliability. -/
def overallWith (round : Rat → Rat) (maintainability paths reliability : Int) : Rat :=
  let kept := round (maintainability * tenths 4)
  let simple := round (round ((100 - paths * 5 : Int) : Rat) * tenths 3)
  round (round (kept + simple) + round (reliability * tenths 3))

/-- The penalties and scores that become fractions when a result is scored. -/
def quantities (r : AnalysisResult) : List Rat :=
  let m := r.metrics
  [((max 0 (m.cyclomaticComplexity - 10) * 2 : Int) : Rat),
    Number.atLeastZero (m.averageFunctionLength - 20),
    ((max 0 (m.maxNestingDepth - 3) * 5 : Int) : Rat),
    if 20 < m.linesOfCode && m.commentPercentage < 10 then 10 - m.commentPercentage else 0,
    ((100 - m.cyclomaticComplexity * 5 : Int) : Rat), (reliability r : Rat)]

/-- Whether a result can be scored: nothing in it is too large for a fraction. -/
def isMeasurable (r : AnalysisResult) : Bool := (quantities r).all Quantity.holds

/-- The overall score. -/
def overall (maintainability paths reliability : Int) : Rat :=
  overallWith Number.toBinary maintainability paths reliability

/-- The grade of a score: above each bound, the grade of that bound. -/
def band (first second third : Rat) (score : Rat) : Grade :=
  if first < score then .a else if second < score then .b else if third < score then .c else .d

/-- The grade of a number of paths. -/
def cyclomaticGrade (paths : Int) : Grade :=
  if paths < 10 then .a else if paths < 15 then .b else if paths < 20 then .c else .d

/-- The grade of a maintainability index. -/
def maintainabilityGrade (index : Int) : Grade := band 80 60 40 index

/-- The grade of a reliability or an overall score. -/
def scoreGrade (score : Rat) : Grade := band 85 70 50 score

end Score
end SourceAudit
