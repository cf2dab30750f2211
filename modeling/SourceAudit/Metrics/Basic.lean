import SourceAudit.Metrics.FunctionSpan
import SourceAudit.Number.Rounding

/-!
  Sizes of a source: lines, comments, functions, depth of blocks and the number
  of independent paths (one more than the branches). Percentages and means have
  two decimal places.
-/
namespace SourceAudit

/-- The sizes of a source. -/
structure Metrics where
  linesOfCode : Int := 0
  codeLines : Int := 0
  commentLines : Int := 0
  commentPercentage : Rat := 0
  functionCount : Int := 0
  averageFunctionLength : Rat := 0
  maxNestingDepth : Int := 0
  cyclomaticComplexity : Int := 1
  functions : List FunctionSpan := []
  deriving DecidableEq, Repr, Inhabited

namespace Metrics

/-- The number of independent paths. -/
def cyclomatic (p : Prepared) : Nat :=
  match p.language.branches with
  | [] => 1
  | branches => 1 + (Pattern.firstOf branches).count p.masked

/-- Comment lines in per cent of the lines that are not blank. -/
def commentShare (p : Prepared) : Rat :=
  if p.codeLineCount == 0 then 0
  else Number.toBinary (Number.ratio p.commentLineCount p.codeLineCount * 100)

/-- The mean length of functions. -/
def meanLength (functions : List FunctionSpan) : Rat :=
  if functions.isEmpty then 0
  else
    let total : Int := (functions.map FunctionSpan.length).foldr (· + ·) 0
    Number.toBinary ((total : Rat) / (functions.length : Rat))

/-- The greatest depth after a line or opened on one. -/
def maxDepth (depths : List Depth) : Nat := depths.foldl (fun n d => max n (max d.after d.peak)) 0

/-- The sizes of a source whose function blocks open within `patience` lines. -/
def ofSource (p : Prepared) (patience : Int) : Metrics :=
  if p.isBlank then {}
  else
    let functions := FunctionSpan.all p patience
    { linesOfCode := p.lines.length
      codeLines := p.codeLineCount
      commentLines := p.commentLineCount
      commentPercentage := Number.toHundredths (commentShare p)
      functionCount := functions.length
      averageFunctionLength := Number.toHundredths (meanLength functions)
      maxNestingDepth := maxDepth p.depths
      cyclomaticComplexity := cyclomatic p
      functions := functions }

end Metrics
end SourceAudit
