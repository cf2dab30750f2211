import SourceAudit.Complexity.Growth
import SourceAudit.Complexity.LoopDepth
import SourceAudit.Complexity.Recursion

/-!
  Estimates of time and space. Rules are applied one after the other; each may
  change the order of growth and adds a sentence that says why. Time: depth of
  loops, recursion, sorting, search, merging, matrices. Space: collections,
  tables, recursion, memory of earlier results.
-/
namespace SourceAudit

/-- How sure a judgement is. -/
inductive Certainty where
  | high
  | medium
  | low
  deriving DecidableEq, Repr, Inhabited

/-- The name of a certainty. -/
def Certainty.name : Certainty → String
  | high => "high"
  | medium => "medium"
  | low => "low"

/-- An estimate: the order of growth, how sure it is, what it means, and why. -/
structure Estimate where
  growth : Growth := .constant
  confidence : Certainty := .high
  description : String := ""
  factors : List String := []
  deriving DecidableEq, Repr, Inhabited

/-- The estimates for a source. -/
structure Complexity where
  time : Estimate := {}
  space : Estimate := {}
  deriving DecidableEq, Repr, Inhabited

namespace Estimate

/-- Adds a reason. -/
def because (e : Estimate) (reason : String) : Estimate :=
  { e with factors := e.factors ++ [reason] }

/-- Raises the order of growth to at least the given one. -/
def raiseTo (e : Estimate) (g : Growth) : Estimate :=
  if e.growth.rank < g.rank then { e with growth := g } else e

/-- Whether the order of growth is constant or linear. -/
def isSimple (e : Estimate) : Bool := e.growth == .constant || e.growth == .linear

/-- Names in a row. -/
def listed (names : List Text) : String := ", ".intercalate (names.map String.ofList)

/-! ## Time -/

/-- Calls of sorting functions, and names of sorting methods. -/
def sortForms : List Pattern := [
  .written r"\.sort\s*\(",
  .written r"\bArrays\.sort\b",
  .written r"\bCollections\.sort\b",
  .written r"\bsorted\s*\(",
  .written r"\bsort\s*\(",
  .writtenAnyCase "quicksort|mergesort|heapsort|bubblesort"]

/-- A bounded loop with a middle on one of the next lines, a middle of two bounds, or the name. -/
def binarySearchForms : List Pattern := [
  .written r"\bwhile\b[^\n]*<[^\n]*\n(?:[^\n]*\n)?(?:[^\n]*\n)?[^\n]*\b(?:mid|middle)\b",
  .written (r"\b(?:mid|middle)\s*=[^\n]*\b(?:left|low|lo|start)\b" ++
    r"[^\n]*\b(?:right|high|hi|end)\b"),
  .writtenAnyCase "binary_?search"]

/-- The name of the method, or a middle that is halved. -/
def divideForms : List Pattern := [
  .writtenAnyCase "divide.*conquer|conquer.*divide",
  .written r"\bmid\b[^\n]*(?:/\s*2|>>\s*1)"]

/-- The name of the method, or a merge of a left and a right part. -/
def mergeForms : List Pattern := [
  .writtenAnyCase "merge_?sort",
  .writtenAnyCase r"\bmerge\s*\([^\n]*\b(?:left|l)\b[^\n]*\b(?:right|r)\b"]

/-- The name of the operation, or an element of a collection of three dimensions. -/
def matrixForms : List Pattern := [
  .writtenAnyCase "matrix_?multipl",
  .written r"\w\s*\[[^\]\n]+\]\s*\[[^\]\n]+\]\s*\[[^\]\n]+\]"]

/-- The order of growth that a depth of loops gives. -/
def byLoops (depth : Nat) (names : List Text) (e : Estimate) : Estimate :=
  if 4 ≤ depth then
    ({ e with growth := .quartic }).because
      ("Quartic complexity detected (" ++ toString depth ++ "-level nested loops)")
  else if depth == 3 then
    (({ e with growth := .cubic }).because
      ("Cubic complexity from " ++ toString depth ++ "-level nested loops")).because
      ("Loop variables: " ++ listed names)
  else if depth == 2 then
    let e := ({ e with growth := .quadratic }).because "Quadratic complexity from nested loops"
    if names.isEmpty then e else e.because ("Independent variables: " ++ listed names)
  else if depth == 1 then
    ({ e with growth := .linear }).because "Linear complexity from single loops"
  else e

/-- Branching recursion is exponential, other recursion at least linear. -/
def byRecursion (r : Recursion) (e : Estimate) : Estimate :=
  if !r.branching.isEmpty then
    (({ e with growth := .exponential, confidence := .medium }).because
      "Exponential recursion detected (e.g., naive Fibonacci)").because
      "Heuristic: more than one self-call per body; additive branches may be O(n)"
  else if !r.recursive.isEmpty then (e.raiseTo .linear).because "Recursive calls detected"
  else e

/-- Sorting raises a simple estimate. -/
def bySorting (t : Text) (e : Estimate) : Estimate :=
  if e.isSimple && Pattern.anyOccurs sortForms t then
    ({ e with growth := .linearithmic }).because "Sorting operations detected"
  else e

/-- A search that halves its range replaces a simple estimate, or one from branching recursion. -/
def bySearch (t : Text) (r : Recursion) (e : Estimate) : Estimate :=
  if (e.isSimple || !r.branching.isEmpty) && Pattern.anyOccurs binarySearchForms t then
    ({ e with growth := .logarithmic, confidence := .high }).because
      "Binary search pattern detected"
  else if e.growth == .constant && Pattern.anyOccurs divideForms t then
    ({ e with growth := .logarithmic }).because
      "Binary search or divide-and-conquer pattern detected"
  else e

/-- A merge sort raises lower estimates, and replaces one from branching recursion. -/
def byMerging (t : Text) (r : Recursion) (e : Estimate) : Estimate :=
  if (!r.branching.isEmpty || decide (e.growth.rank < Growth.linearithmic.rank)) &&
      Pattern.anyOccurs mergeForms t then
    ({ e with growth := .linearithmic, confidence := .medium }).because
      "Merge sort or divide-and-conquer pattern detected"
  else e

/-- Work on matrices raises lower estimates. -/
def byMatrices (t : Text) (e : Estimate) : Estimate :=
  if decide (e.growth.rank < Growth.cubic.rank) && Pattern.anyOccurs matrixForms t then
    ({ e with growth := .cubic, confidence := .medium }).because
      "Matrix multiplication or 3D operations detected"
  else e

/-- The estimate of time. -/
def time (p : Prepared) (r : Recursion) : Estimate :=
  let t := p.masked
  let e := byLoops (LoopDepth.ofSource p) (LoopDepth.loopNames t) {}
  let e := bySorting t (byRecursion r e)
  let e := byMatrices t (byMerging t r (bySearch t r e))
  { e with description := e.growth.timeMeaning }

/-! ## Space -/

/-- New collections, and what adds to one. -/
def collectionForms : List Pattern := [
  .written r"\bnew\s+(?:Array|ArrayList|Vector|List|LinkedList)\b",
  .written r"=\s*\[\s*\]",
  .written r"\.(?:push|append)\s*\(",
  .written r"\b(?:list|array)\s*\(",
  .written r"\bstd::vector\b|\bVec::new\b|\bmake\s*\(\s*\["]

/-- New collections of two dimensions, and names for them. -/
def tableForms : List Pattern := [
  .written r"\[\s*\]\s*\[\s*\]",
  .written r"\bnew\s+\w+\s*\[\s*\w*\s*\]\s*\[\s*\w*\s*\]",
  .written r"\[\s*\[[^\]\n]*\]\s*for\b",
  .writtenAnyCase r"\b(?:matrix|grid)\b"]

/-- Names for what remembers earlier results. -/
def memoryForms : List Pattern := [
  .writtenAnyCase r"\b(?:memo\w*|cache\w*|dp)\s*\[",
  .writtenAnyCase r"\bmemo(?:ize|ization)?\b",
  .written r"\b(?:HashMap|Map|Dictionary)\b",
  .written r"@(?:functools\.)?(?:lru_cache|cache)\b"]

/-- Collections take linear space. -/
def byCollections (t : Text) (e : Estimate) : Estimate :=
  if Pattern.anyOccurs collectionForms t then
    ({ e with growth := .linear }).because "Dynamic arrays or lists allocated"
  else e

/-- Tables take quadratic space. -/
def byTables (t : Text) (e : Estimate) : Estimate :=
  if Pattern.anyOccurs tableForms t then
    ({ e with growth := .quadratic }).because "2D arrays or matrices allocated"
  else e

/-- Branching recursion takes exponential space, other recursion at least linear. -/
def byStack (r : Recursion) (e : Estimate) : Estimate :=
  if !r.branching.isEmpty then
    ({ e with growth := .exponential, confidence := .medium }).because
      "Exponential recursive calls (high stack usage)"
  else if !r.recursive.isEmpty && decide (e.growth.rank < Growth.linear.rank) then
    (e.raiseTo .linear).because "Recursive calls (linear stack usage)"
  else e

/-- Remembering takes at least linear space. -/
def byMemory (t : Text) (e : Estimate) : Estimate :=
  if Pattern.anyOccurs memoryForms t then
    (e.raiseTo .linear).because "Memoization detected (additional space for caching)"
  else e

/-- The estimate of space. -/
def space (p : Prepared) (r : Recursion) : Estimate :=
  let t := p.masked
  let e := byMemory t (byStack r (byTables t (byCollections t {})))
  { e with description := e.growth.spaceMeaning }

end Estimate

namespace Complexity

/-- The estimates for a source. -/
def ofSource (p : Prepared) : Complexity :=
  if p.isBlank then
    { time := { description := Growth.constant.timeMeaning }
      space := { description := Growth.constant.spaceMeaning } }
  else
    let r := Recursion.ofSource p
    { time := .time p r, space := .space p r }

end Complexity
end SourceAudit
