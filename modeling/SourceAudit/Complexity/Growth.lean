/-!
  Orders of growth, from the cheapest to the most expensive, with the way they
  are written and described.
-/
namespace SourceAudit

/-- An order of growth. -/
inductive Growth where
  | constant
  | logarithmic
  | linear
  | linearithmic
  | quadratic
  | cubic
  | quartic
  | exponential
  | factorial
  deriving DecidableEq, Repr, Inhabited

namespace Growth

/-- The place of an order among all, the cheapest first. -/
def rank : Growth → Nat
  | constant => 0
  | logarithmic => 1
  | linear => 2
  | linearithmic => 3
  | quadratic => 4
  | cubic => 5
  | quartic => 6
  | exponential => 7
  | factorial => 8

/-- How an order is written. -/
def text : Growth → String
  | constant => "O(1)"
  | logarithmic => "O(log n)"
  | linear => "O(n)"
  | linearithmic => "O(n log n)"
  | quadratic => "O(n²)"
  | cubic => "O(n³)"
  | quartic => "O(n⁴)"
  | exponential => "O(2^n)"
  | factorial => "O(n!)"

/-- What an order means for time. -/
def timeMeaning : Growth → String
  | constant => "Constant time - excellent performance"
  | logarithmic => "Logarithmic time - very efficient for large inputs"
  | linear => "Linear time - performance scales with input size"
  | linearithmic => "Linearithmic time - typical for efficient sorting algorithms"
  | quadratic => "Quadratic time - may become slow for large inputs"
  | cubic => "Cubic time - performance degrades quickly with input size"
  | quartic => "Quartic time - impractical beyond small inputs"
  | exponential => "Exponential time - avoid for large inputs"
  | factorial => "Factorial time - only suitable for very small inputs"

/-- What an order means for space. -/
def spaceMeaning : Growth → String
  | constant => "Constant space - minimal memory usage"
  | logarithmic => "Logarithmic space - efficient memory usage"
  | linear => "Linear space - memory scales with input size"
  | linearithmic => "Linearithmic space - moderate memory usage"
  | quadratic => "Quadratic space - significant memory requirements"
  | cubic => "Cubic space - high memory usage"
  | quartic => "Quartic space - very high memory usage"
  | exponential => "Exponential space - very high memory requirements"
  | factorial => "Factorial space - extreme memory usage"

theorem rank_injective {a b : Growth} (h : a.rank = b.rank) : a = b := by
  cases a <;> cases b <;> simp_all [rank]

end Growth
end SourceAudit
