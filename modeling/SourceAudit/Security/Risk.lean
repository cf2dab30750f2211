/-!
  Degrees of risk, with what each takes from a score, and the grades of scores.
-/
namespace SourceAudit

/-- How dangerous a finding is. -/
inductive Risk where
  | critical
  | high
  | medium
  | low
  | info
  deriving DecidableEq, Repr, Inhabited

namespace Risk

/-- The name of a degree. -/
def name : Risk → String
  | critical => "critical"
  | high => "high"
  | medium => "medium"
  | low => "low"
  | info => "info"

/-- All degrees, the gravest first. -/
def all : List Risk := [critical, high, medium, low, info]

/-- The degree of a name. -/
def ofName? (s : String) : Option Risk := all.find? fun r => r.name == s

/-- The place of a degree; the gravest has the highest. -/
def rank : Risk → Nat
  | critical => 4
  | high => 3
  | medium => 2
  | low => 1
  | info => 0

/-- What a finding of a degree takes from the score. -/
def penalty : Risk → Nat
  | critical => 25
  | high => 15
  | medium => 8
  | low => 3
  | info => 1

/-- Whether a finding of a degree has to be dealt with first. -/
def isUrgent (r : Risk) : Bool := r == critical || r == high

end Risk
end SourceAudit
