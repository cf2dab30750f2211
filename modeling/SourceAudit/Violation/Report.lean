import SourceAudit.Violation.Merge

/-!
  The report on violations: how many categories of each severity there are, the
  violations by line and by category, a summary in one sentence, and the same
  as Markdown.
-/
namespace SourceAudit

/-- Things grouped by a name, groups and things in order of appearance. -/
abbrev Groups (α : Type) := List (String × List α)

namespace Groups

/-- Adds a thing to the group of a name; a new group comes last. -/
def add {α : Type} (name : String) (x : α) : Groups α → Groups α
  | [] => [(name, [x])]
  | (n, xs) :: rest => if n == name then (n, xs ++ [x]) :: rest else (n, xs) :: add name x rest

/-- Things grouped by a key. -/
def byKey {α : Type} (key : α → String) (xs : List α) : Groups α :=
  xs.foldl (fun groups x => add (key x) x groups) []

end Groups

/-- The report on violations. -/
structure ViolationReport where
  majorCount : Int := 0
  minorCount : Int := 0
  lineReferences : List Issue := []
  categories : Groups Issue := []
  summary : String := ""
  markdown : String := ""
  deriving DecidableEq, Repr, Inhabited

/-- What the Markdown text is written from: how many violations there are of each severity and
category, and the categories of either severity in order of appearance. -/
structure Tally where
  counts : List ((Severity × String) × Nat) := []
  major : List String := []
  minor : List String := []
  deriving DecidableEq, Repr, Inhabited

namespace Tally

/-- One more of a severity and category; a new pair comes last. -/
def count (pair : Severity × String) :
    List ((Severity × String) × Nat) → List ((Severity × String) × Nat)
  | [] => [(pair, 1)]
  | (known, n) :: rest =>
    if known == pair then (known, n + 1) :: rest else (known, n) :: count pair rest

/-- A category put behind those that have appeared, unless it is one of them. -/
def appear (category : String) (seen : List String) : List String :=
  if seen.contains category then seen else seen ++ [category]

/-- One more violation. -/
def add (t : Tally) (i : Issue) : Tally :=
  let counts := count (i.severity, i.category) t.counts
  match i.severity with
  | .major => { t with counts := counts, major := appear i.category t.major }
  | .minor => { t with counts := counts, minor := appear i.category t.minor }

/-- The tally of some violations. -/
def ofIssues (issues : List Issue) : Tally := issues.foldl add {}

/-- The categories of a severity. -/
def categories (t : Tally) : Severity → List String
  | .major => t.major
  | .minor => t.minor

/-- The number of violations of a severity and category. -/
def instances (t : Tally) (s : Severity) (category : String) : Nat :=
  ((t.counts.find? fun entry => entry.1 == (s, category)).map (·.2)).getD 0

end Tally

namespace ViolationReport

/-- The categories of either severity together. -/
def total (r : ViolationReport) : Int := r.majorCount + r.minorCount

/-- The categories of the violations of a severity, in order of appearance. -/
def categoriesOf (s : Severity) (issues : List Issue) : List String :=
  ((issues.filter fun i => i.severity == s).map (·.category)).eraseDups

/-- A word in the singular or the plural. -/
def counted (n : Nat) (one many : String) : String := if n == 1 then one else many

/-- The line of a category in the Markdown text. -/
def bullet (category : String) (n : Nat) : String :=
  "- **" ++ category ++ "** (" ++ toString n ++ " " ++ counted n "instance" "instances" ++ ")"

/-- The heading of a severity in the Markdown text. -/
def heading (title : String) (n : Nat) : String :=
  "### " ++ title ++ " Violations (" ++ toString n ++ ")"

/-- The lines on a severity in the Markdown text. -/
def severityLines (title : String) (s : Severity) (t : Tally) : List String :=
  heading title (t.categories s).length ::
    (t.categories s).map fun category => bullet category (t.instances s category)

/-- The Markdown text. -/
def markdownOf (issues : List Issue) : String :=
  let t := Tally.ofIssues issues
  "\n".intercalate (severityLines "Major" .major t ++ [""] ++ severityLines "Minor" .minor t)

/-- The summary. -/
def summaryOf (issues : List Issue) : String :=
  if issues.isEmpty then "No violations found"
  else
    let major := (categoriesOf .major issues).length
    let minor := (categoriesOf .minor issues).length
    toString major ++ " major and " ++ toString minor ++ " minor violation " ++
      counted (major + minor) "category" "categories" ++ " across " ++ toString issues.length ++
      " " ++ counted issues.length "line" "lines"

/-- The report on some violations. -/
def ofIssues (issues : List Issue) : ViolationReport where
  majorCount := (categoriesOf .major issues).length
  minorCount := (categoriesOf .minor issues).length
  lineReferences := issues
  categories := Groups.byKey (·.category) issues
  summary := summaryOf issues
  markdown := markdownOf issues

/-- The report on some findings. -/
def ofFindings (raw : List RawIssue) : ViolationReport := ofIssues (Merge.issues raw)

end ViolationReport
end SourceAudit
