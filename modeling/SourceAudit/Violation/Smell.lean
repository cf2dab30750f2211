import SourceAudit.Violation.Report

/-!
  The smells among the findings: those whose kind has guidance. A smell is
  given once for each kind and line, with the first message found there.
-/
namespace SourceAudit

/-- A smell with what to do about it and what it does. -/
structure Smell where
  type : String
  severity : Severity
  description : String
  line : Int
  suggestion : String := ""
  impact : String := ""
  deriving DecidableEq, Repr, Inhabited

/-- The smells of a source, counted and grouped. -/
structure SmellReport where
  smells : List Smell := []
  summary : List (String × Nat) := []
  categories : Groups Smell := []
  deriving DecidableEq, Repr, Inhabited

namespace Smell

/-- What to do about a kind of smell, and what it does. -/
structure Guidance where
  kind : String
  suggestion : String
  impact : String

/-- The kinds of smells. -/
def guidance : List Guidance := [
  ⟨"deep-nesting", "Extract nested logic into separate methods",
    "Reduces code readability and maintainability"⟩,
  ⟨"long-method", "Break down into smaller, focused methods",
    "Large methods are harder to understand and test"⟩,
  ⟨"magic-numbers", "Replace with named constant", "Magic numbers reduce code readability"⟩,
  ⟨"unused-variables", "Remove unused variable declaration",
    "Unused variables create code clutter"⟩,
  ⟨"duplicate-code", "Extract duplicated code into a reusable method",
    "Code duplication increases maintenance burden"⟩,
  ⟨"dead-code", "Remove unreachable code", "Dead code confuses readers and increases file size"⟩,
  ⟨"short-variable-name", "Rename to a descriptive identifier",
    "Short names hide the intent of the value"⟩,
  ⟨"debug-statement", "Remove debug output or route it through a logger",
    "Debug output clutters production logs"⟩,
  ⟨"todo-comment", "Resolve the pending work or track it in an issue",
    "Unresolved TODOs mark incomplete code"⟩]

/-- The groups of kinds. -/
def categories : List (String × String) := [
  ("deep-nesting", "Structural Issues"),
  ("long-method", "Structural Issues"),
  ("large-class", "Structural Issues"),
  ("duplicate-code", "Code Quality"),
  ("dead-code", "Code Quality"),
  ("magic-numbers", "Maintainability"),
  ("unused-variables", "Maintainability"),
  ("short-variable-name", "Maintainability")]

/-- The group of a kind. -/
def categoryOf (kind : String) : String := (categories.lookup kind).getD "General"

/-- The guidance for a kind. -/
def guidanceFor? (kind : String) : Option Guidance := guidance.find? fun g => g.kind == kind

/-- The smell of a finding, if its kind is one. -/
def ofFinding? (i : RawIssue) : Option Smell :=
  (guidanceFor? i.kind).map fun g => ⟨i.kind, i.severity, i.message, i.line, g.suggestion, g.impact⟩

/-- The smells of findings, the first of each kind and line; `seen` holds those met before. -/
def collect : List RawIssue → List (String × Int) → List Smell
  | [], _ => []
  | i :: rest, seen =>
    match ofFinding? i with
    | none => collect rest seen
    | some smell =>
      if seen.contains (i.kind, i.line) then collect rest seen
      else smell :: collect rest ((i.kind, i.line) :: seen)

end Smell

namespace SmellReport

/-- The number of smells of a severity. -/
def countOf (s : Severity) (smells : List Smell) : Nat := smells.countP fun x => x.severity == s

/-- The report on the smells of some findings, by line. -/
def ofFindings (raw : List RawIssue) : SmellReport :=
  let smells := Smell.collect (raw.mergeSort fun a b => decide (a.line ≤ b.line)) []
  { smells := smells
    summary := [("total", smells.length), ("major", countOf .major smells),
      ("minor", countOf .minor smells)]
    categories := Groups.byKey (fun s => Smell.categoryOf s.type) smells }

end SmellReport
end SourceAudit
