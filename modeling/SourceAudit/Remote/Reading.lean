import SourceAudit.Document.Value
import SourceAudit.Remote.Numeral
import SourceAudit.Remote.Payload
import SourceAudit.Text.Basic

/-!
  Reading a payload from a document. A field may have several names, of which
  the first one present counts; an absent field has its usual value, and unknown
  fields are ignored. Whole numbers may be written as flags, as fractions without
  decimal places, or as texts. One field that cannot be read spoils the payload.
-/
namespace SourceAudit
namespace Remote
namespace Reading

/-- The bound that whole fractions stay below. -/
def wholeBound : Rat := (Nat.pow 2 63 : Rat)

/-- The whole number that a fraction is, within bounds. -/
def integral? (q : Rat) : Option Int :=
  if q.den = 1 ∧ -wholeBound < q ∧ q < wholeBound then some q.num else none

/-- A whole number. -/
def whole? : Value → Option Int
  | .flag b => some (if b then 1 else 0)
  | .whole n => some n
  | .real (.finite q) => integral? q
  | .real .negativeZero => some 0
  | .text s => Numeral.whole? s.toList
  | _ => none

/-- A text. -/
def text? : Value → Option String
  | .text s => some s
  | _ => none

/-- A field that may be empty. -/
def orNull {α : Type} (read : Value → Option α) : Value → Option (Option α)
  | .null => some none
  | v => (read v).map some

/-- The degrees under other names. -/
def otherDegrees : List (String × String) :=
  [("major", "high"), ("minor", "low"), ("error", "high"), ("warning", "medium")]

/-- The degree that a value names; the least, if it names none. -/
def degree (v : Value) : Risk :=
  match v with
  | .text s =>
    let name := String.ofList ((Text.trim s.toList).lower)
    (Risk.ofName? ((otherDegrees.lookup name).getD name)).getD .info
  | _ => .info

/-- A list of tables, each read by a rule. -/
def tables? {α : Type} (read : Value → Option α) : Value → Option (List α)
  | .list vs => vs.mapM fun v =>
    match v with
    | .table es => read (.table es)
    | _ => none
  | _ => none

/-- A table, read by a rule. -/
def table? {α : Type} (read : Value → Option α) : Value → Option α
  | .table es => read (.table es)
  | _ => none

/-- A field under the first of its names that is present; its usual value if none is. -/
def field {α : Type} (v : Value) (names : List String) (read : Value → Option α) (usual : α) :
    Option α :=
  match names.findSome? v.get? with
  | none => some usual
  | some x => read x

/-- A remark on the syntax. -/
def syntaxRemark? (v : Value) : Option SyntaxRemark := do
  return {
    line := ← field v ["line"] whole? 1
    column := ← field v ["column"] whole? 1
    message := ← field v ["message", "description"] text? ""
    type := ← field v ["type"] text? "syntax"
    code := ← field v ["code"] text? "SYNTAX_ISSUE"
    quickFix := ← field v ["quickFix", "quick_fix"] (orNull text?) none }

/-- A remark on the security. -/
def securityRemark? (v : Value) : Option SecurityRemark := do
  return {
    title := ← field v ["issue", "title"] text? ""
    severity := ← field v ["severity"] (fun x => some (degree x)) .medium
    description := ← field v ["description"] text? ""
    recommendation := ← field v ["recommendation", "suggestion"] text? ""
    line := ← field v ["line"] (orNull whole?) none }

/-- A remark on the performance. -/
def performanceRemark? (v : Value) : Option PerformanceRemark := do
  return {
    issue := ← field v ["issue", "title", "message"] text? ""
    impact := ← field v ["impact", "severity"] (fun x => some (degree x)) .info
    description := ← field v ["description"] text? ""
    optimization := ← field v ["optimization", "suggestion"] text? ""
    line := ← field v ["line"] (orNull whole?) none }

/-- The figures on complexity, added to others. -/
def complexity? (a : RemoteAssessment) (v : Value) : Option RemoteAssessment := do
  return { a with
    cyclomaticComplexity := ← field v ["cyclomaticComplexity", "cyclomatic_complexity"] whole? 5
    timeComplexity := ← field v ["timeComplexity", "time_complexity"] text? "O(n)"
    spaceComplexity := ← field v ["spaceComplexity", "space_complexity"] text? "O(1)"
    maintainability := ← field v ["maintainabilityIndex", "maintainability_index"] whole? 70
    readability := ← field v ["readabilityScore", "readability_score"] whole? 75 }

/-- The score for the whole, added to other figures. -/
def quality? (a : RemoteAssessment) (v : Value) : Option RemoteAssessment := do
  return { a with overallScore := ← field v ["overallScore", "overall_score"] whole? 70 }

end Reading

namespace Payload

open Reading

/-- The payload that a table holds. -/
def ofValue? (v : Value) : Option Payload := do
  let figures ← field v ["complexity"] (table? (complexity? {})) {}
  return {
    errors := ← field v ["errors"] (tables? syntaxRemark?) []
    warnings := ← field v ["warnings"] (tables? syntaxRemark?) []
    suggestions := ← field v ["suggestions"] (tables? syntaxRemark?) []
    security := ← field v ["security"] (tables? securityRemark?) []
    performance := ← field v ["performance"] (tables? performanceRemark?) []
    figures := ← field v ["quality"] (table? (quality? figures)) figures }

end Payload
end Remote
end SourceAudit
