import SourceAudit.Remote.Gateway
import SourceAudit.Remote.Salvage

/-!
  Merging what a remote service says into a result. Where the service is silent
  the result stays as it is. Remarks on syntax take the place of the findings
  about syntax, those on security and performance are added. Prose that cannot be
  read spoils the merge.
-/
namespace SourceAudit
namespace Remote

/-- A remark on the syntax as a finding. -/
def SyntaxRemark.finding (severity : SyntaxSeverity) (r : SyntaxRemark) : SyntaxFinding where
  line := r.line
  column := r.column
  message := r.message
  severity := severity
  type := r.type
  quickFix := r.quickFix
  code := r.code

/-- A remark on the security as a finding; the first argument is its number. -/
def SecurityRemark.finding (number : Nat) (r : SecurityRemark) : SecurityFinding where
  id := "remote-" ++ toString number
  title := if r.title.isEmpty then "Remote security finding" else r.title
  severity := r.severity
  category := "Remote Analysis"
  weakness := ""
  form := ""
  suggestion := r.recommendation
  description := r.description
  line := r.line

/-- A remark on the performance as a finding. -/
def PerformanceRemark.finding (r : PerformanceRemark) : PerformanceFinding where
  message := if r.issue.isEmpty then r.description else r.issue
  severity := r.impact
  line := r.line
  suggestion := r.optimization
  impact := r.description

namespace Payload

/-- The report on syntax that a payload makes. -/
def syntaxReport (p : Payload) : SyntaxReport where
  errors := p.errors.map (SyntaxRemark.finding .error)
  warnings := p.warnings.map (SyntaxRemark.finding .warning)
  suggestions := p.suggestions.map (SyntaxRemark.finding .info)

/-- The findings on security that a payload makes, numbered from one. -/
def securityFindings (p : Payload) : List SecurityFinding :=
  p.security.zipIdx.map fun (r, i) => r.finding (i + 1)

end Payload
end Remote

namespace AnalysisResult

open Remote

/-- A result with a payload merged in. -/
def withPayload (r : AnalysisResult) (p : Payload) : AnalysisResult :=
  { r with
    grammar := if p.hasSyntax then p.syntaxReport else r.grammar
    security :=
      if p.security.isEmpty then r.security
      else .ofFindings (r.security.findings ++ p.securityFindings)
    performance := r.performance ++ p.performance.map PerformanceRemark.finding
    remote := some p.figures
    remoteUsed := true }

/-- A result with prose merged in: unchanged, if the prose says nothing about syntax. -/
def withProse (r : AnalysisResult) (t : Text) : Except Number.Overlong AnalysisResult :=
  (salvage t).map fun report =>
    if report.findings.isEmpty then r else { r with grammar := report, remoteUsed := true }

/-- A result with an outcome merged in. -/
def merged (r : AnalysisResult) : Outcome → Except Number.Overlong AnalysisResult
  | .answered (.payload p) => .ok (r.withPayload p)
  | .answered (.prose t) => r.withProse t
  | .unavailable _ | .failed _ => .ok r

end AnalysisResult
end SourceAudit
