import SourceAudit.Document.Value
import SourceAudit.Remote.Payload

/-!
  Writing a payload as a document, with every field under a name that readers
  accept.
-/
namespace SourceAudit
namespace Remote

/-- A remark on the syntax as a table. -/
def SyntaxRemark.toValue (r : SyntaxRemark) : Value :=
  .table [("line", .whole r.line), ("column", .whole r.column), ("message", .text r.message),
    ("type", .text r.type), ("code", .text r.code), ("quick_fix", .textOrNull r.quickFix)]

/-- A remark on the security as a table. -/
def SecurityRemark.toValue (r : SecurityRemark) : Value :=
  .table [("title", .text r.title), ("severity", .text r.severity.name),
    ("description", .text r.description), ("recommendation", .text r.recommendation),
    ("line", .wholeOrNull r.line)]

/-- A remark on the performance as a table. -/
def PerformanceRemark.toValue (r : PerformanceRemark) : Value :=
  .table [("issue", .text r.issue), ("impact", .text r.impact.name),
    ("description", .text r.description), ("optimization", .text r.optimization),
    ("line", .wholeOrNull r.line)]

/-- The figures on complexity as a table. -/
def complexityValue (a : RemoteAssessment) : Value :=
  .table [("cyclomatic_complexity", .whole a.cyclomaticComplexity),
    ("time_complexity", .text a.timeComplexity), ("space_complexity", .text a.spaceComplexity),
    ("maintainability_index", .whole a.maintainability),
    ("readability_score", .whole a.readability)]

/-- A payload as a table. -/
def Payload.toValue (p : Payload) : Value :=
  .table [("errors", .list (p.errors.map SyntaxRemark.toValue)),
    ("warnings", .list (p.warnings.map SyntaxRemark.toValue)),
    ("suggestions", .list (p.suggestions.map SyntaxRemark.toValue)),
    ("security", .list (p.security.map SecurityRemark.toValue)),
    ("performance", .list (p.performance.map PerformanceRemark.toValue)),
    ("complexity", complexityValue p.figures),
    ("quality", .table [("overall_score", .whole p.figures.overallScore)])]

end Remote
end SourceAudit
