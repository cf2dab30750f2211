import SourceAudit.Result.Basic

/-!
  What a remote service says about a source: remarks on its syntax by severity,
  on its security and on its performance, and figures for the whole.
-/
namespace SourceAudit
namespace Remote

/-- A remark on the syntax. -/
structure SyntaxRemark where
  line : Int := 1
  column : Int := 1
  message : String := ""
  type : String := "syntax"
  code : String := "SYNTAX_ISSUE"
  quickFix : Option String := none
  deriving DecidableEq, Repr

/-- A remark on the security. -/
structure SecurityRemark where
  title : String := ""
  severity : Risk := .medium
  description : String := ""
  recommendation : String := ""
  line : Option Int := none
  deriving DecidableEq, Repr

/-- A remark on the performance. -/
structure PerformanceRemark where
  issue : String := ""
  impact : Risk := .info
  description : String := ""
  optimization : String := ""
  line : Option Int := none
  deriving DecidableEq, Repr

/-- What a service says about a source. -/
structure Payload where
  errors : List SyntaxRemark := []
  warnings : List SyntaxRemark := []
  suggestions : List SyntaxRemark := []
  security : List SecurityRemark := []
  performance : List PerformanceRemark := []
  figures : RemoteAssessment := {}
  deriving DecidableEq, Repr

/-- Whether something is said about the syntax. -/
def Payload.hasSyntax (p : Payload) : Bool :=
  !(p.errors.isEmpty && p.warnings.isEmpty && p.suggestions.isEmpty)

end Remote
end SourceAudit
