import SourceAudit.Document.Value
import SourceAudit.Result.Basic

/-!
  The parts of a report as document values: one table for each structure, with
  an entry for each field.
-/
namespace SourceAudit
namespace Record

/-- A list of parts. -/
def many {α : Type} (f : α → Value) (xs : List α) : Value := .list (xs.map f)

/-- A part that may be absent. -/
def maybe {α : Type} (f : α → Value) : Option α → Value
  | some x => f x
  | none => .null

def languageGuess (g : LanguageGuess) : Value :=
  .table [("language", .text g.language), ("confidence", .whole g.confidence)]

def detection (d : Detection) : Value :=
  .table [("language", .text d.language), ("confidence", .whole d.confidence),
    ("alternatives", many languageGuess d.alternatives), ("reason", .text d.reason)]

def languageScore (s : LanguageScore) : Value :=
  .table [("language", .text s.language), ("score", .fraction s.score),
    ("reasons", .texts s.reasons)]

def functionSpan (f : FunctionSpan) : Value :=
  .table [("name", .text f.name), ("start_line", .whole f.startLine),
    ("end_line", .whole f.endLine)]

def metrics (m : Metrics) : Value :=
  .table [("lines_of_code", .whole m.linesOfCode), ("code_lines", .whole m.codeLines),
    ("comment_lines", .whole m.commentLines),
    ("comment_percentage", .fraction m.commentPercentage),
    ("function_count", .whole m.functionCount),
    ("average_function_length", .fraction m.averageFunctionLength),
    ("max_nesting_depth", .whole m.maxNestingDepth),
    ("cyclomatic_complexity", .whole m.cyclomaticComplexity),
    ("functions", many functionSpan m.functions)]

def rawIssue (i : RawIssue) : Value :=
  .table [("line", .whole i.line), ("message", .text i.message),
    ("severity", .text i.severity.name), ("kind", .text i.kind)]

def issue (i : Issue) : Value :=
  .table [("line", .whole i.line), ("message", .text i.message),
    ("severity", .text i.severity.name), ("category", .text i.category), ("type", .text i.type),
    ("column", .null)]

/-- Groups of parts. -/
def groups {α : Type} (f : α → Value) (gs : Groups α) : Value :=
  .table (gs.map fun g => (g.1, many f g.2))

def violations (r : ViolationReport) : Value :=
  .table [("major_count", .whole r.majorCount), ("minor_count", .whole r.minorCount),
    ("line_references", many issue r.lineReferences), ("categories", groups issue r.categories),
    ("summary", .text r.summary), ("report_markdown", .text r.markdown)]

def smell (s : Smell) : Value :=
  .table [("type", .text s.type), ("severity", .text s.severity.name),
    ("description", .text s.description), ("line", .whole s.line),
    ("suggestion", .text s.suggestion), ("impact", .text s.impact)]

def smells (r : SmellReport) : Value :=
  .table [("smells", many smell r.smells),
    ("summary", .table (r.summary.map fun e => (e.1, .whole e.2))),
    ("categories", groups smell r.categories)]

def estimate (e : Estimate) : Value :=
  .table [("notation", .text e.growth.text), ("confidence", .text e.confidence.name),
    ("description", .text e.description), ("factors", .texts e.factors)]

def complexity (c : Complexity) : Value :=
  .table [("time", estimate c.time), ("space", estimate c.space)]

def securityFinding (f : SecurityFinding) : Value :=
  .table [("id", .text f.id), ("title", .text f.title), ("severity", .text f.severity.name),
    ("category", .text f.category), ("cwe_id", .text f.weakness), ("pattern", .text f.form),
    ("suggestion", .text f.suggestion), ("example", .text f.sample),
    ("description", .text f.description), ("owasp_category", .text f.topic),
    ("line", .wholeOrNull f.line)]

def security (r : SecurityReport) : Value :=
  .table [("findings", many securityFinding r.findings), ("score", .whole r.score),
    ("grade", .text r.grade), ("summary", .text r.summary)]

def syntaxFinding (f : SyntaxFinding) : Value :=
  .table [("line", .whole f.line), ("column", .whole f.column), ("message", .text f.message),
    ("severity", .text f.severity.name), ("type", .text f.type),
    ("quick_fix", .textOrNull f.quickFix), ("code", .text f.code)]

def syntaxReport (r : SyntaxReport) : Value :=
  .table [("errors", many syntaxFinding r.errors), ("warnings", many syntaxFinding r.warnings),
    ("suggestions", many syntaxFinding r.suggestions)]

def parameter (p : Parameter) : Value :=
  .table [("name", .text p.name), ("declared_type", .text p.declaredType),
    ("kind", .text p.kind.name)]

def signature (s : FunctionSignature) : Value :=
  .table [("name", .text s.name), ("parameters", many parameter s.parameters),
    ("return_type", .text s.returnType), ("return_kind", .text s.returnKind.name),
    ("is_async", .flag s.isAsync)]

def skeleton (t : TestSkeleton) : Value :=
  .table [("name", .text t.name), ("description", .text t.description), ("input", .text t.input),
    ("expected_output", .text t.expected), ("category", .text t.category),
    ("priority", .text t.priority)]

/-- Names with how often each was counted. -/
def counts (cs : List (String × Nat)) : Value := .table (cs.map fun c => (c.1, .whole c.2))

def rating (r : QualityRating) : Value :=
  .table [("grade", .text r.grade.letter), ("description", .text r.description),
    ("score", .whole r.score), ("reason", .text r.reason), ("issues", .texts r.issues),
    ("improvements", .texts r.improvements)]

def summary (s : Summary) : Value :=
  .table [("overall_score", .whole s.overallScore), ("strengths", .texts s.strengths),
    ("weaknesses", .texts s.weaknesses), ("quick_fixes", .texts s.quickFixes),
    ("long_term_goals", .texts s.longTermGoals), ("priority_level", .text s.priority.name)]

def insights (i : Insights) : Value :=
  .table [("complexity_level", .text i.complexityLevel),
    ("maintenance_effort", .text i.maintenanceEffort), ("test_coverage", .text i.testCoverage),
    ("readability_score", .whole i.readabilityScore), ("technical_debt", .text i.technicalDebt)]

def recommendation (r : Recommendation) : Value :=
  .table [("rule", .text r.rule), ("suggestion", .text r.suggestion),
    ("category", .text r.category), ("line", .wholeOrNull r.line)]

def performanceFinding (f : PerformanceFinding) : Value :=
  .table [("message", .text f.message), ("severity", .text f.severity.name),
    ("line", .wholeOrNull f.line), ("suggestion", .text f.suggestion), ("impact", .text f.impact)]

def assessment (a : RemoteAssessment) : Value :=
  .table [("cyclomatic_complexity", .whole a.cyclomaticComplexity),
    ("time_complexity", .text a.timeComplexity), ("space_complexity", .text a.spaceComplexity),
    ("maintainability", .whole a.maintainability), ("readability", .whole a.readability),
    ("overall_score", .whole a.overallScore)]

/-- The fields of a result up to the remote figures. -/
def resultParts (r : AnalysisResult) : List (String × Value) :=
  [("language", .text r.language), ("detection", detection r.detection),
    ("metrics", metrics r.metrics), ("complexity", complexity r.complexity),
    ("violations", violations r.violations), ("code_smells", smells r.smells),
    ("security", security r.security), ("test_cases", many skeleton r.tests),
    ("syntax", syntaxReport r.grammar), ("performance", many performanceFinding r.performance),
    ("cyclomatic_rating", maybe rating r.cyclomaticRating),
    ("maintainability_rating", maybe rating r.maintainabilityRating),
    ("reliability_rating", maybe rating r.reliabilityRating),
    ("overall_grade", .text r.overallGrade.letter), ("summary", summary r.summary),
    ("insights", insights r.insights),
    ("recommendations", many recommendation r.recommendations),
    ("remote", maybe assessment r.remote)]

/-- A result without time and duration. -/
def result (r : AnalysisResult) : Value :=
  .table (resultParts r ++ [("code_size", .text r.codeSize.name),
    ("ai_analysis_used", .flag r.remoteUsed)])

/-- A result with the given time and duration, in milliseconds. -/
def resultAt (timestamp : String) (duration : Rat) (r : AnalysisResult) : Value :=
  .table (resultParts r ++ [("timestamp", .text timestamp), ("code_size", .text r.codeSize.name),
    ("ai_analysis_used", .flag r.remoteUsed), ("analysis_time_ms", .fraction duration)])

end Record
end SourceAudit
