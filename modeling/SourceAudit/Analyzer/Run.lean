import SourceAudit.Analyzer.Outputs
import SourceAudit.Remote.Merge
import SourceAudit.Score.Advice

/-!
  Analyses. A source is analysed in its language; what the gateway answers is
  merged in, and the whole is scored. A stage that fails leaves its part of the
  result empty. Without metrics, and with an answer that cannot be merged, the
  analysis fails as a whole, and its result is empty.

  Results are kept in a cache under the source and its language. A result taken
  from the cache is told the detection of the present call. A result is kept
  only if the service took part in it or is switched off.
-/
namespace SourceAudit

/-- What comes of a call: the result, the requests posted, and whether the result was taken from
the cache. -/
structure Analysis where
  result : AnalysisResult
  posted : List Remote.Request := []
  recalled : Bool := false

/-- What comes of an analysis: its result, unless it fails, and the requests posted. -/
structure Attempt where
  result : Option AnalysisResult
  posted : List Remote.Request := []

namespace AnalysisResult

/-- The result without any analysis. -/
def empty (detection : Detection) (source : Text) : AnalysisResult where
  language := detection.language
  detection := detection
  violations := .ofFindings []
  security := .ofFindings []
  codeSize := if source.isEmpty then .small else .ofLineCount source.lines.length

end AnalysisResult

namespace Analyzer

/-- The result of the stages, before the service has its say. -/
def locally (a : Analyzer) (s : Subject) (detection : Detection) (metrics : Metrics)
    (o : Outputs) : AnalysisResult :=
  let findings := o.findings.getD []
  { language := detection.language
    detection := detection
    metrics := metrics
    complexity := o.complexity.getD {}
    violations := .ofFindings findings
    smells := .ofFindings findings
    security := o.security.getD (.ofFindings [])
    tests := (a.guarded .tests fun _ => (TestSkeleton.ofSource a.testCases s.prepared).toOption).getD []
    grammar := (a.guarded .grammar fun _ => some (SyntaxCheck.ofSource s.prepared)).getD {}
    codeSize := .ofLineCount s.prepared.lines.length }

/-- The analysis of a source that is prepared, with stages that finish in the given order. -/
def analysisOf (a : Analyzer) (s : Subject) (detection : Detection) (metrics : Metrics)
    (order : List Stage) : Attempt :=
  let o := a.outputs s order
  let found := a.locally s detection metrics o
  match o.exchange with
  | none => { result := some found.scored }
  | some e =>
    match found.merged e.outcome with
    | .ok r => { result := some r.scored, posted := e.posted }
    | .error _ => { result := none, posted := e.posted }

/-- The analysis of a source in its language, which fails if there are no metrics. -/
def freshly (a : Analyzer) (source : Text) (detection : Detection) (order : List Stage) :
    Attempt :=
  match a.registry.get (some detection.language) with
  | .error _ => { result := none }
  | .ok language =>
    let prepared := prepare language source
    match a.guarded .metrics fun _ => some (Metrics.ofSource prepared 1) with
    | none => { result := none }
    | some metrics =>
      a.analysisOf ⟨source, detection.language, prepared, Context.ofSource prepared⟩ detection
        metrics order

/-- Whether a result is kept. -/
def keeps (a : Analyzer) (r : AnalysisResult) : Bool := r.remoteUsed || !a.gateway.isActive

/-- Analyses a source with a cache, if there is one, and gives the cache back. -/
def analyzeAt (a : Analyzer) (now : Rat) (cache : Option (Cache AnalysisResult)) (source : Text)
    (declared file : Option String) : Analysis × Option (Cache AnalysisResult) :=
  let detection := a.resolve source declared file
  let language := detection.language
  let text := String.ofList source
  if source.isBlank then ({ result := .empty detection source }, cache)
  else
    match cache.bind fun c => c.get? now language text with
    | some kept => ({ result := { kept with detection := detection }, recalled := true }, cache)
    | none =>
      let attempt := a.freshly source detection Stage.independent
      match attempt.result with
      | none => ({ result := .empty detection source, posted := attempt.posted }, cache)
      | some result =>
        ({ result := result, posted := attempt.posted },
          if a.keeps result then cache.map fun c => c.set now language text result else cache)

/-- Analyses a source without a cache. -/
def analyze (a : Analyzer) (source : Text) (declared file : Option String) : AnalysisResult :=
  (a.analyzeAt 0 none source declared file).1.result

theorem analyze_of_isBlank (a : Analyzer) {source : Text} (declared file : Option String)
    (h : source.isBlank = true) :
    a.analyze source declared file = .empty (a.resolve source declared file) source := by
  rw [analyze, analyzeAt, if_pos h]

/-- The analysis of a source that is not blank is a fresh one, or empty if that fails. -/
theorem analyze_eq_getD (a : Analyzer) {source : Text} (declared file : Option String)
    (h : source.isBlank = false) :
    a.analyze source declared file =
      (a.freshly source (a.resolve source declared file) Stage.independent).result.getD
        (.empty (a.resolve source declared file) source) := by
  simp only [analyze, analyzeAt, h, Bool.false_eq_true, if_false, Option.bind_none]
  cases (a.freshly source (a.resolve source declared file) Stage.independent).result <;> rfl

end Analyzer

namespace AnalysisResult

/-- The result of an analyzer that may not have been built; the reason stands in for a detection
then. -/
def ofAnalyzer (built : Except String Analyzer) (source : Text) (declared file : Option String) :
    AnalysisResult :=
  match built with
  | .ok a => a.analyze source declared file
  | .error reason =>
    let language := match declared with
      | some name => if name.isEmpty then Language.usual else name
      | none => Language.usual
    { language := language, detection := .unsure language reason }

end AnalysisResult

namespace Detection

/-- The detection of an analyzer that may not have been built. -/
def ofAnalyzer (built : Except String Analyzer) (source : Text) (file : Option String) :
    Detection :=
  match built with
  | .ok a => a.detect source file
  | .error reason => .unsure Language.usual reason

end Detection
end SourceAudit
