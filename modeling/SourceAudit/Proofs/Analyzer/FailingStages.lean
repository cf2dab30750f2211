import SourceAudit.Analyzer.Run

/-!
  Analyses some of whose stages and detectors fail.

  A draft is what an analysis has before the answer of the service is merged in and
  the whole is scored. What is proved:
    1. `findings_passing` — a battery finds what it finds without the detectors that
       fail.
    2. `outputs_perm` — the independent stages put out the same in whatever order
       they finish, since two of them never fill the same place (`finish_comm`).
    3. `judged_isolated` — a draft with failing stages is the draft of the same
       analyzer without faults, with the fields of the failing stages left empty.
    4. `analyze_isolated` — so is the whole analysis, one stage after the other or
       all at once.
-/
namespace SourceAudit

/-- A draft of a result, and the outcome of asking the service, if it was asked. -/
structure Draft where
  result : AnalysisResult
  outcome : Option Remote.Outcome

namespace Draft

/-- A draft with the fields that failed stages own left empty. -/
def without (failed : Stage → Bool) (d : Draft) : Draft where
  result :=
    { d.result with
      complexity := if failed .complexity then {} else d.result.complexity
      violations := if failed .detectors then .ofFindings [] else d.result.violations
      smells := if failed .detectors then .ofFindings [] else d.result.smells
      security := if failed .security then .ofFindings [] else d.result.security
      tests := if failed .tests then [] else d.result.tests
      grammar := if failed .grammar then {} else d.result.grammar }
  outcome := if failed .gateway then none else d.outcome

/-- The result of a draft: the answer merged in, and the whole scored. There is none if the answer
cannot be merged. -/
def judged (d : Draft) : Option AnalysisResult :=
  match d.outcome with
  | none => some d.result.scored
  | some o => ((d.result.merged o).toOption).map AnalysisResult.scored

end Draft

/-- A source prepared for the independent stages, its language found under some name. -/
def Subject.ofSource (language : Language) (name : String) (source : Text) : Subject :=
  ⟨source, name, prepare language source, Context.ofSource (prepare language source)⟩

/-! ## Detectors -/

namespace Detector

/-- Whether a detector does not fail on a subject. -/
def passes (s : Subject) (d : Detector) : Bool := (d.check s.prepared s.context).isOk

/-- What a battery finds does not hang on the detectors that fail. -/
theorem findings_passing (detectors : List Detector) (s : Subject) :
    findings (detectors.filter (passes s)) s.prepared s.context =
      findings detectors s.prepared s.context := by
  induction detectors with
  | nil => rfl
  | cons d rest ih =>
    unfold findings at ih ⊢
    rw [List.flatMap_cons, ← ih, List.filter_cons, passes]
    cases hcheck : d.check s.prepared s.context with
    | error f => rfl
    | ok found => simp only [Except.isOk, Except.toBool, if_true, List.flatMap_cons, hcheck]

end Detector

/-! ## Stages -/

namespace Analyzer

/-- The stages that fail on a subject: those that fail by themselves, the tests if their number is
none and they are to be limited, and the gateway if it cannot ask. -/
def fails (a : Analyzer) (s : Subject) (stage : Stage) : Bool :=
  (a.fault? stage).isSome ||
    match stage with
    | .tests => !(TestSkeleton.ofSource a.testCases s.prepared).isOk
    | .gateway =>
      match (a.gateway.ask s.source s.language).outcome with
      | .failed _ => true
      | _ => false
    | _ => false

/-- An analyzer without faults, and without the detectors that fail on a subject. -/
def faultless (a : Analyzer) (s : Subject) : Analyzer :=
  { a with detectors := a.detectors.filter (Detector.passes s), fault? := fun _ => none }

/-- What an analyzer works on if it knows the language of a source. -/
def subject? (a : Analyzer) (source : Text) (detection : Detection) : Option Subject :=
  ((a.registry.get (some detection.language)).toOption).map fun l =>
    .ofSource l detection.language source

/-- The draft of an analysis, with stages that finish in the given order. -/
def draft (a : Analyzer) (s : Subject) (detection : Detection) (order : List Stage) : Draft :=
  let o := a.outputs s order
  ⟨a.locally s detection (Metrics.ofSource s.prepared 1) o, o.exchange.map (·.outcome)⟩

section
variable {a : Analyzer} {s : Subject}

/-- A stage without a fault gives what it works out. -/
theorem guarded_faultless {α : Type} (stage : Stage) (work : Unit → Option α) :
    (a.faultless s).guarded stage work = work () := rfl

/-- A stage gives nothing if it has a fault. -/
theorem guarded_eq {α : Type} (stage : Stage) (work : Unit → Option α) :
    a.guarded stage work = if (a.fault? stage).isSome then none else work () := by
  unfold guarded
  cases a.fault? stage <;> rfl

/-- What stands for a stage in a result: what it works out, or else what is there without it. -/
theorem getD_guarded {α : Type} (stage : Stage) (value usual : α) :
    (a.guarded stage fun _ => some value).getD usual =
      if (a.fault? stage).isSome then usual else value := by
  rw [guarded_eq]
  split <;> rfl

/-- Two stages fill different places, or the same place with the same output. -/
theorem finish_comm (o : Outputs) (x y : Stage) :
    a.finish s (a.finish s o x) y = a.finish s (a.finish s o y) x := by
  cases hactive : a.gateway.isActive <;> cases x <;> cases y <;> simp only [finish, hactive] <;> rfl

/-- The order in which stages finish does not matter. -/
theorem outputs_perm {order other : List Stage} (h : order.Perm other) :
    a.outputs s order = a.outputs s other :=
  h.foldl_eq' (fun x _ y _ o => finish_comm o x y) _

/-- The outputs of the independent stages. -/
theorem outputs_independent :
    a.outputs s Stage.independent =
      { complexity := a.guarded .complexity fun _ => some (Complexity.ofSource s.prepared)
        findings := a.guarded .detectors fun _ => some (a.findings s)
        security := a.guarded .security fun _ => some (SecurityReport.ofText s.source)
        exchange :=
          if a.gateway.isActive then
            a.guarded .gateway fun _ => some (a.gateway.ask s.source s.language)
          else none } := by
  simp only [outputs, Stage.independent, List.foldl_cons, List.foldl_nil, finish]
  split <;> rfl

/-- The result of an analysis is its draft, judged. -/
theorem result_analysisOf (detection : Detection) (order : List Stage) :
    (a.analysisOf s detection (Metrics.ofSource s.prepared 1) order).result =
      (a.draft s detection order).judged := by
  simp only [analysisOf, Draft.judged, draft]
  cases (a.outputs s order).exchange with
  | none => rfl
  | some e =>
    simp only [Option.map_some]
    cases (a.locally s detection (Metrics.ofSource s.prepared 1) (a.outputs s order)).merged e.outcome
      <;> rfl

/-- What the detectors of a faultless analyzer find. -/
theorem findings_faultless : (a.faultless s).findings s = a.findings s :=
  Detector.findings_passing a.detectors s

/-! ## Isolation -/

/-- The result of the stages is that of the faultless analyzer, with the fields that failing stages
own left empty. -/
theorem result_isolated (detection : Detection) :
    (a.draft s detection Stage.independent).result =
      (((a.faultless s).draft s detection Stage.independent).without (a.fails s)).result := by
  simp only [draft, Draft.without, locally, outputs_independent, guarded_faultless,
    findings_faultless, fails, Bool.or_false, Option.getD_some]
  congr 1
  case e_complexity => exact getD_guarded _ _ _
  case e_violations => rw [getD_guarded, apply_ite ViolationReport.ofFindings]
  case e_smells => rw [getD_guarded, apply_ite SmellReport.ofFindings]
  case e_security => exact getD_guarded _ _ _
  case e_tests =>
    rw [guarded_eq]
    have hlimit : (a.faultless s).testCases = a.testCases := rfl
    rw [hlimit]
    cases (a.fault? .tests).isSome <;> cases TestSkeleton.ofSource a.testCases s.prepared <;> rfl
  case e_grammar => exact getD_guarded _ _ _

/-- The outcome of asking is that of the faultless analyzer, or left out if the gateway fails. What
is left out may be a failure to ask. -/
theorem outcome_isolated (detection : Detection) :
    let outcome := (a.draft s detection Stage.independent).outcome
    let isolated :=
      (((a.faultless s).draft s detection Stage.independent).without (a.fails s)).outcome
    outcome = isolated ∨ isolated = none ∧ ∃ f, outcome = some (.failed f) := by
  have hactive : (a.faultless s).gateway = a.gateway := rfl
  simp only [draft, Draft.without, outputs_independent, hactive, guarded_eq, fails]
  cases a.gateway.isActive with
  | false => exact .inl (by simp)
  | true =>
    cases (a.fault? .gateway).isSome with
    | true => exact .inl rfl
    | false =>
      cases houtcome : (a.gateway.ask s.source s.language).outcome with
      | failed f => exact .inr ⟨rfl, f, congrArg some houtcome⟩
      | unavailable reason | answered answer => exact .inl rfl

/-- A draft with failing stages and detectors, judged, is the draft without faults and without the
failing detectors, judged with the fields of the failing stages left empty. -/
theorem judged_isolated (detection : Detection) {order : List Stage}
    (h : order.Perm Stage.independent) :
    (a.draft s detection order).judged =
      (((a.faultless s).draft s detection Stage.independent).without (a.fails s)).judged := by
  have horder : a.draft s detection order = a.draft s detection Stage.independent := by
    rw [draft, draft, outputs_perm h]
  rw [horder]
  rcases outcome_isolated (a := a) (s := s) detection with hsame | ⟨hnone, f, hfailed⟩
  · rw [Draft.judged, Draft.judged, result_isolated, hsame]
  · rw [Draft.judged, Draft.judged, result_isolated, hnone, hfailed]
    rfl

end

/-- The analysis of a source that is not blank, without a cache, by an analyzer some of whose
detectors and stages fail, the metrics excepted. It is the analysis of the same analyzer without
faults and without the failing detectors, in which the fields of the failing stages are left empty
before the answer is merged in and the whole is scored. The independent stages may run one after
the other or at once, and finish in any order. The result is the empty one only if the language is
none of the registry, or if the answer cannot be merged. -/
theorem analyze_isolated (a : Analyzer) (source : Text) (declared file : Option String)
    {order : List Stage} (hmetrics : a.fault? .metrics = none)
    (horder : order.Perm Stage.independent) (hsource : source.isBlank = false) :
    let detection := a.resolve source declared file
    let isolated := (a.subject? source detection).bind fun s =>
      (((a.faultless s).draft s detection Stage.independent).without (a.fails s)).judged
    (a.freshly source detection order).result = isolated ∧
      a.analyze source declared file = isolated.getD (.empty detection source) := by
  intro detection isolated
  have hfreshly : ∀ {order : List Stage}, order.Perm Stage.independent →
      (a.freshly source detection order).result = isolated := by
    intro order horder
    simp only [freshly, isolated, subject?]
    cases a.registry.get (some detection.language) with
    | error unknown => rfl
    | ok language =>
      have hguarded : (a.guarded .metrics fun _ =>
          some (Metrics.ofSource (prepare language source) 1)) =
          some (Metrics.ofSource (prepare language source) 1) := by
        rw [guarded_eq, hmetrics]
        rfl
      dsimp only
      rw [hguarded]
      exact (result_analysisOf detection order).trans (judged_isolated detection horder)
  refine ⟨hfreshly horder, ?_⟩
  rw [analyze_eq_getD a declared file hsource, hfreshly (List.Perm.refl Stage.independent)]

/-- A battery whose first detector fails, with faults in three stages. -/
theorem analyze_crippled :
    let a : Analyzer :=
      { detectors := ⟨"exploding", fun _ _ => .error .notEnd⟩ :: Detector.battery {}
        gateway := { settings := [], server := fun _ => .timeout }
        testCases := .ok (some 10)
        fault? := fun stage =>
          if stage ∈ [Stage.complexity, Stage.security, Stage.tests] then some "injected" else none }
    let source : Text := "def f(x):\n    return int(x)\n".toList
    let order := [Stage.gateway, .security, .detectors, .complexity]
    let detection := a.resolve source (some "python") none
    let isolated := (a.subject? source detection).bind fun s =>
      (((a.faultless s).draft s detection Stage.independent).without (a.fails s)).judged
    a.fault? .metrics = none ∧ order.Perm Stage.independent ∧ source.isBlank = false ∧
      (a.freshly source detection order).result = isolated ∧
      a.analyze source (some "python") none = isolated.getD (.empty detection source) := by
  intro a source order detection isolated
  have hmetrics : a.fault? .metrics = none := by decide
  have horder : order.Perm Stage.independent := by decide
  have hsource : source.isBlank = false := by decide +kernel
  exact ⟨hmetrics, horder, hsource,
    analyze_isolated a source (some "python") none hmetrics horder hsource⟩

end Analyzer
end SourceAudit
