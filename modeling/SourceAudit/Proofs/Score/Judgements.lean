import Mathlib.Algebra.Order.BigOperators.Group.List
import Mathlib.Algebra.Order.Group.Nat
import Mathlib.Order.Monotone.Basic
import SourceAudit.Analyzer.Run
import SourceAudit.Proofs.Number.RoundingOrder

/-!
  Scores and grades of results that are at least as bad as others.

  A result is at least as bad as another (`AtLeastAsBad`) if it is so in all that scores
  go by: its sizes, and how much was found in it. What is proved:
    1. `isRounding_id`, `isRounding_toBinary` — the steps of a computation keep the order
       of values and leave alone what came out of one, whether they are exact or round
       to binary fractions.
    2. `maintainabilityWith_anti`, `reliability_anti`, `overallWith_mono` — so a result
       that is at least as bad has no higher scores, and `rank_band_anti` — no better
       grades.
    3. `isCounted_analyze` — the counts in an analysis are not negative, so its
       reliability lies within 0 and 100 as the other scores do.
    4. `scoreOf_anti`, `scoreOf_perm` — the score of a report on vulnerabilities goes by
       which findings there are, in whatever order, and more of them do not raise it.
    5. `scoring_monotone` — all scores and grades together.
-/
namespace SourceAudit

/-! ## Results to compare -/

/-- The sizes of one source are at least as bad as those of another. -/
structure Metrics.AtLeastAsBad (worse better : Metrics) : Prop where
  paths : better.cyclomaticComplexity ≤ worse.cyclomaticComplexity
  functionLength : better.averageFunctionLength ≤ worse.averageFunctionLength
  depth : better.maxNestingDepth ≤ worse.maxNestingDepth
  lines : better.linesOfCode ≤ worse.linesOfCode
  comments : worse.commentPercentage ≤ better.commentPercentage

/-- One result is at least as bad as another in all that scores go by. -/
structure AnalysisResult.AtLeastAsBad (worse better : AnalysisResult) : Prop where
  metrics : worse.metrics.AtLeastAsBad better.metrics
  majors : better.violations.majorCount ≤ worse.violations.majorCount
  minors : better.violations.minorCount ≤ worse.violations.minorCount
  majorSmells : SmellReport.countOf .major better.smells.smells ≤
    SmellReport.countOf .major worse.smells.smells
  minorSmells : SmellReport.countOf .minor better.smells.smells ≤
    SmellReport.countOf .minor worse.smells.smells
  errors : better.grammar.errors.length ≤ worse.grammar.errors.length
  vulnerabilities : better.security.findings.length ≤ worse.security.findings.length
  remarks : better.performance.length ≤ worse.performance.length

/-- The counts in a report on violations are not negative. -/
structure ViolationReport.IsCounted (v : ViolationReport) : Prop where
  major : 0 ≤ v.majorCount
  minor : 0 ≤ v.minorCount

/-- The scores and grades of a result. -/
structure Judgement where
  maintainability : Int
  reliability : Int
  overall : ℚ
  summary : Int
  cyclomaticGrade : Grade
  maintainabilityGrade : Grade
  reliabilityGrade : Grade
  overallGrade : Grade

/-- The judgement on a result, with steps that round as told. -/
def AnalysisResult.judgement (round : ℚ → ℚ) (r : AnalysisResult) : Judgement :=
  let index := Number.toScore (Score.maintainabilityWith round r.metrics)
  let reliability := Score.reliability r
  let overall := Score.overallWith round index r.metrics.cyclomaticComplexity reliability
  { maintainability := index
    reliability := reliability
    overall := overall
    summary := Number.toScore overall
    cyclomaticGrade := Score.cyclomaticGrade r.metrics.cyclomaticComplexity
    maintainabilityGrade := Score.maintainabilityGrade index
    reliabilityGrade := Score.scoreGrade reliability
    overallGrade := Score.scoreGrade overall }

/-- One judgement is no better than another: no score is higher, and no grade is better. -/
structure Judgement.NoBetter (worse better : Judgement) : Prop where
  maintainability : worse.maintainability ≤ better.maintainability
  reliability : worse.reliability ≤ better.reliability
  overall : worse.overall ≤ better.overall
  summary : worse.summary ≤ better.summary
  cyclomaticGrade : better.cyclomaticGrade.rank ≤ worse.cyclomaticGrade.rank
  maintainabilityGrade : better.maintainabilityGrade.rank ≤ worse.maintainabilityGrade.rank
  reliabilityGrade : better.reliabilityGrade.rank ≤ worse.reliabilityGrade.rank
  overallGrade : better.overallGrade.rank ≤ worse.overallGrade.rank

/-- What a result holds, and its overall score, are those of a judgement. -/
structure AnalysisResult.Tells (r : AnalysisResult) (j : Judgement) : Prop where
  cyclomatic : r.cyclomaticRating.map (·.grade) = some j.cyclomaticGrade
  maintainability : r.maintainabilityRating.map (fun rating => (rating.score, rating.grade)) =
    some (j.maintainability, j.maintainabilityGrade)
  reliability : r.reliabilityRating.map (fun rating => (rating.score, rating.grade)) =
    some (j.reliability, j.reliabilityGrade)
  overall : r.overallScore = j.overall
  overallGrade : r.overallGrade = j.overallGrade
  summary : r.summary.overallScore = j.summary

/-- A scored result tells the judgement whose steps round to binary fractions. -/
theorem AnalysisResult.tells_scored (r : AnalysisResult) :
    r.scored.Tells (r.judgement Number.toBinary) :=
  ⟨rfl, rfl, rfl, rfl, rfl, rfl⟩

namespace Score

/-! ## Steps that round -/

/-- What the steps of a computation may make of exact values. -/
structure IsRounding (round : ℚ → ℚ) : Prop where
  mono : Monotone round
  idem (q : ℚ) : round (round q) = round q
  zero : round 0 = 0

theorem isRounding_id : IsRounding id := ⟨monotone_id, fun _ => rfl, rfl⟩

theorem isRounding_toBinary : IsRounding Number.toBinary :=
  ⟨Number.toBinary_mono, Number.toBinary_toBinary, Number.toBinary_zero⟩

variable {round : ℚ → ℚ} {m n : Metrics} {r s : AnalysisResult}

/-! ## Maintainability -/

/-- What is left of 100 after the penalties for paths, long functions and deep blocks. -/
def structureLeft (round : ℚ → ℚ) (m : Metrics) : ℚ :=
  let afterPaths : ℚ := 100 - ((max 0 (m.cyclomaticComplexity - 10) * 2 : Int) : ℚ)
  let tooLong := Number.atLeastZero (round (m.averageFunctionLength - 20)) / 2
  round (round (afterPaths - tooLong) - ((max 0 (m.maxNestingDepth - 3) * 5 : Int) : ℚ))

/-- Whether a source is to be penalised for its few comments. -/
def lacksComments (m : Metrics) : Bool := 20 < m.linesOfCode && m.commentPercentage < 10

theorem maintainabilityWith_eq (round : ℚ → ℚ) (m : Metrics) :
    maintainabilityWith round m =
      if lacksComments m then round (structureLeft round m - round (10 - m.commentPercentage))
      else structureLeft round m := rfl

theorem structureLeft_anti (hround : IsRounding round) (h : m.AtLeastAsBad n) :
    structureLeft round m ≤ structureLeft round n := by
  have hpaths : max 0 (n.cyclomaticComplexity - 10) * 2 ≤ max 0 (m.cyclomaticComplexity - 10) * 2 := by
    have := h.paths
    omega
  have hlength : Number.atLeastZero (round (n.averageFunctionLength - 20)) ≤
      Number.atLeastZero (round (m.averageFunctionLength - 20)) :=
    Number.atLeastZero_mono (hround.mono (sub_le_sub_right h.functionLength 20))
  have hdepth : max 0 (n.maxNestingDepth - 3) * 5 ≤ max 0 (m.maxNestingDepth - 3) * 5 := by
    have := h.depth
    omega
  refine hround.mono (sub_le_sub (hround.mono ?_) (Int.cast_le.mpr hdepth))
  have hcast : ((max 0 (n.cyclomaticComplexity - 10) * 2 : Int) : ℚ) ≤
      ((max 0 (m.cyclomaticComplexity - 10) * 2 : Int) : ℚ) := Int.cast_le.mpr hpaths
  linarith

theorem lacksComments_mono (h : m.AtLeastAsBad n) (hn : lacksComments n = true) :
    lacksComments m = true := by
  rw [lacksComments, Bool.and_eq_true, decide_eq_true_iff, decide_eq_true_iff] at hn ⊢
  exact ⟨hn.1.trans_le h.lines, h.comments.trans_lt hn.2⟩

/-- The penalty for few comments takes something away: what is left before it came out of a step,
and a step does not raise it. -/
theorem round_structureLeft_sub_le (hround : IsRounding round) (hm : lacksComments m = true) :
    round (structureLeft round m - round (10 - m.commentPercentage)) ≤ structureLeft round m := by
  rw [lacksComments, Bool.and_eq_true, decide_eq_true_iff, decide_eq_true_iff] at hm
  have hpenalty : 0 ≤ round (10 - m.commentPercentage) :=
    hround.zero.symm.trans_le (hround.mono (by linarith [hm.2]))
  calc round (structureLeft round m - round (10 - m.commentPercentage))
      ≤ round (structureLeft round m) := hround.mono (sub_le_self _ hpenalty)
    _ = structureLeft round m := hround.idem _

theorem maintainabilityWith_anti (hround : IsRounding round) (h : m.AtLeastAsBad n) :
    maintainabilityWith round m ≤ maintainabilityWith round n := by
  have hleft := structureLeft_anti hround h
  rw [maintainabilityWith_eq, maintainabilityWith_eq]
  -- If `n` lacks comments so does `m`; if `m` alone does, the penalty has only to take something.
  split_ifs with hm hn hn
  · have hpenalty : round (10 - n.commentPercentage) ≤ round (10 - m.commentPercentage) :=
      hround.mono (sub_le_sub_left h.comments 10)
    exact hround.mono (sub_le_sub hleft hpenalty)
  · exact (round_structureLeft_sub_le hround hm).trans hleft
  · exact absurd (lacksComments_mono h hn) hm
  · exact hleft

/-! ## Reliability -/

/-- A penalty stays if its condition does. -/
theorem penalty_mono {p q : Prop} [Decidable p] [Decidable q] (h : p → q) (n : Nat) :
    (if p then (n : Int) else 0) ≤ if q then (n : Int) else 0 := by
  split_ifs with hp hq hq
  · exact le_rfl
  · exact absurd (h hp) hq
  · exact Int.natCast_nonneg n
  · exact le_rfl

theorem structuralPenalty_mono (h : m.AtLeastAsBad n) :
    structuralPenalty n ≤ structuralPenalty m := by
  have hdepth (bound : Int) (hn : bound < n.maxNestingDepth) : bound < m.maxNestingDepth :=
    hn.trans_le h.depth
  have hlength (bound : ℚ) (hn : bound < n.averageFunctionLength) :
      bound < m.averageFunctionLength := hn.trans_le h.functionLength
  have hcomments (hn : n.commentPercentage < 5) : m.commentPercentage < 5 :=
    h.comments.trans_lt hn
  have hpaths (bound : Int) (hn : bound < n.cyclomaticComplexity) :
      bound < m.cyclomaticComplexity := hn.trans_le h.paths
  unfold structuralPenalty
  -- One summand for each condition, in the order in which they are added up.
  exact add_le_add (add_le_add (add_le_add (add_le_add (add_le_add (add_le_add
    (penalty_mono (hdepth 6) 5) (penalty_mono (hdepth 8) 10)) (penalty_mono (hlength 40) 5))
    (penalty_mono (hlength 60) 10)) (penalty_mono hcomments 5)) (penalty_mono (hpaths 15) 8))
    (penalty_mono (hpaths 25) 15)

theorem structuralPenalty_nonneg (m : Metrics) : 0 ≤ structuralPenalty m := by
  unfold structuralPenalty
  split_ifs <;> decide

theorem findingPenalty_mono (h : r.AtLeastAsBad s) : findingPenalty s ≤ findingPenalty r := by
  obtain ⟨-, hmajors, hminors, hmajorSmells, hminorSmells, herrors, hvulnerabilities, hremarks⟩ := h
  unfold findingPenalty
  omega

theorem reliability_anti (h : r.AtLeastAsBad s) : reliability r ≤ reliability s := by
  have hfound := findingPenalty_mono h
  have hstructure := structuralPenalty_mono h.metrics
  unfold reliability
  omega

/-- Reliability lies within 0 and 100 if the counts of violations are not negative. -/
theorem reliability_mem (h : r.violations.IsCounted) : 0 ≤ reliability r ∧ reliability r ≤ 100 := by
  obtain ⟨hmajor, hminor⟩ := h
  have hstructure := structuralPenalty_nonneg r.metrics
  have hfound : 0 ≤ findingPenalty r := by
    unfold findingPenalty
    omega
  unfold reliability
  omega

/-! ## The overall score -/

theorem tenths_nonneg (n : Nat) : 0 ≤ tenths n := Number.toBinary_nonneg (by positivity)

theorem overallWith_mono (hround : IsRounding round) {index index' paths paths' mark mark' : Int}
    (hindex : index ≤ index') (hpaths : paths' ≤ paths) (hmark : mark ≤ mark') :
    overallWith round index paths mark ≤ overallWith round index' paths' mark' := by
  have hkept : round (index * tenths 4) ≤ round (index' * tenths 4) :=
    hround.mono (mul_le_mul_of_nonneg_right (Int.cast_le.mpr hindex) (tenths_nonneg 4))
  have hsimple : round (round ((100 - paths * 5 : Int) : ℚ) * tenths 3) ≤
      round (round ((100 - paths' * 5 : Int) : ℚ) * tenths 3) :=
    hround.mono (mul_le_mul_of_nonneg_right
      (hround.mono (Int.cast_le.mpr (by omega))) (tenths_nonneg 3))
  have hreliable : round (mark * tenths 3) ≤ round (mark' * tenths 3) :=
    hround.mono (mul_le_mul_of_nonneg_right (Int.cast_le.mpr hmark) (tenths_nonneg 3))
  exact hround.mono (add_le_add (hround.mono (add_le_add hkept hsimple)) hreliable)

/-! ## Grades -/

/-- A score that is no higher has a grade that is no better. -/
theorem rank_band_anti (first second third : ℚ) {p q : ℚ} (h : p ≤ q) :
    (band first second third q).rank ≤ (band first second third p).rank := by
  unfold band
  split_ifs <;> first | decide | exact absurd (lt_of_lt_of_le ‹_› h) ‹_›

/-- The grade of more paths is no better. -/
theorem rank_cyclomaticGrade_mono {i j : Int} (h : i ≤ j) :
    (cyclomaticGrade i).rank ≤ (cyclomaticGrade j).rank := by
  unfold cyclomaticGrade
  split_ifs <;> first | omega | decide

/-! ## Judgements -/

/-- The judgement on a result that is at least as bad is no better. -/
theorem judgement_noBetter (hround : IsRounding round) (h : r.AtLeastAsBad s) :
    (r.judgement round).NoBetter (s.judgement round) := by
  have hindex : (r.judgement round).maintainability ≤ (s.judgement round).maintainability :=
    Number.toScore_mono (maintainabilityWith_anti hround h.metrics)
  have hreliability : (r.judgement round).reliability ≤ (s.judgement round).reliability :=
    reliability_anti h
  have hoverall : (r.judgement round).overall ≤ (s.judgement round).overall :=
    overallWith_mono hround hindex h.metrics.paths hreliability
  exact {
    maintainability := hindex
    reliability := hreliability
    overall := hoverall
    summary := Number.toScore_mono hoverall
    cyclomaticGrade := rank_cyclomaticGrade_mono h.metrics.paths
    maintainabilityGrade := rank_band_anti 80 60 40 (Int.cast_le.mpr hindex)
    reliabilityGrade := rank_band_anti 85 70 50 (Int.cast_le.mpr hreliability)
    overallGrade := rank_band_anti 85 70 50 hoverall }

end Score

/-! ## Analyses -/

theorem ViolationReport.isCounted_ofFindings (raw : List RawIssue) : (ofFindings raw).IsCounted :=
  ⟨Int.natCast_nonneg _, Int.natCast_nonneg _⟩

/-- What a service says leaves the violations as they are. -/
theorem AnalysisResult.violations_of_merged {r merged : AnalysisResult} {o : Remote.Outcome}
    (h : r.merged o = .ok merged) : merged.violations = r.violations := by
  cases o with
  | unavailable reason | failed f =>
    obtain rfl := Except.ok.inj h
    rfl
  | answered a =>
    cases a with
    | payload p =>
      obtain rfl := Except.ok.inj h
      rfl
    | prose t =>
      rw [AnalysisResult.merged, withProse] at h
      cases hreport : Remote.salvage t with
      | error o =>
        rw [hreport] at h
        cases h
      | ok report =>
        rw [hreport] at h
        obtain rfl := Except.ok.inj h
        dsimp only
        split_ifs <;> rfl

namespace Analyzer

variable (a : Analyzer)

theorem isCounted_analysisOf {s : Subject} {detection : Detection} {metrics : Metrics}
    {order : List Stage} {r : AnalysisResult}
    (h : (a.analysisOf s detection metrics order).result = some r) : r.violations.IsCounted := by
  have hfound : (a.locally s detection metrics (a.outputs s order)).violations.IsCounted :=
    ViolationReport.isCounted_ofFindings _
  unfold analysisOf at h
  dsimp only at h
  split at h
  · obtain rfl := Option.some.inj h
    exact hfound
  · -- The service may add to other lists, not to the violations.
    split at h
    · next merged hmerged =>
      obtain rfl := Option.some.inj h
      exact AnalysisResult.violations_of_merged hmerged ▸ hfound
    · cases h

theorem isCounted_freshly {source : Text} {detection : Detection} {order : List Stage}
    {r : AnalysisResult} (h : (a.freshly source detection order).result = some r) :
    r.violations.IsCounted := by
  unfold freshly at h
  split at h
  · cases h
  · dsimp only at h
    split at h
    · cases h
    · exact a.isCounted_analysisOf h

/-- The counts of violations in any analysis are not negative. -/
theorem isCounted_analyze (source : Text) (declared file : Option String) :
    (a.analyze source declared file).violations.IsCounted := by
  have hempty : (AnalysisResult.empty (a.resolve source declared file) source).violations.IsCounted :=
    ViolationReport.isCounted_ofFindings []
  cases hsource : source.isBlank with
  | true => exact analyze_of_isBlank a declared file hsource ▸ hempty
  | false =>
    rw [analyze_eq_getD a declared file hsource]
    cases hresult : (a.freshly source (a.resolve source declared file) Stage.independent).result with
    | none => exact hempty
    | some r => exact a.isCounted_freshly hresult

end Analyzer

/-! ## Reports on vulnerabilities -/

namespace SecurityReport

variable {xs ys : List SecurityFinding}

/-- The place of a grade; the best has the lowest. -/
def gradeRank (grade : String) : Nat := ["A", "B", "C", "D", "F"].idxOf grade

/-- What findings take from the score. -/
def penaltyOf (findings : List SecurityFinding) : Nat :=
  (findings.map fun f => f.severity.penalty).sum

theorem scoreOf_eq (findings : List SecurityFinding) :
    scoreOf findings = max 0 (100 - (penaltyOf findings : Int)) := rfl

theorem penaltyOf_perm (h : xs.Perm ys) : penaltyOf xs = penaltyOf ys := (h.map _).sum_eq

/-- More findings take more from the score. -/
theorem penaltyOf_mono (h : xs.Subperm ys) : penaltyOf xs ≤ penaltyOf ys := by
  obtain ⟨kept, hkept, hsub⟩ := h
  calc penaltyOf xs = penaltyOf kept := penaltyOf_perm hkept.symm
    _ ≤ penaltyOf ys := (hsub.map _).sum_le_sum fun _ _ => Nat.zero_le _

theorem scoreOf_mem (findings : List SecurityFinding) :
    0 ≤ scoreOf findings ∧ scoreOf findings ≤ 100 := by
  rw [scoreOf_eq]
  omega

theorem scoreOf_perm (h : xs.Perm ys) : scoreOf xs = scoreOf ys := by
  rw [scoreOf_eq, scoreOf_eq, penaltyOf_perm h]

theorem scoreOf_anti (h : xs.Subperm ys) : scoreOf ys ≤ scoreOf xs := by
  have hpenalty := penaltyOf_mono h
  rw [scoreOf_eq, scoreOf_eq]
  omega

/-- A score that is no higher has a grade that is no better. -/
theorem gradeRank_gradeOf_anti {m n : Int} (h : m ≤ n) :
    gradeRank (gradeOf n) ≤ gradeRank (gradeOf m) := by
  unfold gradeOf
  split_ifs <;> first | omega | decide

end SecurityReport

/-! ## All scores and grades -/

/-- Within the scale of scores. -/
def Score.InScale (n : Int) : Prop := 0 ≤ n ∧ n ≤ 100

/-- Scoring keeps the order of results, with steps that are exact and with steps that round to
binary fractions, as those of scored results do: where one result is at least as bad as another in
all that scores go by, no score of it is higher and no grade better. All scores but the overall one
lie within 0 and 100, reliability where the counts of violations are none below zero, as in every
analysis. The score of a report on vulnerabilities does not depend on the order of the findings, and
with more of them neither score nor grade is better. -/
theorem Score.scoring_monotone :
    (IsRounding id ∧ IsRounding Number.toBinary ∧
      ∀ r : AnalysisResult, r.scored.Tells (r.judgement Number.toBinary)) ∧
    (∀ round, IsRounding round →
      (∀ worse better : AnalysisResult, worse.AtLeastAsBad better →
        (worse.judgement round).NoBetter (better.judgement round)) ∧
      ∀ r : AnalysisResult,
        InScale (r.judgement round).maintainability ∧ InScale (r.judgement round).summary ∧
        (r.violations.IsCounted → InScale (r.judgement round).reliability)) ∧
    (∀ (a : Analyzer) (source : Text) (declared file : Option String),
      (a.analyze source declared file).violations.IsCounted) ∧
    ∀ few many : List SecurityFinding,
      InScale (SecurityReport.ofFindings few).score ∧
      (few.Perm many →
        (SecurityReport.ofFindings many).score = (SecurityReport.ofFindings few).score ∧
        (SecurityReport.ofFindings many).grade = (SecurityReport.ofFindings few).grade) ∧
      (few.Subperm many →
        (SecurityReport.ofFindings many).score ≤ (SecurityReport.ofFindings few).score ∧
        SecurityReport.gradeRank (SecurityReport.ofFindings few).grade ≤
          SecurityReport.gradeRank (SecurityReport.ofFindings many).grade) := by
  refine ⟨⟨isRounding_id, isRounding_toBinary, AnalysisResult.tells_scored⟩, ?rounding,
    Analyzer.isCounted_analyze, ?security⟩
  case rounding =>
    intro round hround
    refine ⟨fun worse better h => judgement_noBetter hround h, fun r => ⟨?_, ?_, ?_⟩⟩
    · exact Number.toScore_mem _
    · exact Number.toScore_mem _
    · exact fun hcounted => reliability_mem hcounted
  case security =>
    intro few many
    refine ⟨SecurityReport.scoreOf_mem few, fun hperm => ?_, fun hmore => ?_⟩
    · have hscore := (SecurityReport.scoreOf_perm hperm).symm
      exact ⟨hscore, congrArg SecurityReport.gradeOf hscore⟩
    · have hscore := SecurityReport.scoreOf_anti hmore
      exact ⟨hscore, SecurityReport.gradeRank_gradeOf_anti hscore⟩

/-- A source that gets as many branches as to lose its grade for them, and loses comments: all its
scores fall. Two vulnerabilities in either order take more than the graver one alone. -/
theorem Score.scoring_monotone_branches :
    let before : AnalysisResult :=
      { language := "python", detection := { language := "python", confidence := 100 }
        metrics := { linesOfCode := 30, commentPercentage := 12 } }
    let after : AnalysisResult :=
      { before with
        metrics := { before.metrics with cyclomaticComplexity := 30, commentPercentage := 4 } }
    let grave : SecurityFinding := ⟨"1", "", .critical, "", "", "", "", "", "", "", none⟩
    let slight : SecurityFinding := { grave with severity := .low }
    (after.AtLeastAsBad before ∧
      (after.judgement Number.toBinary).NoBetter (before.judgement Number.toBinary) ∧
      (after.judgement id).NoBetter (before.judgement id) ∧
      (before.judgement id).maintainability = 100 ∧ (after.judgement id).maintainability = 54) ∧
    (after.violations.IsCounted ∧ InScale (after.judgement id).reliability ∧
      (after.judgement id).reliability = 72) ∧
    ([slight, grave].Perm [grave, slight] ∧
      (SecurityReport.ofFindings [grave, slight]).score =
        (SecurityReport.ofFindings [slight, grave]).score) ∧
    [grave].Subperm [slight, grave] ∧
      (SecurityReport.ofFindings [slight, grave]).score ≤
        (SecurityReport.ofFindings [grave]).score ∧
      (SecurityReport.ofFindings [slight, grave]).score = 72 := by
  intro before after grave slight
  have hworse : after.AtLeastAsBad before :=
    { metrics := ⟨by decide, by decide, by decide, by decide, by decide⟩
      majors := by decide
      minors := by decide
      majorSmells := by decide
      minorSmells := by decide
      errors := by decide
      vulnerabilities := by decide
      remarks := by decide }
  have hcounted : after.violations.IsCounted := ⟨by decide, by decide⟩
  have hswapped : [slight, grave].Perm [grave, slight] := .swap ..
  have hmore : [grave].Subperm [slight, grave] := (List.sublist_cons_self slight [grave]).subperm
  obtain ⟨-, hscores, -, hreports⟩ := scoring_monotone
  exact ⟨⟨hworse, (hscores _ isRounding_toBinary).1 _ _ hworse,
      (hscores _ isRounding_id).1 _ _ hworse, by decide +kernel, by decide +kernel⟩,
    ⟨hcounted, ((hscores _ isRounding_id).2 after).2.2 hcounted, by decide +kernel⟩,
    ⟨hswapped, ((hreports _ _).2.1 hswapped).1⟩,
    hmore, ((hreports _ _).2.2 hmore).1, by decide +kernel⟩

end SourceAudit
