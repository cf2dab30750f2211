import SourceAudit.Proofs.Analyzer.FailingStages
import SourceAudit.Proofs.Analyzer.SharedStore
import SourceAudit.Proofs.Detector.FindingLines
import SourceAudit.Proofs.Source.PreparedLines
import SourceAudit.Proofs.Syntax.BracketReport
import SourceAudit.Proofs.Text.LinePositions
import SourceAudit.Proofs.Violation.SmellInventory

/-!
  Lines and places that a result speaks of.

  What is proved:
    1. `lacksSemicolon_nil`, `lacksColon_nil` — nothing is missing at the end of an empty
       line, so what is missing is missing behind a character; hence warnings, and errors
       that are not about brackets, stand at a character of the line they are about
       (`standsOn_scanFrom`), and so do all findings about the syntax of a source
       (`isPlace_of_mem_findings`).
    2. `isLine_ofFindings` — violations and smells are on lines of the findings they come
       from.
    3. `isLine_lineOf` — every offset lies in a line of the text.
    4. `liesWithin_locally`, `LiesWithin.scored` — a result of the stages speaks of
       lines of its source, and so do the judgements on it.
    5. `analyze_liesWithin` — so does the analysis of any source without a service.
-/
namespace SourceAudit

/-! ## Syntax findings -/

namespace SyntaxCheck

theorem lacksSemicolon_nil : lacksSemicolon [] = false := by decide +kernel

theorem lacksColon_nil : lacksColon [] = false := by decide +kernel

/-- Whether a finding stands at a character of some lines, the first of which has the given
number. -/
def StandsOn (number : Nat) (ls : List Text) (f : SyntaxFinding) : Prop :=
  ∃ (i : Nat) (row : Text), ls[i]? = some row ∧ f.line = number + i ∧ 1 ≤ f.column ∧
    f.column ≤ row.length

theorem StandsOn.cons {number : Nat} {ls : List Text} {f : SyntaxFinding}
    (h : StandsOn (number + 1) ls f) (line : Text) : StandsOn number (line :: ls) f := by
  obtain ⟨i, row, hrow, hline, hcolumn⟩ := h
  exact ⟨i + 1, row, by simpa using hrow, by omega, hcolumn⟩

theorem length_trimRight_le (line : Text) : line.trimRight.length ≤ line.length := by
  have hkept := (List.dropWhile_sublist (l := line.reverse) Unicode.isBlank).length_le
  simpa [Text.trimRight] using hkept

theorem standsOn_missingSemicolon {line : Text} (h : lacksSemicolon line.trimRight = true)
    (number : Nat) (rest : List Text) :
    StandsOn number (line :: rest) (missingSemicolon number line.trimRight) := by
  have hne : line.trimRight ≠ [] := by
    intro hnil
    rw [hnil, lacksSemicolon_nil] at h
    cases h
  have hpos := List.length_pos_iff.mpr hne
  have hle := length_trimRight_le line
  exact ⟨0, line, rfl, by simp [missingSemicolon], Int.ofNat_le.mpr hpos, Int.ofNat_le.mpr hle⟩

theorem standsOn_missingColon {line : Text} (h : lacksColon line.trimRight = true)
    (number : Nat) (rest : List Text) :
    StandsOn number (line :: rest) (missingColon number line.trimRight) := by
  have hne : line.trimRight ≠ [] := by
    intro hnil
    rw [hnil, lacksColon_nil] at h
    cases h
  have hpos := List.length_pos_iff.mpr hne
  have hle := length_trimRight_le line
  exact ⟨0, line, rfl, by simp [missingColon], Int.ofNat_le.mpr hpos, Int.ofNat_le.mpr hle⟩

/-- Warnings, and errors that are not about brackets, stand at a character of a line. -/
theorem standsOn_scanFrom (language : String) (number : Nat) (stack : List Bracket)
    (ls : List Text) :
    (∀ f ∈ (scanFrom language number stack ls).1, f.aboutBracket = true ∨ StandsOn number ls f) ∧
      ∀ f ∈ (scanFrom language number stack ls).2.1, StandsOn number ls f := by
  induction ls generalizing number stack with
  | nil => exact ⟨nofun, nofun⟩
  | cons line rest ih =>
    obtain ⟨herrors, hwarnings⟩ :=
      ih (number + 1) (Bracket.scan stack (Bracket.onLine number line)).2
    simp only [scanFrom]
    refine ⟨fun f hf => ?_, fun f hf => ?_⟩
    · rcases List.mem_append.mp hf with hfound | hf
      · exact .inl (Bracket.aboutBracket_of_mem_scan hfound)
      split at hf
      · next hcolon =>
        rcases List.mem_cons.mp hf with rfl | hf
        · exact .inr (standsOn_missingColon (Bool.and_eq_true_iff.mp hcolon).2 number rest)
        · exact (herrors f hf).imp_right fun h => h.cons line
      · exact (herrors f hf).imp_right fun h => h.cons line
    · split at hf
      · next hsemicolon =>
        rcases List.mem_cons.mp hf with rfl | hf
        · exact standsOn_missingSemicolon (Bool.and_eq_true_iff.mp hsemicolon).2 number rest
        · exact (hwarnings f hf).cons line
      · exact (hwarnings f hf).cons line

variable {l : Language} {t : Text} {f : SyntaxFinding}

theorem StandsOn.isPlace (h : StandsOn 1 (prepare l t).maskedLines f) :
    t.IsPlace f.line f.column := by
  obtain ⟨i, row, hrow, hline, hfirst, hlast⟩ := h
  have hplace := isPlace_of_maskedLines hrow hfirst hlast
  rwa [show f.line = i + 1 by omega]

/-- A finding about a bracket stands at a bracket. -/
theorem isPlace_of_mem_bracketFindings (h : f ∈ (ofSource (prepare l t)).bracketFindings) :
    t.IsPlace f.line f.column := by
  obtain ⟨b, hb, hplace⟩ :=
    List.mem_map.mp ((bracketFindings_places l t).subset (List.mem_map_of_mem h))
  obtain ⟨i, row, k, hrow, hk, hline, hcolumn⟩ := Bracket.mem_ofLines hb
  obtain ⟨hl, hc⟩ := Prod.mk.inj hplace
  have hlt := (List.getElem?_eq_some_iff.mp hk).1
  exact StandsOn.isPlace ⟨i, row, hrow, by omega, by omega, by omega⟩

/-- Every finding about the syntax of a source stands at a character of it. -/
theorem isPlace_of_mem_findings (h : f ∈ (ofSource (prepare l t)).findings) :
    t.IsPlace f.line f.column := by
  by_cases hbracket : f.aboutBracket = true
  · exact isPlace_of_mem_bracketFindings (List.mem_filter.mpr ⟨h, hbracket⟩)
  obtain ⟨herrors, hwarnings⟩ :=
    standsOn_scanFrom (prepare l t).language.name 1 [] (prepare l t).maskedLines
  unfold ofSource at h
  split at h
  · cases h
  · simp only [SyntaxReport.findings, List.append_nil, List.mem_append, List.mem_mergeSort] at h
    rcases h with (herror | hopen) | hwarning
    · exact ((herrors f herror).resolve_left hbracket).isPlace
    · obtain ⟨b, -, rfl⟩ := List.mem_map.mp hopen
      exact absurd rfl hbracket
    · exact (hwarnings f hwarning).isPlace

end SyntaxCheck

/-! ## Violations and smells -/

section
variable {t : Text} {raw : List RawIssue}

/-- Violations are on lines of the findings. -/
theorem ViolationReport.isLine_ofFindings (h : ∀ i ∈ raw, t.IsLine i.line) :
    ∀ i ∈ (ofFindings raw).lineReferences, t.IsLine i.line := by
  intro i hi
  have hline : i.line ∈ (Merge.issues raw).map (·.line) := List.mem_map_of_mem hi
  rw [Merge.issues_lines, Merge.mem_linesOf] at hline
  obtain ⟨r, hr, heq⟩ := List.mem_map.mp hline
  exact heq ▸ h r hr

/-- Smells are on lines of the findings. -/
theorem SmellReport.isLine_ofFindings (h : ∀ i ∈ raw, t.IsLine i.line) :
    ∀ s ∈ (ofFindings raw).smells, t.IsLine s.line := by
  intro s hs
  obtain ⟨i, hfirst, hsmell⟩ := mem_smells_ofFindings.mp hs
  have hline : s.line = i.line := congrArg Prod.snd (Smell.mark_of_ofFinding? hsmell)
  exact hline ▸ h i (List.mem_of_find?_eq_some hfirst)

end

/-! ## Vulnerabilities -/

namespace LineTable

/-- Every offset lies in a line of the text, for the first line starts at offset zero. -/
theorem isLine_lineOf (t : Text) (offset : Nat) : t.IsLine ((ofText t).lineOf offset) := by
  have hlength : (startsFrom 0 t).length + 1 = t.lines.length := by
    rw [length_startsFrom_eq_count, Text.lines, Text.length_splitOn]
  have hle := (List.takeWhile_sublist (l := startsFrom 0 t) fun s => decide (s ≤ offset)).length_le
  have hfirst : (ofText t).lineOf offset =
      ((startsFrom 0 t).takeWhile fun s => decide (s ≤ offset)).length + 1 := by
    simp [lineOf, ofText]
  rw [hfirst]
  exact ⟨by omega, by omega⟩

end LineTable

theorem SecurityFinding.isLine_of_mem_ofText {t : Text} {f : SecurityFinding} (h : f ∈ ofText t) :
    ∃ n, f.line = some n ∧ t.IsLine n := by
  unfold ofText at h
  split at h
  · cases h
  · obtain ⟨⟨s, p⟩, -, hf⟩ := List.mem_filterMap.mp h
    obtain ⟨m, -, rfl⟩ := Option.map_eq_some_iff.mp hf
    exact ⟨_, rfl, LineTable.isLine_lineOf t m.start⟩

/-! ## Results -/

namespace AnalysisResult

/-- A result speaks of lines and places of a text: all violations, smells, vulnerabilities and
pieces of advice are on lines, findings about syntax at characters, and functions begin and end
on lines, in this order. -/
structure LiesWithin (t : Text) (r : AnalysisResult) : Prop where
  violations : ∀ i ∈ r.violations.lineReferences, t.IsLine i.line
  violationGroups : ∀ g ∈ r.violations.categories, ∀ i ∈ g.2, t.IsLine i.line
  smells : ∀ s ∈ r.smells.smells, t.IsLine s.line
  smellGroups : ∀ g ∈ r.smells.categories, ∀ s ∈ g.2, t.IsLine s.line
  grammar : ∀ f ∈ r.grammar.findings, t.IsPlace f.line f.column
  security : ∀ f ∈ r.security.findings, ∃ n, f.line = some n ∧ t.IsLine n
  recommendations : ∀ x ∈ r.recommendations, ∃ n, x.line = some n ∧ t.IsLine n
  functions : ∀ f ∈ r.metrics.functions, f.Lies t

theorem liesWithin_empty (t : Text) (detection : Detection) (source : Text) :
    (empty detection source).LiesWithin t :=
  ⟨nofun, nofun, nofun, nofun, nofun, nofun, nofun, nofun⟩

/-- Advice is on the lines of violations. -/
theorem LiesWithin.scored {t : Text} {r : AnalysisResult} (h : r.LiesWithin t) :
    r.scored.LiesWithin t :=
  { h with
    recommendations := by
      intro x hx
      obtain ⟨i, hi, rfl⟩ := List.mem_map.mp hx
      exact ⟨i.line, rfl, h.violations i hi⟩ }

end AnalysisResult

namespace Analyzer

variable {a : Analyzer} {l : Language} {t : Text}

/-- The stages speak of lines of the source. -/
theorem liesWithin_locally (hdetectors : ∀ d ∈ a.detectors, d.StaysWithin) (name : String)
    (c : Context) (detection : Detection) :
    let s : Subject := ⟨t, name, prepare l t, c⟩
    (a.locally s detection (Metrics.ofSource s.prepared 1)
      (a.outputs s Stage.independent)).LiesWithin t := by
  intro s
  have hfindings : ∀ i ∈ (a.outputs s Stage.independent).findings.getD [], t.IsLine i.line := by
    rw [outputs_independent]
    dsimp only
    rw [getD_guarded]
    split
    · exact nofun
    · exact fun i hi => Detector.isLine_of_mem_findings hdetectors hi
  have hviolations := ViolationReport.isLine_ofFindings hfindings
  have hsmells := SmellReport.isLine_ofFindings hfindings
  exact {
    violations := hviolations
    violationGroups := fun g hg i hi => hviolations i (Groups.mem_byKey hg hi)
    smells := hsmells
    smellGroups := fun g hg x hx => hsmells x (Groups.mem_byKey hg hx)
    grammar := by
      change ∀ f ∈ ((a.guarded .grammar fun _ =>
        some (SyntaxCheck.ofSource s.prepared)).getD {}).findings, t.IsPlace f.line f.column
      rw [getD_guarded]
      split
      · exact nofun
      · exact fun f => SyntaxCheck.isPlace_of_mem_findings
    security := by
      change ∀ f ∈ ((a.outputs s Stage.independent).security.getD (.ofFindings [])).findings,
        ∃ n, f.line = some n ∧ t.IsLine n
      rw [outputs_independent]
      dsimp only
      rw [getD_guarded]
      split
      · exact nofun
      · exact fun f => SecurityFinding.isLine_of_mem_ofText
    recommendations := nofun
    functions := fun f => Metrics.lies_of_mem_functions }

theorem liesWithin_freshly (hdetectors : ∀ d ∈ a.detectors, d.StaysWithin)
    (hoff : a.gateway.isActive = false) (detection : Detection) {r : AnalysisResult}
    (h : (a.freshly t detection Stage.independent).result = some r) : r.LiesWithin t := by
  unfold freshly at h
  split at h
  · cases h
  · next l hl =>
    dsimp only at h
    split at h
    · cases h
    · next metrics hmetrics =>
      rw [guarded_eq] at hmetrics
      split at hmetrics
      · cases hmetrics
      · obtain rfl := Option.some.inj hmetrics
        have hexchange : (a.outputs
            ⟨t, detection.language, prepare l t, Context.ofSource (prepare l t)⟩
            Stage.independent).exchange = none := by
          rw [outputs_independent, hoff]
          rfl
        unfold analysisOf at h
        dsimp only at h
        rw [hexchange] at h
        obtain rfl := Option.some.inj h
        exact (liesWithin_locally hdetectors _ _ detection).scored

/-- Every line and place that the analysis of a source speaks of is one of the source, for any
configuration whose service is switched off, whatever language is declared or recognised. -/
theorem analyze_liesWithin {c : Config} {server : Remote.Server} {a : Analyzer}
    (ha : ofConfig? c server = .ok a) (hoff : a.gateway.isActive = false) (source : Text)
    (declared file : Option String) : (a.analyze source declared file).LiesWithin source := by
  have hdetectors : ∀ d ∈ a.detectors, d.StaysWithin := by
    obtain ⟨-, rfl⟩ := ofConfig?_eq_ok_iff.mp ha
    exact fun d => Detector.staysWithin_of_mem_battery
  cases hsource : source.isBlank with
  | true =>
    rw [analyze_of_isBlank a declared file hsource]
    exact AnalysisResult.liesWithin_empty _ _ _
  | false =>
    rw [analyze_eq_getD a declared file hsource]
    cases hresult : (a.freshly source (a.resolve source declared file) Stage.independent).result with
    | none => exact AnalysisResult.liesWithin_empty _ _ _
    | some r => exact liesWithin_freshly hdetectors hoff _ hresult

/-- A source that is cut off within a function: two brackets stay open, and the function ends with
the last line. -/
theorem analyze_liesWithin_cut :
    let server : Remote.Server := fun _ => .timeout
    let a := under Config.usual server
    let source := "function f(x) \x7b\n  let total = 42\n  eval(x".toList
    let r := a.analyze source (some "javascript") none
    ofConfig? Config.usual server = .ok a ∧ a.gateway.isActive = false ∧
      (r.metrics.functions.map fun f => (f.startLine, f.endLine)) = [(1, 3)] ∧
      (r.grammar.warnings.map fun f => (f.line, f.column)) = [(2, 16)] ∧ r.LiesWithin source := by
  intro server a source r
  have ha : ofConfig? Config.usual server = .ok a := ofConfig?_eq_ok_iff.mpr ⟨by decide, rfl⟩
  have hoff : a.gateway.isActive = false := by decide
  exact ⟨ha, hoff, by decide +kernel, by decide +kernel, analyze_liesWithin ha hoff source _ _⟩

end Analyzer
end SourceAudit
