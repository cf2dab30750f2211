import SourceAudit.Remote.Merge

/-!
  What an answer adds to a result, and what it leaves alone.

  An answer contributes findings of five kinds (`Contribution`): syntax findings of
  three severities, security findings and performance findings. Each kind has a
  list of its own in a result. What is proved:
    1. `contribution?_eq_none_iff` — only prose that mentions a line by too many
       digits contributes nothing that can be read, and spoils the merge.
    2. `merged_keeps_iff` — findings on security and on performance are added behind
       those that are there. The three lists about syntax are replaced together, so
       a list of which the answer has nothing stays as it is exactly if it is empty
       or the answer has nothing about syntax at all.
    3. `not_keeps_errors` — an answer that only suggests something takes away the
       error and the warning that are there.
-/
namespace SourceAudit

/-- The findings of a severity in a report on syntax. -/
def SyntaxReport.ofSeverity (r : SyntaxReport) : SyntaxSeverity → List SyntaxFinding
  | .error => r.errors
  | .warning => r.warnings
  | .info => r.suggestions

namespace Remote

/-- What an answer contributes, list by list. -/
structure Contribution where
  grammar : SyntaxReport := {}
  security : List SecurityFinding := []
  performance : List PerformanceFinding := []

/-! ## Prose -/

namespace Salvage

/-- Prose that mentions a line by more digits than are read. -/
def Exceeds (t : Text) : Prop := ∃ line ∈ t.lines, ∃ o, mentioned 1 line.trim = .error o

/-- Whether a mention is read does not depend on the line mentioned before. -/
theorem mentioned_eq_error_iff (usual other : Nat) (line : Text) (o : Number.Overlong) :
    mentioned usual line = .error o ↔ mentioned other line = .error o := by
  unfold mentioned
  split
  · exact ⟨nofun, nofun⟩
  · exact Iff.rfl

/-- The findings of some lines are missing exactly if one of the lines exceeds what is read. -/
theorem exists_findingsFrom_eq_error_iff (number : Nat) (ls : List Text) :
    (∃ o, findingsFrom number ls = .error o) ↔
      ∃ line ∈ ls, ∃ o, mentioned 1 line.trim = .error o := by
  induction ls generalizing number with
  | nil => simp [findingsFrom]
  | cons line rest ih =>
    simp only [List.mem_cons, exists_eq_or_imp]
    cases hline : mentioned number line.trim with
    | error o =>
      have hone : mentioned 1 line.trim = .error o := (mentioned_eq_error_iff _ _ _ _).mp hline
      simp [findingsFrom, hline, hone]
    | ok next =>
      have hone : ¬ ∃ o, mentioned 1 line.trim = .error o := by
        rintro ⟨o, ho⟩
        rw [(mentioned_eq_error_iff 1 number line.trim o).mp ho] at hline
        cases hline
      rw [or_iff_right hone, ← ih next]
      simp only [findingsFrom, hline]
      cases findingsFrom next rest <;> simp [Except.map]

end Salvage

theorem exists_salvage_eq_error_iff (t : Text) :
    (∃ o, salvage t = .error o) ↔ Salvage.Exceeds t := by
  rw [Salvage.Exceeds, ← Salvage.exists_findingsFrom_eq_error_iff 1, salvage, Salvage.findings]
  cases Salvage.findingsFrom 1 t.lines <;> simp [Except.map]

/-! ## Answers -/

namespace Answer

/-- What an answer contributes, if it can be read. -/
def contribution? : Answer → Option Contribution
  | .payload p =>
    some {
      grammar := p.syntaxReport
      security := p.securityFindings
      performance := p.performance.map PerformanceRemark.finding }
  | .prose t =>
    match salvage t with
    | .ok report => some { grammar := report }
    | .error _ => none

theorem contribution?_eq_none_iff (a : Answer) :
    a.contribution? = none ↔ ∃ t, a = .prose t ∧ Salvage.Exceeds t := by
  cases a with
  | payload p => simp [contribution?]
  | prose t =>
    simp only [prose.injEq, exists_eq_left', ← exists_salvage_eq_error_iff, contribution?]
    cases salvage t <;> simp

end Answer

namespace Payload

/-- A payload says something about the syntax exactly if its report has findings. -/
theorem hasSyntax_iff (p : Payload) : p.hasSyntax = true ↔ p.syntaxReport.findings ≠ [] := by
  simp only [hasSyntax, syntaxReport, SyntaxReport.findings, ne_eq, List.append_eq_nil_iff,
    List.map_eq_nil_iff, Bool.not_eq_true', ← Bool.not_eq_true, Bool.and_eq_true,
    List.isEmpty_iff]

theorem securityFindings_eq_nil_iff (p : Payload) :
    p.securityFindings = [] ↔ p.security = [] := by
  simp [securityFindings]

end Payload
end Remote

/-! ## Merged results -/

namespace AnalysisResult

open Remote

/-- A merged result keeps the lists of which a contribution has nothing. -/
structure Keeps (r : AnalysisResult) (c : Contribution) (merged : AnalysisResult) : Prop where
  grammar : ∀ s, c.grammar.ofSeverity s = [] → merged.grammar.ofSeverity s = r.grammar.ofSeverity s
  security : c.security = [] → merged.security.findings = r.security.findings
  performance : c.performance = [] → merged.performance = r.performance

/-- A merged result: the report on syntax is that of the contribution, if it has findings, and
other findings are added. -/
structure Receives (r : AnalysisResult) (c : Contribution) (merged : AnalysisResult) : Prop where
  grammar : merged.grammar = if c.grammar.findings = [] then r.grammar else c.grammar
  security : merged.security.findings = r.security.findings ++ c.security
  performance : merged.performance = r.performance ++ c.performance

theorem receives_withPayload (r : AnalysisResult) (p : Payload) :
    ∃ c, (Answer.payload p).contribution? = some c ∧ r.Receives c (r.withPayload p) := by
  refine ⟨_, rfl, ?_, ?_, rfl⟩
  · change (if p.hasSyntax = true then p.syntaxReport else r.grammar) = _
    by_cases h : p.syntaxReport.findings = []
    · rw [if_pos h, if_neg (by rw [Payload.hasSyntax_iff]; exact not_not_intro h)]
    · rw [if_neg h, if_pos ((Payload.hasSyntax_iff p).mpr h)]
  · change (if p.security.isEmpty = true then r.security
      else .ofFindings (r.security.findings ++ p.securityFindings)).findings = _
    by_cases h : p.security = []
    · rw [if_pos (List.isEmpty_iff.mpr h), (Payload.securityFindings_eq_nil_iff p).mpr h,
        List.append_nil]
    · rw [if_neg (mt List.isEmpty_iff.mp h)]
      rfl

theorem receives_withProse (r : AnalysisResult) {t : Text} {report : SyntaxReport}
    (h : salvage t = .ok report) :
    ∃ merged, r.withProse t = .ok merged ∧ r.Receives { grammar := report } merged := by
  rw [withProse, h, Except.map]
  refine ⟨_, rfl, ?_⟩
  by_cases hnothing : report.findings = []
  · rw [if_pos (List.isEmpty_iff.mpr hnothing)]
    exact ⟨(if_pos hnothing).symm, (List.append_nil _).symm, (List.append_nil _).symm⟩
  · rw [if_neg (mt List.isEmpty_iff.mp hnothing)]
    exact ⟨(if_neg hnothing).symm, (List.append_nil _).symm, (List.append_nil _).symm⟩

/-- A result receives what an answer contributes; without a contribution nothing is merged. -/
theorem receives_merged (r : AnalysisResult) (a : Answer) :
    match a.contribution? with
    | none => ∃ o, r.merged (.answered a) = .error o
    | some c => ∃ merged, r.merged (.answered a) = .ok merged ∧ r.Receives c merged := by
  cases a with
  | payload p =>
    obtain ⟨c, hc, hreceives⟩ := receives_withPayload r p
    rw [hc]
    exact ⟨_, rfl, hreceives⟩
  | prose t =>
    cases h : salvage t with
    | error o => simp [Answer.contribution?, h, merged, withProse, Except.map]
    | ok report =>
      simp only [Answer.contribution?, h]
      exact receives_withProse r h

/-- A result that receives a contribution keeps all lists of which that has nothing exactly if it
keeps those about syntax: no such list may hold anything where another one is replaced. -/
theorem Receives.keeps_iff {r : AnalysisResult} {c : Contribution} {merged : AnalysisResult}
    (h : r.Receives c merged) :
    r.Keeps c merged ↔
      ∀ s, c.grammar.ofSeverity s = [] →
        c.grammar.findings = [] ∨ r.grammar.ofSeverity s = [] := by
  have hgrammar : ∀ s, c.grammar.ofSeverity s = [] →
      (merged.grammar.ofSeverity s = r.grammar.ofSeverity s ↔
        c.grammar.findings = [] ∨ r.grammar.ofSeverity s = []) := by
    intro s hs
    rw [h.grammar]
    by_cases hnothing : c.grammar.findings = []
    · rw [if_pos hnothing]
      exact iff_of_true rfl (.inl hnothing)
    · rw [if_neg hnothing, or_iff_right hnothing, hs, eq_comm]
  constructor
  · intro hkeeps s hs
    exact (hgrammar s hs).mp (hkeeps.grammar s hs)
  · intro hlists
    refine ⟨fun s hs => (hgrammar s hs).mpr (hlists s hs), fun hs => ?_, fun hs => ?_⟩
    · rw [h.security, hs, List.append_nil]
    · rw [h.performance, hs, List.append_nil]

/-- What is merged of any answer into any result. Prose that exceeds what is read spoils the merge.
Any other answer is merged: its findings on security and on performance stand behind those of the
result, and the lists of which the answer has nothing stay as they are exactly if none of those
about syntax holds anything, or the answer has nothing about syntax. -/
theorem merged_keeps_iff (r : AnalysisResult) (a : Answer) :
    match a.contribution? with
    | none => (∃ t, a = .prose t ∧ Salvage.Exceeds t) ∧ ∃ o, r.merged (.answered a) = .error o
    | some c => ∃ merged, r.merged (.answered a) = .ok merged ∧
        merged.security.findings = r.security.findings ++ c.security ∧
        merged.performance = r.performance ++ c.performance ∧
        (r.Keeps c merged ↔
          ∀ s, c.grammar.ofSeverity s = [] →
            c.grammar.findings = [] ∨ r.grammar.ofSeverity s = []) := by
  have hreceives := receives_merged r a
  cases hc : a.contribution? with
  | none =>
    rw [hc] at hreceives
    exact ⟨(Answer.contribution?_eq_none_iff a).mp hc, hreceives⟩
  | some c =>
    rw [hc] at hreceives
    obtain ⟨merged, hmerged, h⟩ := hreceives
    exact ⟨merged, hmerged, h.security, h.performance, h.keeps_iff⟩

/-- A result with an error and a warning about its syntax. -/
def unfinished : AnalysisResult where
  language := "javascript"
  detection := { language := "javascript", confidence := 100 }
  grammar := {
    errors := [{ line := 2, column := 2, message := "Unclosed bracket '('", severity := .error }]
    warnings := [{ line := 1, column := 13, message := "Missing semicolon", severity := .warning }] }

/-- A suggestion and nothing else. -/
def rename : Payload := { suggestions := [{ line := 1, message := "Rename total" }] }

/-- A suggestion takes away the error and the warning that are there. -/
theorem not_keeps_errors :
    ∃ c, (Answer.payload rename).contribution? = some c ∧
      c.grammar.errors = [] ∧ c.grammar.warnings = [] ∧
      (unfinished.withPayload rename).grammar.errors ≠ unfinished.grammar.errors ∧
      (unfinished.withPayload rename).grammar.warnings ≠ unfinished.grammar.warnings ∧
      ¬ ∃ merged, unfinished.merged (.answered (.payload rename)) = .ok merged ∧
        unfinished.Keeps c merged := by
  refine ⟨_, rfl, rfl, rfl, by decide, by decide, ?_⟩
  rintro ⟨merged, hmerged, hkeeps⟩
  obtain rfl := Except.ok.inj hmerged
  exact absurd (hkeeps.grammar .error rfl) (by decide)

end AnalysisResult
end SourceAudit
