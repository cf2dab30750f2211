import Mathlib.Data.List.Sort
import SourceAudit.Violation.Merge

/-!
  The merge of findings into one violation per line.

  What is proved:
    1. `linesOf_rising`, `mem_linesOf` — the lines of some findings, rising, each
       once.
    2. `mem_distinct`, `distinct_ne_nil` — what is kept of the findings of a line
       are findings of that line, and something is kept of any.
    3. `issueOf_speaks` — a line with findings has a violation, and it speaks for
       them: message and type come from one of them, the severity from all.
    4. `merge_one_per_line` — the violations of any findings: one for each line,
       rising, each speaking for its line; merged again they stay as they are.
-/
namespace SourceAudit

/-- A violation read as a finding again. -/
def Issue.toFinding (i : Issue) : RawIssue := ⟨i.line, i.message, i.severity, i.type⟩

namespace Merge

/-- A violation speaks for the findings of its line: message and type stand together in one of
them, it is major exactly if one of them is, and its category is that of its message. -/
structure Speaks (raw : List RawIssue) (i : Issue) : Prop where
  source : ∃ r ∈ raw, r.line = i.line ∧ r.message = i.message ∧ r.kind = i.type
  severity : i.severity = .major ↔ ∃ r ∈ raw, r.line = i.line ∧ r.severity = .major
  category : i.category = Category.of i.message

/-! ## The lines of findings -/

theorem mem_insertLine {x n : Int} {ls : List Int} : x ∈ insertLine n ls ↔ x = n ∨ x ∈ ls := by
  induction ls with
  | nil => simp [insertLine]
  | cons m rest ih =>
    simp only [insertLine]
    split
    · simp
    · split
      · rename_i hm
        have hnm : n = m := by simpa using hm
        simp [hnm]
      · simp only [List.mem_cons, ih]
        tauto

theorem insertLine_rising {n : Int} {ls : List Int} (h : ls.Pairwise (· < ·)) :
    (insertLine n ls).Pairwise (· < ·) := by
  induction ls with
  | nil => simp [insertLine]
  | cons m rest ih =>
    obtain ⟨hm, hrest⟩ := List.pairwise_cons.mp h
    simp only [insertLine]
    split
    · rename_i hlt
      refine List.pairwise_cons.mpr ⟨fun x hx => ?_, h⟩
      rcases List.mem_cons.mp hx with rfl | hx
      · exact hlt
      · exact lt_trans hlt (hm x hx)
    · split
      · exact h
      · rename_i hlt hne
        have hmn : m < n := by
          have : n ≠ m := by simpa using hne
          omega
        refine List.pairwise_cons.mpr ⟨fun x hx => ?_, ih hrest⟩
        rcases mem_insertLine.mp hx with rfl | hx
        · exact hmn
        · exact hm x hx

/-- Both facts of the fold that collects the lines, from any lines collected before. -/
theorem foldl_insertLine (raw : List RawIssue) (ls : List Int) (h : ls.Pairwise (· < ·)) :
    (raw.foldl (fun ls i => insertLine i.line ls) ls).Pairwise (· < ·) ∧
      ∀ n, n ∈ raw.foldl (fun ls i => insertLine i.line ls) ls ↔ n ∈ ls ∨ n ∈ raw.map (·.line) := by
  induction raw generalizing ls with
  | nil => simp [h]
  | cons r rest ih =>
    obtain ⟨hr, hm⟩ := ih (insertLine r.line ls) (insertLine_rising h)
    refine ⟨hr, fun n => ?_⟩
    simp only [List.foldl_cons, hm n, mem_insertLine, List.map_cons, List.mem_cons]
    tauto

theorem linesOf_rising (raw : List RawIssue) : (linesOf raw).Pairwise (· < ·) :=
  (foldl_insertLine raw [] .nil).1

theorem mem_linesOf {raw : List RawIssue} {n : Int} : n ∈ linesOf raw ↔ n ∈ raw.map (·.line) := by
  have h := (foldl_insertLine raw [] .nil).2 n
  simpa [linesOf] using h

/-- Lines that rise already are collected as they are. -/
theorem linesOf_of_rising {raw : List RawIssue} (h : (raw.map (·.line)).Pairwise (· < ·)) :
    linesOf raw = raw.map (·.line) :=
  (linesOf_rising raw).eq_of_mem_iff h fun _ => mem_linesOf

theorem mem_onLine {raw : List RawIssue} {n : Int} {r : RawIssue} :
    r ∈ onLine n raw ↔ r ∈ raw ∧ r.line = n := by
  simp [onLine]

/-! ## What is kept of the findings of a line -/

theorem mem_absorb {kept : List RawIssue} {issue x : RawIssue} (h : x ∈ absorb kept issue) :
    x ∈ kept ∨ x = issue := by
  induction kept with
  | nil => simpa [absorb] using h
  | cons k rest ih =>
    simp only [absorb] at h
    split at h
    · -- the first related finding: the longer of the two stands in its place
      rcases List.mem_cons.mp h with rfl | h
      · split <;> simp
      · exact .inl (List.mem_cons_of_mem k h)
    · rcases List.mem_cons.mp h with rfl | h
      · simp
      · rcases ih h with h | h
        · exact .inl (List.mem_cons_of_mem k h)
        · exact .inr h

theorem absorb_ne_nil (kept : List RawIssue) (issue : RawIssue) : absorb kept issue ≠ [] := by
  cases kept with
  | nil => simp [absorb]
  | cons k rest =>
    simp only [absorb]
    split <;> simp

theorem mem_foldl_absorb {group kept : List RawIssue} {x : RawIssue}
    (h : x ∈ group.foldl absorb kept) : x ∈ kept ∨ x ∈ group := by
  induction group generalizing kept with
  | nil => exact .inl h
  | cons g rest ih =>
    rcases ih h with h | h
    · rcases mem_absorb h with h | rfl
      · exact .inl h
      · exact .inr List.mem_cons_self
    · exact .inr (List.mem_cons_of_mem g h)

theorem foldl_absorb_ne_nil {kept : List RawIssue} (group : List RawIssue) (h : kept ≠ []) :
    group.foldl absorb kept ≠ [] := by
  induction group generalizing kept with
  | nil => exact h
  | cons g rest ih => exact ih (absorb_ne_nil kept g)

theorem mem_distinct {group : List RawIssue} {x : RawIssue} (h : x ∈ distinct group) :
    x ∈ group := by
  simpa using mem_foldl_absorb h

theorem distinct_ne_nil {group : List RawIssue} (h : group ≠ []) : distinct group ≠ [] := by
  cases group with
  | nil => exact absurd rfl h
  | cons g rest => exact foldl_absorb_ne_nil rest (absorb_ne_nil [] g)

theorem best_mem (first : RawIssue) (others : List RawIssue) :
    Message.best first others ∈ first :: others := by
  unfold Message.best
  induction others generalizing first with
  | nil => simp
  | cons o rest ih =>
    simp only [List.foldl_cons]
    split
    · exact List.mem_cons_of_mem first (ih o)
    · rcases List.mem_cons.mp (ih first) with h | h
      · rw [h]; exact List.mem_cons_self
      · exact List.mem_cons_of_mem first (List.mem_cons_of_mem o h)

theorem severityOf_eq_major {group : List RawIssue} :
    severityOf group = .major ↔ ∃ r ∈ group, r.severity = .major := by
  simp [severityOf]

/-! ## The violation of a line -/

/-- A line with findings has a violation, with the message and the type of one of them. -/
theorem issueOf_eq (line : Int) {group : List RawIssue} (h : group ≠ []) :
    ∃ r ∈ group, issueOf line group =
      some ⟨line, r.message, severityOf group, Category.of r.message, r.kind⟩ := by
  unfold issueOf
  cases hd : distinct group with
  | nil => exact absurd hd (distinct_ne_nil h)
  | cons first others =>
    have hbest : Message.best first others ∈ distinct group := by
      rw [hd]; exact best_mem first others
    exact ⟨Message.best first others, mem_distinct hbest, rfl⟩

/-- The violation of a line with findings is on that line and speaks for them. -/
theorem issueOf_speaks {raw : List RawIssue} {n : Int} (h : n ∈ linesOf raw) :
    ∃ i, issueOf n (onLine n raw) = some i ∧ i.line = n ∧ Speaks raw i := by
  obtain ⟨x, hx, hxn⟩ := List.mem_map.mp (mem_linesOf.mp h)
  have hne : onLine n raw ≠ [] := List.ne_nil_of_mem (mem_onLine.mpr ⟨hx, hxn⟩)
  obtain ⟨r, hr, heq⟩ := issueOf_eq n hne
  obtain ⟨hraw, hline⟩ := mem_onLine.mp hr
  refine ⟨_, heq, rfl, ⟨r, hraw, hline, rfl, rfl⟩, ?_, rfl⟩
  simp only [severityOf_eq_major, mem_onLine, and_assoc]

/-- One violation for each line with findings. -/
theorem issues_lines (raw : List RawIssue) : (issues raw).map (·.line) = linesOf raw := by
  have h : ∀ n ∈ linesOf raw, (issueOf n (onLine n raw)).map (·.line) = some n := by
    intro n hn
    obtain ⟨i, hi, hline, _⟩ := issueOf_speaks hn
    simp [hi, hline]
  unfold issues
  rw [List.map_filterMap, List.filterMap_congr h, List.filterMap_some]

theorem issues_speak {raw : List RawIssue} {i : Issue} (h : i ∈ issues raw) : Speaks raw i := by
  obtain ⟨n, hn, hi⟩ := List.mem_filterMap.mp h
  obtain ⟨j, hj, _, hs⟩ := issueOf_speaks hn
  have : i = j := Option.some.inj (hi.symm.trans hj)
  exact this ▸ hs

/-! ## Merging violations again -/

theorem map_toFinding_line (is : List Issue) :
    (is.map Issue.toFinding).map (·.line) = is.map (·.line) := by
  rw [List.map_map]; rfl

/-- Among violations on rising lines, each is alone on its line. -/
theorem onLine_toFinding {is : List Issue} (h : (is.map (·.line)).Pairwise (· < ·)) {i : Issue}
    (hi : i ∈ is) : onLine i.line (is.map Issue.toFinding) = [i.toFinding] := by
  induction is with
  | nil => cases hi
  | cons j rest ih =>
    rw [List.map_cons] at h
    obtain ⟨hj, hrest⟩ := List.pairwise_cons.mp h
    have habove : ∀ k ∈ rest, j.line < k.line := fun k hk => hj _ (List.mem_map_of_mem hk)
    rcases List.mem_cons.mp hi with rfl | hi
    · have hnone : onLine i.line (rest.map Issue.toFinding) = [] := by
        rw [onLine, List.filter_eq_nil_iff]
        intro r hr
        obtain ⟨k, hk, rfl⟩ := List.mem_map.mp hr
        have := habove k hk
        simp only [Issue.toFinding, beq_iff_eq]
        omega
      simpa [onLine, Issue.toFinding] using hnone
    · have hne : j.line ≠ i.line := (habove i hi).ne
      rw [← ih hrest hi]
      simp [onLine, Issue.toFinding, hne]

/-- A violation whose category is that of its message comes back from itself alone. -/
theorem issueOf_toFinding {i : Issue} (h : i.category = Category.of i.message) :
    issueOf i.line [i.toFinding] = some i := by
  have hs : severityOf [i.toFinding] = i.severity := by
    cases hi : i.severity <;> simp [severityOf, Issue.toFinding, hi]
  obtain ⟨r, hr, heq⟩ := issueOf_eq i.line (List.cons_ne_nil i.toFinding [])
  obtain rfl := List.mem_singleton.mp hr
  rw [heq, hs]
  simp only [Issue.toFinding, ← h]

theorem issues_toFinding {is : List Issue} (h : (is.map (·.line)).Pairwise (· < ·))
    (hc : ∀ i ∈ is, i.category = Category.of i.message) :
    issues (is.map Issue.toFinding) = is := by
  have hlines : linesOf (is.map Issue.toFinding) = is.map (·.line) := by
    rw [linesOf_of_rising (by rwa [map_toFinding_line]), map_toFinding_line]
  have hback : ∀ i ∈ is, issueOf i.line (onLine i.line (is.map Issue.toFinding)) = some i := by
    intro i hi
    rw [onLine_toFinding h hi, issueOf_toFinding (hc i hi)]
  unfold issues
  rw [hlines, List.filterMap_map]
  exact (List.filterMap_congr hback).trans List.filterMap_some

/-- The violations of any findings, in any order: their lines rise and are the lines of the
findings, each violation speaks for the findings of its line, and merging them again changes
nothing. -/
theorem merge_one_per_line (raw : List RawIssue) :
    ((issues raw).map (·.line)).Pairwise (· < ·) ∧
      (∀ n, n ∈ (issues raw).map (·.line) ↔ n ∈ raw.map (·.line)) ∧
      (∀ i ∈ issues raw, Speaks raw i) ∧
      issues ((issues raw).map Issue.toFinding) = issues raw := by
  have hrising : ((issues raw).map (·.line)).Pairwise (· < ·) := by
    rw [issues_lines]; exact linesOf_rising raw
  refine ⟨hrising, fun n => ?_, fun i hi => issues_speak hi, ?_⟩
  · rw [issues_lines, mem_linesOf]
  · exact issues_toFinding hrising fun i hi => (issues_speak hi).category

end Merge
end SourceAudit
