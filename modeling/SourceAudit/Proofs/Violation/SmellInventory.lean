import Mathlib.Data.List.Basic
import SourceAudit.Proofs.Violation.ReportTallies
import SourceAudit.Violation.Smell

/-!
  What the report on smells takes from the findings.

  Findings are sorted by line, and of those with one kind and line the first is taken.
  What is proved:
    1. `mem_collect` — a smell is collected exactly if it comes of the first finding with
       its kind and line, and these were not met before.
    2. `filter_byLine` — sorting by line leaves the findings of a line in their order, so
       the first of them is the same before and after.
    3. `ofFindings_takesFirst` — so the report has one smell for each kind with guidance
       and each line it was found on, by line, and as the first finding told it.
-/
namespace SourceAudit

/-! ## Collecting -/

namespace Smell

variable {raw : List RawIssue} {seen : List (String × Int)} {s : Smell} {i : RawIssue}

/-- What tells a smell from others: its kind and line. -/
def mark (s : Smell) : String × Int := (s.type, s.line)

/-- What a finding has of it. -/
def markOf (i : RawIssue) : String × Int := (i.kind, i.line)

/-- A kind of findings that has guidance. -/
def HasGuidance (kind : String) : Prop := ∃ g ∈ guidance, g.kind = kind

theorem mark_of_ofFinding? (h : ofFinding? i = some s) : s.mark = markOf i := by
  obtain ⟨g, -, rfl⟩ := Option.map_eq_some_iff.mp h
  rfl

theorem exists_ofFinding?_iff : (∃ s, ofFinding? i = some s) ↔ HasGuidance i.kind := by
  rw [← Option.isSome_iff_exists, ofFinding?, Option.isSome_map, guidanceFor?, List.find?_isSome]
  simp [HasGuidance]

/-- Findings of one kind all make smells, or none does. -/
theorem ofFinding?_isSome_congr {j : RawIssue} (h : markOf i = markOf j) :
    (ofFinding? i).isSome = (ofFinding? j).isSome := by
  have hkind : i.kind = j.kind := congrArg Prod.fst h
  simp [ofFinding?, hkind]

/-- The first finding with a kind and line. -/
def first? (m : String × Int) (raw : List RawIssue) : Option RawIssue :=
  raw.find? fun i => markOf i == m

theorem first?_cons_self (i : RawIssue) (rest : List RawIssue) :
    first? (markOf i) (i :: rest) = some i := List.find?_cons_of_pos (by simp)

theorem first?_cons_of_ne {m : String × Int} (h : markOf i ≠ m) (rest : List RawIssue) :
    first? m (i :: rest) = first? m rest := List.find?_cons_of_neg (by simpa using h)

theorem markOf_of_first? {m : String × Int} (h : first? m raw = some i) : markOf i = m := by
  simpa using List.find?_some h

theorem collect_cons_none (h : ofFinding? i = none) :
    collect (i :: raw) seen = collect raw seen := by
  simp [collect, h]

theorem collect_cons_some (h : ofFinding? i = some s) :
    collect (i :: raw) seen =
      if seen.contains (markOf i) then collect raw seen
      else s :: collect raw (markOf i :: seen) := by
  rw [collect, h]
  rfl

/-- What is collected comes of the first finding with its kind and line. -/
theorem mem_collect :
    s ∈ collect raw seen ↔
      s.mark ∉ seen ∧ ∃ i, first? s.mark raw = some i ∧ ofFinding? i = some s := by
  induction raw generalizing seen with
  | nil => simp [collect, first?]
  | cons i rest ih =>
    by_cases hmark : markOf i = s.mark
    · -- this finding is the first with the mark of the smell, and decides on it
      have hfirst : first? s.mark (i :: rest) = some i := hmark ▸ first?_cons_self i rest
      simp only [hfirst, Option.some.injEq, exists_eq_left']
      cases hsmell : ofFinding? i with
      | none =>
        have hnone : s ∉ collect rest seen := by
          intro hs
          obtain ⟨-, j, hj, hsj⟩ := ih.mp hs
          have hsome := ofFinding?_isSome_congr (hmark.trans (markOf_of_first? hj).symm)
          simp [hsmell, hsj] at hsome
        simp [collect_cons_none hsmell, hnone]
      | some smell =>
        rw [collect_cons_some hsmell, hmark]
        split
        · next hseen =>
          have hmem : s.mark ∈ seen := by simpa using hseen
          simp [ih, hmem]
        · next hnew =>
          have hnew : s.mark ∉ seen := by simpa using hnew
          have hrest : s ∉ collect rest (s.mark :: seen) := fun hs =>
            (ih.mp hs).1 List.mem_cons_self
          rw [List.mem_cons, or_iff_left hrest, and_iff_right hnew, Option.some.injEq, eq_comm]
    · -- this finding is of no account
      rw [first?_cons_of_ne hmark, ← ih]
      cases hsmell : ofFinding? i with
      | none => rw [collect_cons_none hsmell]
      | some smell =>
        rw [collect_cons_some hsmell]
        split
        · rfl
        · have hne : s ≠ smell := by
            rintro rfl
            exact hmark (mark_of_ofFinding? hsmell).symm
          rw [List.mem_cons, or_iff_right hne, ih, ih, List.mem_cons, not_or,
            and_iff_right (Ne.symm hmark)]

/-- Smells are collected in the order of the findings. -/
theorem collect_sublist (raw : List RawIssue) (seen : List (String × Int)) :
    (collect raw seen).Sublist (raw.filterMap ofFinding?) := by
  induction raw generalizing seen with
  | nil => exact .slnil
  | cons i rest ih =>
    cases hsmell : ofFinding? i with
    | none =>
      rw [collect_cons_none hsmell, List.filterMap_cons_none hsmell]
      exact ih seen
    | some smell =>
      rw [collect_cons_some hsmell, List.filterMap_cons_some hsmell]
      split
      · exact (ih seen).cons _
      · exact (ih _).cons_cons _

theorem nodup_collect (raw : List RawIssue) (seen : List (String × Int)) :
    ((collect raw seen).map mark).Nodup := by
  induction raw generalizing seen with
  | nil => exact .nil
  | cons i rest ih =>
    cases hsmell : ofFinding? i with
    | none =>
      rw [collect_cons_none hsmell]
      exact ih seen
    | some smell =>
      rw [collect_cons_some hsmell]
      split
      · exact ih seen
      · refine List.nodup_cons.mpr ⟨fun hmem => ?_, ih _⟩
        -- the mark of this smell counts as met behind it
        obtain ⟨other, hother, heq⟩ := List.mem_map.mp hmem
        apply (mem_collect.mp hother).1
        rw [heq, mark_of_ofFinding? hsmell]
        exact List.mem_cons_self

end Smell

/-! ## Sorting by line -/

namespace SmellReport

variable (raw : List RawIssue)

/-- Findings sorted by line. -/
def byLine : List RawIssue := raw.mergeSort fun a b => decide (a.line ≤ b.line)

theorem byLine_perm : (byLine raw).Perm raw := List.mergeSort_perm ..

theorem byLine_trans (a b c : RawIssue) (hab : decide (a.line ≤ b.line) = true)
    (hbc : decide (b.line ≤ c.line) = true) : decide (a.line ≤ c.line) = true := by
  simp only [decide_eq_true_eq] at hab hbc ⊢
  omega

theorem byLine_total (a b : RawIssue) :
    (decide (a.line ≤ b.line) || decide (b.line ≤ a.line)) = true := by
  simp only [Bool.or_eq_true, decide_eq_true_eq]
  omega

theorem byLine_pairwise : (byLine raw).Pairwise fun a b => a.line ≤ b.line :=
  (List.pairwise_mergeSort byLine_trans byLine_total raw).imp of_decide_eq_true

/-- Sorting leaves the findings of a line in their order. -/
theorem filter_byLine {p : RawIssue → Bool} {n : Int} (hp : ∀ i, p i = true → i.line = n) :
    (byLine raw).filter p = raw.filter p := by
  have hequal : (raw.filter p).Pairwise fun a b => decide (a.line ≤ b.line) = true := by
    rw [List.pairwise_filter]
    apply List.pairwise_of_forall
    intro a b ha hb
    simp [hp a ha, hp b hb]
  -- they are sorted already, so they are found in this order in the sorted findings
  have hkept : (raw.filter p).Sublist (byLine raw) :=
    List.sublist_mergeSort byLine_trans byLine_total hequal List.filter_sublist
  have hwithin : (raw.filter p).Sublist ((byLine raw).filter p) := by
    simpa [List.filter_filter] using hkept.filter p
  exact (hwithin.eq_of_length ((byLine_perm raw).filter p).length_eq.symm).symm

theorem first?_byLine (m : String × Int) :
    Smell.first? m (byLine raw) = Smell.first? m raw := by
  have hline : ∀ i, (Smell.markOf i == m) = true → i.line = m.2 := by
    intro i hi
    exact congrArg Prod.snd (beq_iff_eq.mp hi)
  rw [Smell.first?, Smell.first?, ← List.head?_filter, ← List.head?_filter,
    filter_byLine raw hline]

/-! ## The report -/

/-- An inventory of the smells that some findings tell of. -/
structure TakesFirst (raw : List RawIssue) (r : SmellReport) : Prop where
  byLine : r.smells.Pairwise fun s t => s.line ≤ t.line
  once : (r.smells.map fun s => (s.type, s.line)).Nodup
  named : ∀ kind line, (kind, line) ∈ r.smells.map (fun s => (s.type, s.line)) ↔
    (∃ i ∈ raw, i.kind = kind ∧ i.line = line) ∧ Smell.HasGuidance kind
  first : ∀ s ∈ r.smells, ∃ i,
    raw.find? (fun i => i.kind == s.type && i.line == s.line) = some i ∧
      s.description = i.message ∧ s.severity = i.severity
  steady : ∀ n, (r.smells.filter fun s => s.line == n).Sublist
    ((raw.filter fun i => i.line == n).filterMap Smell.ofFinding?)
  counted : ∃ major minor,
    r.summary = [("total", r.smells.length), ("major", major), ("minor", minor)] ∧
      major = countOf .major r.smells ∧ minor = countOf .minor r.smells ∧
      r.smells.length = major + minor
  grouped : Groups.Partition (fun s => Smell.categoryOf s.type) r.smells r.categories

theorem length_eq_countOf (smells : List Smell) :
    smells.length = countOf .major smells + countOf .minor smells := by
  rw [countOf, countOf, List.length_eq_countP_add_countP fun s : Smell => s.severity == .major]
  congr 1
  apply List.countP_congr
  intro s _
  cases s.severity <;> simp

variable {raw}

theorem mem_smells_ofFindings {s : Smell} :
    s ∈ (ofFindings raw).smells ↔
      ∃ i, Smell.first? s.mark raw = some i ∧ Smell.ofFinding? i = some s := by
  show s ∈ Smell.collect (byLine raw) [] ↔ _
  rw [Smell.mem_collect, first?_byLine, and_iff_right List.not_mem_nil]

theorem sublist_smells_ofFindings (raw : List RawIssue) :
    (ofFindings raw).smells.Sublist ((byLine raw).filterMap Smell.ofFinding?) :=
  Smell.collect_sublist _ _

/-- A mark stands in the report exactly if findings with it make smells. -/
theorem mem_marks_ofFindings {kind : String} {line : Int} :
    (kind, line) ∈ (ofFindings raw).smells.map Smell.mark ↔
      (∃ i ∈ raw, i.kind = kind ∧ i.line = line) ∧ Smell.HasGuidance kind := by
  constructor
  · intro h
    obtain ⟨s, hs, hmark⟩ := List.mem_map.mp h
    obtain ⟨i, hfirst, hsmell⟩ := mem_smells_ofFindings.mp hs
    obtain ⟨rfl, rfl⟩ := Prod.mk.inj ((Smell.markOf_of_first? hfirst).trans hmark)
    exact ⟨⟨i, List.mem_of_find?_eq_some hfirst, rfl, rfl⟩, Smell.exists_ofFinding?_iff.mp ⟨s, hsmell⟩⟩
  · rintro ⟨⟨i, hi, rfl, rfl⟩, hguided⟩
    -- the first finding with this mark has the same kind, so it makes a smell as well
    obtain ⟨j, hj⟩ : ∃ j, Smell.first? (Smell.markOf i) raw = some j := by
      rw [← Option.isSome_iff_exists, Smell.first?, List.find?_isSome]
      exact ⟨i, hi, beq_self_eq_true _⟩
    have hmark := Smell.markOf_of_first? hj
    have hkind : j.kind = i.kind := congrArg Prod.fst hmark
    obtain ⟨s, hs⟩ := Smell.exists_ofFinding?_iff.mpr (hkind ▸ hguided)
    have hsame : s.mark = Smell.markOf i := (Smell.mark_of_ofFinding? hs).trans hmark
    exact List.mem_map.mpr ⟨s, mem_smells_ofFindings.mpr ⟨j, hsame ▸ hj, hs⟩, hsame⟩

theorem smells_pairwise : (ofFindings raw).smells.Pairwise fun s t => s.line ≤ t.line := by
  apply List.Pairwise.sublist (sublist_smells_ofFindings raw)
  apply (byLine_pairwise raw).filterMap
  intro a b hab s hs t ht
  have hsa : s.line = a.line := congrArg Prod.snd (Smell.mark_of_ofFinding? hs)
  have htb : t.line = b.line := congrArg Prod.snd (Smell.mark_of_ofFinding? ht)
  rw [hsa, htb]
  exact hab

/-- The smells of a line come of the findings there, in their order. -/
theorem smells_filter_sublist (n : Int) :
    ((ofFindings raw).smells.filter fun s => s.line == n).Sublist
      ((raw.filter fun i => i.line == n).filterMap Smell.ofFinding?) := by
  have hlines : ((byLine raw).filterMap Smell.ofFinding?).filter (fun s => s.line == n) =
      ((byLine raw).filter fun i => i.line == n).filterMap Smell.ofFinding? := by
    rw [List.filter_filterMap, List.filterMap_filter]
    apply List.filterMap_congr
    intro i _
    cases hsmell : Smell.ofFinding? i with
    | none => simp
    | some s =>
      have hline : s.line = i.line := congrArg Prod.snd (Smell.mark_of_ofFinding? hsmell)
      simp [Option.filter, hline]
  rw [← filter_byLine raw (n := n) fun i hi => by simpa using hi, ← hlines]
  exact (sublist_smells_ofFindings raw).filter _

/-- The report on the smells of findings takes, for each kind with guidance and each line it was
found on, the first finding there, and counts and groups what it takes. -/
theorem ofFindings_takesFirst (raw : List RawIssue) : TakesFirst raw (ofFindings raw) where
  byLine := smells_pairwise
  once := Smell.nodup_collect _ _
  named := fun kind line => mem_marks_ofFindings
  first := by
    intro s hs
    obtain ⟨i, hfirst, hsmell⟩ := mem_smells_ofFindings.mp hs
    obtain ⟨g, -, rfl⟩ := Option.map_eq_some_iff.mp hsmell
    exact ⟨i, hfirst, rfl, rfl⟩
  steady := smells_filter_sublist
  counted := ⟨_, _, rfl, rfl, rfl, length_eq_countOf _⟩
  grouped := Groups.partition_byKey _ _

end SmellReport

end SourceAudit
