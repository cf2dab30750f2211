import Mathlib.Algebra.BigOperators.Group.List.Lemmas
import Mathlib.Data.List.Induction
import SourceAudit.Proofs.Number.DecimalText
import SourceAudit.Proofs.Text.JoinedLines
import SourceAudit.Proofs.Violation.LineMerge
import SourceAudit.Violation.Report

/-!
  What the report on violations counts.

  The same violations are counted three times: as groups by category, as sets of
  categories for the numbers, and as a tally for the Markdown text. What is proved:
    1. `partition_byKey` — groups by a key hold all things once, each in the group of its
       key and in order.
    2. `categories_ofIssues`, `instances_ofIssues` — the tally has the categories of a
       severity in order of appearance, and counts the violations of each.
    3. `lines_joinLines` — joined lines are found again, if none holds a newline.
    4. `report_accounts` — so numbers, groups and Markdown text of a report tell the
       same of any violations.
-/
namespace SourceAudit

/-! ## Groups -/

namespace Groups

variable {α : Type} {key : α → String}

/-- Groups that sort some things by a key: each key that occurs has one group, which holds the
things with that key in their order. -/
structure Partition (key : α → String) (xs : List α) (groups : Groups α) : Prop where
  distinct : (groups.map (·.1)).Nodup
  named : ∀ name, name ∈ groups.map (·.1) ↔ ∃ x ∈ xs, key x = name
  members : ∀ g ∈ groups, g.2 = xs.filter fun x => key x == g.1

theorem mem_names_add {name other : String} {x : α} {groups : Groups α} :
    other ∈ (add name x groups).map (·.1) ↔ other ∈ groups.map (·.1) ∨ other = name := by
  induction groups with
  | nil => simp [add]
  | cons g rest ih =>
    rw [add]
    split
    · next h =>
      have hname : g.1 = name := by simpa using h
      simp only [List.map_cons, List.mem_cons, hname]
      tauto
    · rw [List.map_cons, List.map_cons, List.mem_cons, List.mem_cons, ih, or_assoc]

theorem nodup_names_add {name : String} {x : α} {groups : Groups α}
    (h : (groups.map (·.1)).Nodup) : ((add name x groups).map (·.1)).Nodup := by
  induction groups with
  | nil => simp [add]
  | cons g rest ih =>
    rw [List.map_cons, List.nodup_cons] at h
    rw [add]
    split
    · exact List.nodup_cons.mpr h
    · next hne =>
      have hname : g.1 ≠ name := by simpa using hne
      refine List.nodup_cons.mpr ⟨fun hmem => ?_, ih h.2⟩
      exact (mem_names_add.mp hmem).elim h.1 hname

/-- A group behind an addition: one of another name as it was, or the one that got the thing. -/
theorem mem_add {name : String} {x : α} {groups : Groups α} (hnames : (groups.map (·.1)).Nodup)
    {g : String × List α} (h : g ∈ add name x groups) :
    (g.1 ≠ name ∧ g ∈ groups) ∨ (∃ xs, (name, xs) ∈ groups ∧ g = (name, xs ++ [x])) ∨
      (name ∉ groups.map (·.1) ∧ g = (name, [x])) := by
  induction groups with
  | nil => exact .inr (.inr ⟨List.not_mem_nil, List.mem_singleton.mp h⟩)
  | cons first rest ih =>
    obtain ⟨hfirst, hrest⟩ := List.nodup_cons.mp hnames
    rw [add] at h
    split at h
    · next heq =>
      have hname : first.1 = name := by simpa using heq
      rcases List.mem_cons.mp h with rfl | h
      · exact .inr (.inl ⟨first.2, hname ▸ List.mem_cons_self, by rw [hname]⟩)
      · -- the name stands at the head already, so no later group has it
        have hne : g.1 ≠ name := fun hg =>
          hfirst (List.mem_map.mpr ⟨g, h, hg.trans hname.symm⟩)
        exact .inl ⟨hne, List.mem_cons_of_mem _ h⟩
    · next hne =>
      have hname : first.1 ≠ name := by simpa using hne
      rcases List.mem_cons.mp h with rfl | h
      · exact .inl ⟨hname, List.mem_cons_self⟩
      · rcases ih hrest h with ⟨hg, hmem⟩ | ⟨xs, hmem, hg⟩ | ⟨hnone, hg⟩
        · exact .inl ⟨hg, List.mem_cons_of_mem _ hmem⟩
        · exact .inr (.inl ⟨xs, List.mem_cons_of_mem _ hmem, hg⟩)
        · refine .inr (.inr ⟨fun hmem => ?_, hg⟩)
          exact (List.mem_cons.mp hmem).elim (fun heq => hname heq.symm) hnone

/-- One more thing goes to the group of its key. -/
theorem Partition.add {xs : List α} {groups : Groups α} (h : Partition key xs groups) (x : α) :
    Partition key (xs ++ [x]) (add (key x) x groups) where
  distinct := nodup_names_add h.distinct
  named := by
    intro name
    rw [mem_names_add, h.named]
    simp only [List.mem_append, List.mem_singleton, or_and_right, exists_or, exists_eq_left,
      eq_comm (a := name)]
  members := by
    intro g hg
    rw [List.filter_append]
    rcases mem_add h.distinct hg with ⟨hne, hmem⟩ | ⟨ys, hmem, rfl⟩ | ⟨hnone, rfl⟩
    · rw [h.members g hmem, List.filter_singleton, beq_false_of_ne hne.symm]
      simp
    · have hys : ys = xs.filter fun y => key y == key x := h.members _ hmem
      simp [hys]
    · -- no thing before has this key
      have hempty : xs.filter (fun y => key y == key x) = [] := by
        rw [List.filter_eq_nil_iff]
        intro y hy heq
        exact hnone ((h.named _).mpr ⟨y, hy, by simpa using heq⟩)
      simp [hempty]

/-- Things grouped by a key are sorted by it. -/
theorem partition_byKey (key : α → String) (xs : List α) : Partition key xs (byKey key xs) := by
  induction xs using List.reverseRecOn with
  | nil => exact ⟨.nil, by simp [byKey], by simp [byKey]⟩
  | append_singleton xs x ih =>
    rw [byKey, List.foldl_append]
    exact ih.add x

/-- Groups hold nothing but the things that were grouped. -/
theorem mem_byKey {xs : List α} {g : String × List α} (hg : g ∈ byKey key xs) {x : α}
    (hx : x ∈ g.2) : x ∈ xs := by
  rw [(partition_byKey key xs).members g hg] at hx
  exact List.mem_of_mem_filter hx

end Groups

/-! ## The tally -/

namespace Tally

variable {s : Severity} {c : String}

theorem ofIssues_append (issues : List Issue) (i : Issue) :
    ofIssues (issues ++ [i]) = (ofIssues issues).add i := by
  rw [ofIssues, List.foldl_append]
  rfl

theorem categories_add (t : Tally) (i : Issue) (s : Severity) :
    (t.add i).categories s =
      if i.severity = s then appear i.category (t.categories s) else t.categories s := by
  cases hi : i.severity <;> cases s <;> simp [add, categories, hi]

theorem nodup_appear {category : String} {seen : List String} (h : seen.Nodup) :
    (appear category seen).Nodup := by
  unfold appear
  split
  · exact h
  · next hnew =>
    have hnew : category ∉ seen := by simpa using hnew
    exact List.nodup_append.mpr ⟨h, List.nodup_singleton _, fun a ha b hb heq =>
      hnew (List.mem_singleton.mp hb ▸ heq ▸ ha)⟩

/-- One more name behind the others, each once. -/
theorem appear_eraseDups (category : String) (all : List String) :
    appear category all.eraseDups = (all ++ [category]).eraseDups := by
  rw [List.eraseDups_append, appear]
  by_cases h : category ∈ all
  · simp [h, List.removeAll, List.mem_eraseDups]
  · simp [h, List.removeAll, List.mem_eraseDups, List.eraseDups_cons]

theorem nodup_eraseDups (all : List String) : all.eraseDups.Nodup := by
  induction all using List.reverseRecOn with
  | nil => exact .nil
  | append_singleton all category ih =>
    rw [← appear_eraseDups]
    exact nodup_appear ih

/-- The tally has the categories of a severity in order of appearance. -/
theorem categories_ofIssues (issues : List Issue) (s : Severity) :
    (ofIssues issues).categories s = ViolationReport.categoriesOf s issues := by
  induction issues using List.reverseRecOn with
  | nil => cases s <;> rfl
  | append_singleton issues i ih =>
    rw [ofIssues_append, categories_add, ih, ViolationReport.categoriesOf,
      ViolationReport.categoriesOf, List.filter_append, List.map_append]
    by_cases h : i.severity = s
    · rw [if_pos h, appear_eraseDups]
      simp [h]
    · rw [if_neg h]
      simp [h]

theorem find?_count (pair other : Severity × String) (counts : List ((Severity × String) × Nat)) :
    (((count pair counts).find? fun entry => entry.1 == other).map (·.2)).getD 0 =
      ((counts.find? fun entry => entry.1 == other).map (·.2)).getD 0 +
        if pair = other then 1 else 0 := by
  induction counts with
  | nil => by_cases h : pair = other <;> simp [count, h]
  | cons entry rest ih =>
    rw [count]
    split
    · next heq =>
      have hpair : entry.1 = pair := by simpa using heq
      by_cases h : pair = other <;> simp [hpair, h]
    · next hne =>
      have hpair : entry.1 ≠ pair := by simpa using hne
      by_cases h : entry.1 = other
      · have hother : pair ≠ other := fun heq => hpair (h.trans heq.symm)
        simp [h, hother]
      · simpa [h] using ih

theorem instances_add (t : Tally) (i : Issue) :
    (t.add i).instances s c =
      t.instances s c + if i.severity = s ∧ i.category = c then 1 else 0 := by
  have hcounts : (t.add i).counts = count (i.severity, i.category) t.counts := by
    cases hi : i.severity <;> simp [add, hi]
  rw [instances, hcounts, find?_count]
  simp [instances, Prod.ext_iff]

/-- The tally counts the violations of a severity and category. -/
theorem instances_ofIssues (issues : List Issue) (s : Severity) (c : String) :
    (ofIssues issues).instances s c =
      issues.countP fun i => i.severity == s && i.category == c := by
  induction issues using List.reverseRecOn with
  | nil => rfl
  | append_singleton issues i ih =>
    rw [ofIssues_append, instances_add, ih, List.countP_append]
    simp [List.countP_cons]

end Tally

namespace ViolationReport

/-! ## Numbers -/

/-- The bullets on a severity: its categories in order of appearance, each with the number of its
violations. -/
def bullets (s : Severity) (issues : List Issue) : List (String × Nat) :=
  (categoriesOf s issues).map fun c =>
    (c, issues.countP fun i => i.severity == s && i.category == c)

/-- Bullets and a number that tell of the violations of a severity. -/
structure Counts (issues : List Issue) (s : Severity) (number : Int)
    (bullets : List (String × Nat)) : Prop where
  number : (bullets.length : Int) = number
  distinct : (bullets.map (·.1)).Nodup
  named : ∀ c, c ∈ bullets.map (·.1) ↔ ∃ i ∈ issues, i.severity = s ∧ i.category = c
  each : ∀ b ∈ bullets, b.2 = issues.countP fun i => i.severity == s && i.category == b.1
  sum : (bullets.map (·.2)).sum = issues.countP fun i => i.severity == s

theorem nodup_categoriesOf (s : Severity) (issues : List Issue) : (categoriesOf s issues).Nodup :=
  Tally.nodup_eraseDups _

theorem mem_categoriesOf {s : Severity} {issues : List Issue} {c : String} :
    c ∈ categoriesOf s issues ↔ ∃ i ∈ issues, i.severity = s ∧ i.category = c := by
  simp [categoriesOf, List.mem_eraseDups, and_assoc]

/-- Each violation of a severity is counted at one category. -/
theorem sum_categoriesOf (s : Severity) (issues : List Issue) :
    ((categoriesOf s issues).map fun c =>
      issues.countP fun i => i.severity == s && i.category == c).sum =
        issues.countP fun i => i.severity == s := by
  -- counting violations is counting their categories, and each category is met once
  let names := (issues.filter fun i => i.severity == s).map (·.category)
  have hcount : ∀ c,
      (issues.countP fun i => i.severity == s && i.category == c) = names.count c := by
    intro c
    rw [List.count, List.countP_map, List.countP_filter]
    exact List.countP_congr fun i _ => by simp [and_comm]
  have hperm : (categoriesOf s issues).Perm names.dedup := by
    rw [List.perm_ext_iff_of_nodup (nodup_categoriesOf s issues) names.nodup_dedup]
    intro c
    rw [List.mem_dedup, categoriesOf, List.mem_eraseDups]
  calc ((categoriesOf s issues).map fun c =>
          issues.countP fun i => i.severity == s && i.category == c).sum
      = ((categoriesOf s issues).map fun c => names.count c).sum := by simp only [hcount]
    _ = (names.dedup.map fun c => names.count c).sum := (hperm.map _).sum_eq
    _ = names.length := List.sum_map_count_dedup_eq_length names
    _ = issues.countP fun i => i.severity == s := by
      rw [List.length_map, List.countP_eq_length_filter]

theorem counts_bullets (s : Severity) (issues : List Issue) :
    Counts issues s (categoriesOf s issues).length (bullets s issues) := by
  have hnames : (bullets s issues).map (·.1) = categoriesOf s issues := by
    simp [bullets, Function.comp_def]
  refine ⟨by simp [bullets], ?_, ?_, ?_, ?_⟩
  · exact hnames ▸ nodup_categoriesOf s issues
  · intro c
    rw [hnames, mem_categoriesOf]
  · intro b hb
    obtain ⟨c, -, rfl⟩ := List.mem_map.mp hb
    rfl
  · rw [bullets, List.map_map]
    exact sum_categoriesOf s issues

/-! ## Text -/

/-- The rows on a severity: a heading with a number, and a row for each bullet. -/
def sectionRows (title : String) (number : Int) (bullets : List (String × Nat)) : List String :=
  ("### " ++ title ++ " Violations (" ++ toString number ++ ")") ::
    bullets.map fun b => bullet b.1 b.2

/-- The rows of a report on some violations. -/
def rows (issues : List Issue) (r : ViolationReport) : List String :=
  sectionRows "Major" r.majorCount (bullets .major issues) ++ "" ::
    sectionRows "Minor" r.minorCount (bullets .minor issues)

theorem severityLines_ofIssues (title : String) (s : Severity) (issues : List Issue) :
    severityLines title s (Tally.ofIssues issues) =
      sectionRows title (categoriesOf s issues).length (bullets s issues) := by
  rw [severityLines, sectionRows, bullets, Tally.categories_ofIssues, List.map_map]
  simp only [Tally.instances_ofIssues]
  rfl

theorem markdown_ofIssues (issues : List Issue) :
    (ofIssues issues).markdown = "\n".intercalate (rows issues (ofIssues issues)) := by
  show markdownOf issues = _
  rw [markdownOf, severityLines_ofIssues, severityLines_ofIssues, List.append_assoc]
  rfl

/-- A text on one line. -/
def OneLine (s : String) : Prop := '\n' ∉ s.toList

theorem OneLine.append {s t : String} (hs : OneLine s) (ht : OneLine t) : OneLine (s ++ t) := by
  rw [OneLine, String.toList_append, List.mem_append]
  exact fun h => h.elim hs ht

theorem oneLine_toString (n : Nat) : OneLine (toString n) := by
  intro h
  exact absurd (Number.allDigits_toString n _ h) (by decide)

theorem oneLine_counted (n : Nat) : OneLine (counted n "instance" "instances") := by
  unfold counted
  split
  · exact (by decide : '\n' ∉ "instance".toList)
  · exact (by decide : '\n' ∉ "instances".toList)

theorem oneLine_bullet {category : String} (h : OneLine category) (n : Nat) :
    OneLine (bullet category n) := by
  have hopen : OneLine "- **" := (by decide : '\n' ∉ "- **".toList)
  have hcount : OneLine "** (" := (by decide : '\n' ∉ "** (".toList)
  have hblank : OneLine " " := (by decide : '\n' ∉ " ".toList)
  have hclose : OneLine ")" := (by decide : '\n' ∉ ")".toList)
  exact (((((hopen.append h).append hcount).append (oneLine_toString n)).append
    hblank).append (oneLine_counted n)).append hclose

theorem oneLine_of_mem_sectionRows {title : String} (htitle : OneLine title) {n : Nat}
    {s : Severity} {issues : List Issue} (h : ∀ i ∈ issues, OneLine i.category) {row : String}
    (hrow : row ∈ sectionRows title n (bullets s issues)) : OneLine row := by
  rcases List.mem_cons.mp hrow with rfl | hrow
  · have hmark : OneLine "### " := (by decide : '\n' ∉ "### ".toList)
    have hwords : OneLine " Violations (" := (by decide : '\n' ∉ " Violations (".toList)
    have hclose : OneLine ")" := (by decide : '\n' ∉ ")".toList)
    exact (((hmark.append htitle).append hwords).append (oneLine_toString n)).append hclose
  · obtain ⟨b, hb, rfl⟩ := List.mem_map.mp hrow
    obtain ⟨c, hc, rfl⟩ := List.mem_map.mp hb
    obtain ⟨i, hi, -, rfl⟩ := mem_categoriesOf.mp hc
    exact oneLine_bullet (h i hi) _

/-- The Markdown text of violations whose categories are on one line each has these rows. -/
theorem lines_markdown {issues : List Issue} (h : ∀ i ∈ issues, OneLine i.category) :
    Text.lines (ofIssues issues).markdown.toList =
      (rows issues (ofIssues issues)).map (·.toList) := by
  have hrows : ∀ row ∈ rows issues (ofIssues issues), OneLine row := by
    intro row hrow
    rcases List.mem_append.mp hrow with hrow | hrow
    · exact oneLine_of_mem_sectionRows (by decide : '\n' ∉ "Major".toList) h hrow
    · rcases List.mem_cons.mp hrow with rfl | hrow
      · exact (by decide : '\n' ∉ "".toList)
      · exact oneLine_of_mem_sectionRows (by decide : '\n' ∉ "Minor".toList) h hrow
  have hjoined : (ofIssues issues).markdown.toList =
      Text.joinLines ((rows issues (ofIssues issues)).map (·.toList)) := by
    rw [markdown_ofIssues, String.toList_intercalate]
    exact (Text.joinWith_eq_intercalate ..).symm
  rw [hjoined]
  apply Text.lines_joinLines
  · simp [rows, sectionRows]
  · intro row hrow
    obtain ⟨r, hr, rfl⟩ := List.mem_map.mp hrow
    exact hrows r hr

/-- A category that comes of a message is on one line: a rule names it, or it is words without
blanks. -/
theorem oneLine_category (message : String) : OneLine (Category.of message) := by
  unfold Category.of
  dsimp only
  split
  · next rule hrule =>
    have hall : ∀ rule ∈ Category.rules, OneLine rule.2 := by
      unfold OneLine
      decide
    exact hall rule (List.mem_of_find?_eq_some hrule)
  · rw [OneLine, String.toList_ofList]
    intro h
    rcases Text.of_mem_joinWith h with h | ⟨word, hword, h⟩
    · exact absurd h (by decide)
    · have hblank := Text.isBlank_of_mem_fields (List.mem_of_mem_take hword) h
      exact absurd hblank (by decide)

theorem oneLine_of_mem_issues {raw : List RawIssue} {i : Issue} (h : i ∈ Merge.issues raw) :
    OneLine i.category :=
  (Merge.issues_speak h).category ▸ oneLine_category i.message

/-- Numbers, groups and Markdown text of a report that tell the same of some violations. -/
structure Accounts (issues : List Issue) (r : ViolationReport) : Prop where
  listed : r.lineReferences = issues
  grouped : Groups.Partition (·.category) issues r.categories
  major : Counts issues .major r.majorCount (bullets .major issues)
  minor : Counts issues .minor r.minorCount (bullets .minor issues)
  written : r.markdown = "\n".intercalate (rows issues r)

/-- A report accounts for its violations, whatever they are: it lists them, sorts them by category,
and counts the categories of each severity; its Markdown text has a heading with each of these
numbers and, below, a bullet for each category with its violations, whose counts together are all
violations of the severity. The rows can be read back from the text if categories are on one line
each, as those of merged findings are. -/
theorem report_accounts (issues : List Issue) :
    Accounts issues (ofIssues issues) ∧
    ((∀ i ∈ issues, OneLine i.category) →
      Text.lines (ofIssues issues).markdown.toList =
        (rows issues (ofIssues issues)).map (·.toList)) ∧
    ∀ raw : List RawIssue, Merge.issues raw = issues → ∀ i ∈ issues, OneLine i.category := by
  refine ⟨?_, lines_markdown, ?_⟩
  · exact {
      listed := rfl
      grouped := Groups.partition_byKey _ issues
      major := counts_bullets .major issues
      minor := counts_bullets .minor issues
      written := markdown_ofIssues issues }
  · rintro raw rfl i hi
    exact oneLine_of_mem_issues hi

/-- Dead code of both severities, and deep nesting. -/
def deadCodeTwice : List Issue := [
  ⟨1, "Unreachable code", .major, "Dead code", "dead-code"⟩,
  ⟨4, "Unreachable branch", .minor, "Dead code", "dead-code"⟩,
  ⟨6, "Deep nesting", .minor, "Deep nesting", "deep-nesting"⟩,
  ⟨9, "Unreachable branch", .minor, "Dead code", "dead-code"⟩]

theorem report_accounts_deadCodeTwice :
    Accounts deadCodeTwice (ofIssues deadCodeTwice) ∧
    Merge.issues (deadCodeTwice.map (·.toFinding)) = deadCodeTwice ∧
    Text.lines (ofIssues deadCodeTwice).markdown.toList =
      ["### Major Violations (1)", "- **Dead code** (1 instance)", "",
        "### Minor Violations (2)", "- **Dead code** (2 instances)",
        "- **Deep nesting** (1 instance)"].map (·.toList) := by
  have hmerged : Merge.issues (deadCodeTwice.map (·.toFinding)) = deadCodeTwice := by
    decide
  obtain ⟨haccounts, hlines, hrows⟩ := report_accounts deadCodeTwice
  exact ⟨haccounts, hmerged, (hlines (hrows _ hmerged)).trans (by decide)⟩

end ViolationReport
end SourceAudit
