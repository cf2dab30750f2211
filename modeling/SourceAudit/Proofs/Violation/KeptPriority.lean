import Mathlib.Data.Set.Defs
import SourceAudit.Proofs.Violation.LineMerge

/-!
  The priority of what a line is left with.

  Of messages that tell of the same problem the merge keeps the longest, whatever
  its priority. What is proved:
    1. `distinct_eq_longest` — what is kept of the findings of a line are the longest of
       its clusters: each finding goes to the first cluster whose longest message so
       far is related to it.
    2. `best_noWorse` — the violation of a line has the best message of those kept.
    3. `exists_noWorse_of_mem` — if no finding is related to one that is at least as
       long and of lower priority, nothing is lost by keeping the longest.
    4. `keepsBest_exactly` — so a line keeps the best of its messages exactly if a
       best message leads a cluster, and all lists drawn from some findings do exactly
       if none of them is outgrown by another of its line.
-/
namespace SourceAudit

/-! ## Messages by priority and length -/

namespace Message

/-- One message is no worse than another: it has a higher priority, or the same one and at least
as many characters. -/
def NoWorse (a b : String) : Prop :=
  priority a < priority b ∨ priority a = priority b ∧ b.length ≤ a.length

instance (a b : String) : Decidable (NoWorse a b) :=
  inferInstanceAs (Decidable (priority a < priority b ∨ priority a = priority b ∧ b.length ≤ a.length))

/-- One message outgrows another: it is at least as long, though its priority is lower. -/
def Outgrows (b a : String) : Prop := a.length ≤ b.length ∧ priority a < priority b

instance (b a : String) : Decidable (Outgrows b a) :=
  inferInstanceAs (Decidable (a.length ≤ b.length ∧ priority a < priority b))

theorem NoWorse.refl (a : String) : NoWorse a a := .inr ⟨rfl, Nat.le_refl _⟩

theorem NoWorse.trans {a b c : String} (hab : NoWorse a b) (hbc : NoWorse b c) : NoWorse a c := by
  unfold NoWorse at *
  omega

/-- A message that does not outgrow a shorter one is no worse. -/
theorem noWorse_of_not_outgrows {a b : String} (h : ¬ Outgrows b a) (hlen : a.length ≤ b.length) :
    NoWorse b a := by
  unfold Outgrows at h
  unfold NoWorse
  omega

theorem better_iff {a b : RawIssue} : better a b = true ↔ ¬ NoWorse b.message a.message := by
  simp only [better, NoWorse, Bool.or_eq_true, Bool.and_eq_true, decide_eq_true_eq, beq_iff_eq]
  omega

/-- The best of some findings is no worse than any of them. -/
theorem best_noWorse (first : RawIssue) (others : List RawIssue) :
    ∀ r ∈ first :: others, NoWorse (best first others).message r.message := by
  unfold best
  induction others generalizing first with
  | nil =>
    intro r hr
    obtain rfl := List.mem_singleton.mp hr
    exact .refl _
  | cons o rest ih =>
    rw [List.foldl_cons]
    -- whichever of the two goes on, it is no worse than either
    have hfirst : NoWorse (if better o first then o else first).message first.message := by
      split
      · next h => unfold NoWorse; have := better_iff.mp h; unfold NoWorse at this; omega
      · exact .refl _
    have ho : NoWorse (if better o first then o else first).message o.message := by
      split
      · exact .refl _
      · next h => exact not_not.mp (mt better_iff.mpr h)
    have hkept := ih (if better o first then o else first)
    intro r hr
    rcases List.mem_cons.mp hr with rfl | hr
    · exact (hkept _ List.mem_cons_self).trans hfirst
    · rcases List.mem_cons.mp hr with rfl | hr
      · exact (hkept _ List.mem_cons_self).trans ho
      · exact hkept r (List.mem_cons_of_mem _ hr)

theorem shareOne_comm (words : List String) (a b : String) : shareOne words a b = shareOne words b a := by
  simp only [shareOne, Bool.and_comm]

theorem similar_comm (a b : String) : similar a b = similar b a := by
  simp only [similar, shareOne_comm groups a b, Bool.or_comm (Text.holds (normalized a) _)]

theorem shortForm_comm (a b : String) : shortForm a b = shortForm b a := by
  simp only [shortForm, shareOne_comm concepts a b, Bool.or_comm (muchShorter a.length _)]

end Message

namespace Merge

open Message (NoWorse Outgrows)

theorem related_comm (a b : RawIssue) : related a b = related b a := by
  rw [related, related, Message.similar_comm, Message.shortForm_comm]

/-! ## Clusters of findings -/

/-- Findings that were taken for one problem, in order. -/
structure Cluster where
  founder : RawIssue
  followers : List RawIssue := []

/-- The finding that a cluster is left with: the first of its longest messages. -/
def Cluster.longest (c : Cluster) : RawIssue :=
  c.followers.foldl
    (fun kept issue => if kept.message.length < issue.message.length then issue else kept) c.founder

/-- A finding goes to the first cluster whose longest message is related to it; if there is none, it
founds one. -/
def join : List Cluster → RawIssue → List Cluster
  | [], issue => [{ founder := issue }]
  | c :: rest, issue =>
    if related c.longest issue then { c with followers := c.followers ++ [issue] } :: rest
    else c :: join rest issue

/-- The clusters of some findings. -/
def clusters (group : List RawIssue) : List Cluster := group.foldl join []

theorem Cluster.longest_follow (c : Cluster) (issue : RawIssue) :
    Cluster.longest { c with followers := c.followers ++ [issue] } =
      if c.longest.message.length < issue.message.length then issue else c.longest := by
  rw [Cluster.longest, List.foldl_append]
  rfl

theorem absorb_longest (cs : List Cluster) (issue : RawIssue) :
    absorb (cs.map Cluster.longest) issue = (join cs issue).map Cluster.longest := by
  induction cs with
  | nil => rfl
  | cons c rest ih =>
    simp only [List.map_cons, absorb, join]
    split
    · rw [List.map_cons, c.longest_follow issue]
    · rw [List.map_cons, ih]

/-- What is kept of the findings of a line are the longest of their clusters. -/
theorem distinct_eq_longest (group : List RawIssue) :
    distinct group = (clusters group).map Cluster.longest := by
  have hfold : ∀ cs : List Cluster, group.foldl absorb (cs.map Cluster.longest) =
      (group.foldl join cs).map Cluster.longest := by
    induction group with
    | nil => exact fun _ => rfl
    | cons issue rest ih =>
      intro cs
      rw [List.foldl_cons, List.foldl_cons, absorb_longest, ih]
  exact hfold []

/-! ## What the violation of a line keeps -/

/-- The violation of a line keeps the best of its messages: none has a higher priority, and none
of the same priority is longer. -/
structure KeepsBest (raw : List RawIssue) (i : Issue) : Prop where
  priority : ∀ r ∈ raw, r.line = i.line → Message.priority i.message ≤ Message.priority r.message
  length : ∀ r ∈ raw, r.line = i.line → Message.priority r.message = Message.priority i.message →
    r.message.length ≤ i.message.length

theorem keepsBest_iff {raw : List RawIssue} {i : Issue} :
    KeepsBest raw i ↔ ∀ r ∈ onLine i.line raw, NoWorse i.message r.message := by
  unfold NoWorse
  constructor
  · intro h r hr
    obtain ⟨hraw, hline⟩ := mem_onLine.mp hr
    have hpriority := h.priority r hraw hline
    have hlength := h.length r hraw hline
    omega
  · intro h
    refine ⟨fun r hraw hline => ?_, fun r hraw hline heq => ?_⟩
    · have := h r (mem_onLine.mpr ⟨hraw, hline⟩)
      omega
    · have := h r (mem_onLine.mpr ⟨hraw, hline⟩)
      omega

/-- A best message of some findings leads one of their clusters. -/
def BestLeads (group : List RawIssue) : Prop :=
  ∃ c ∈ clusters group, ∀ r ∈ group, NoWorse c.longest.message r.message

instance (group : List RawIssue) : Decidable (BestLeads group) :=
  inferInstanceAs (Decidable (∃ c ∈ clusters group, ∀ r ∈ group,
    NoWorse c.longest.message r.message))

/-- The violation of a line has the message of one that is kept, and no worse one than the others. -/
theorem exists_kept_of_mem_issues {raw : List RawIssue} {i : Issue} (h : i ∈ issues raw) :
    ∃ k ∈ distinct (onLine i.line raw), k.message = i.message ∧
      ∀ r ∈ distinct (onLine i.line raw), NoWorse i.message r.message := by
  obtain ⟨n, -, hi⟩ := List.mem_filterMap.mp h
  unfold issueOf at hi
  split at hi
  · cases hi
  · next first others hd =>
    obtain rfl := Option.some.inj hi
    rw [hd]
    exact ⟨_, best_mem first others, rfl, Message.best_noWorse first others⟩

/-- A line keeps the best of its messages exactly if one leads a cluster. -/
theorem keepsBest_iff_bestLeads {raw : List RawIssue} {i : Issue} (h : i ∈ issues raw) :
    KeepsBest raw i ↔ BestLeads (onLine i.line raw) := by
  obtain ⟨k, hk, hmessage, hbest⟩ := exists_kept_of_mem_issues h
  rw [keepsBest_iff, BestLeads]
  constructor
  · intro hkeeps
    rw [distinct_eq_longest] at hk
    obtain ⟨c, hc, rfl⟩ := List.mem_map.mp hk
    exact ⟨c, hc, fun r hr => hmessage ▸ hkeeps r hr⟩
  · rintro ⟨c, hc, hleads⟩ r hr
    have hkept : c.longest ∈ distinct (onLine i.line raw) := by
      rw [distinct_eq_longest]
      exact List.mem_map_of_mem hc
    exact (hbest _ hkept).trans (hleads r hr)

/-! ## Findings that are never outgrown -/

/-- Of some findings none is related to another of its line that outgrows it. -/
def Unrivalled (findings : Set RawIssue) : Prop :=
  ∀ a ∈ findings, ∀ b ∈ findings, a.line = b.line → related a b = true →
    ¬ Outgrows b.message a.message

/-- A step of the merge of unrivalled findings loses no message without keeping one that is no
worse. -/
theorem exists_noWorse_absorb {findings : Set RawIssue} (hfree : Unrivalled findings)
    {kept : List RawIssue} {issue : RawIssue} (hissue : issue ∈ findings)
    (hkept : ∀ k ∈ kept, k ∈ findings ∧ k.line = issue.line) {r : RawIssue}
    (hr : r ∈ kept ∨ r = issue) : ∃ k ∈ absorb kept issue, NoWorse k.message r.message := by
  induction kept with
  | nil =>
    obtain rfl : r = issue := by simpa using hr
    exact ⟨r, List.mem_singleton.mpr rfl, .refl _⟩
  | cons first rest ih =>
    obtain ⟨⟨hfirst, hline⟩, hrest⟩ := List.forall_mem_cons.mp hkept
    rw [absorb]
    split
    · next hrelated =>
      -- the two meet: the longer one is no worse than the other
      have hother : r ∈ rest ∨ r = first ∨ r = issue := by
        rcases hr with hr | rfl
        · exact (List.mem_cons.mp hr).symm.imp_right .inl
        · exact .inr (.inr rfl)
      rcases hother with hr | hr
      · exact ⟨r, List.mem_cons_of_mem _ hr, .refl _⟩
      · refine ⟨_, List.mem_cons_self, ?_⟩
        split
        · next hlonger =>
          rcases hr with rfl | rfl
          · exact Message.noWorse_of_not_outgrows
              (hfree r hfirst issue hissue hline hrelated) (Nat.le_of_lt hlonger)
          · exact .refl _
        · next hshorter =>
          rcases hr with rfl | rfl
          · exact .refl _
          · rw [related_comm] at hrelated
            exact Message.noWorse_of_not_outgrows
              (hfree r hissue first hfirst hline.symm hrelated) (Nat.le_of_not_lt hshorter)
    · rcases hr with hr | rfl
      · rcases List.mem_cons.mp hr with rfl | hr
        · exact ⟨r, List.mem_cons_self, .refl _⟩
        · obtain ⟨k, hk, hbetter⟩ := ih hrest (.inl hr)
          exact ⟨k, List.mem_cons_of_mem _ hk, hbetter⟩
      · obtain ⟨k, hk, hbetter⟩ := ih hrest (.inr rfl)
        exact ⟨k, List.mem_cons_of_mem _ hk, hbetter⟩

/-- Of unrivalled findings of one line, what is kept holds one that is no worse for each. -/
theorem exists_noWorse_of_mem {findings : Set RawIssue} (hfree : Unrivalled findings)
    {group : List RawIssue} {n : Int} (hgroup : ∀ r ∈ group, r ∈ findings ∧ r.line = n)
    {r : RawIssue} (hr : r ∈ group) : ∃ k ∈ distinct group, NoWorse k.message r.message := by
  -- over the findings still to come: each kept or coming one is spoken for at the end
  have hfold : ∀ kept : List RawIssue, (∀ k ∈ kept, k ∈ findings ∧ k.line = n) →
      ∀ x, x ∈ kept ∨ x ∈ group → ∃ k ∈ group.foldl absorb kept, NoWorse k.message x.message := by
    clear hr
    induction group with
    | nil => exact fun kept _ x hx => ⟨x, hx.resolve_right List.not_mem_nil, .refl _⟩
    | cons issue rest ih =>
      intro kept hkept x hx
      obtain ⟨⟨hissue, hline⟩, hrest⟩ := List.forall_mem_cons.mp hgroup
      have hsame : ∀ k ∈ kept, k ∈ findings ∧ k.line = issue.line := fun k hk =>
        ⟨(hkept k hk).1, (hkept k hk).2.trans hline.symm⟩
      have hnext : ∀ k ∈ absorb kept issue, k ∈ findings ∧ k.line = n := fun k hk =>
        (mem_absorb hk).elim (hkept k) fun heq => heq ▸ ⟨hissue, hline⟩
      have hstep : x ∈ rest ∨ ∃ k ∈ absorb kept issue, NoWorse k.message x.message := by
        rcases hx with hx | hx
        · exact .inr (exists_noWorse_absorb hfree hissue hsame (.inl hx))
        · exact (List.mem_cons.mp hx).symm.imp_right fun heq =>
            exists_noWorse_absorb hfree hissue hsame (.inr heq)
      rw [List.foldl_cons]
      rcases hstep with hx | ⟨k, hk, hbetter⟩
      · exact ih hrest _ hnext x (.inr hx)
      · obtain ⟨l, hl, hbest⟩ := ih hrest _ hnext k (.inl hk)
        exact ⟨l, hl, hbest.trans hbetter⟩
  exact hfold [] (List.forall_mem_nil _) r (.inr hr)

theorem keepsBest_of_unrivalled {findings : Set RawIssue} (hfree : Unrivalled findings)
    {raw : List RawIssue} (hraw : ∀ r ∈ raw, r ∈ findings) {i : Issue} (hi : i ∈ issues raw) :
    KeepsBest raw i := by
  obtain ⟨-, -, -, hbest⟩ := exists_kept_of_mem_issues hi
  refine keepsBest_iff.mpr fun r hr => ?_
  have hgroup : ∀ x ∈ onLine i.line raw, x ∈ findings ∧ x.line = i.line := fun x hx =>
    (mem_onLine.mp hx).imp_left (hraw x)
  obtain ⟨k, hk, hbetter⟩ := exists_noWorse_of_mem hfree hgroup hr
  exact (hbest k hk).trans hbetter

/-- Two related findings of a line, the longer one first, leave the message of the longer one. -/
theorem issues_pair {a b : RawIssue} (hline : a.line = b.line) (hrelated : related b a = true)
    (hlen : a.message.length ≤ b.message.length) :
    ∃ i ∈ issues [b, a], i.line = a.line ∧ i.message = b.message := by
  have hlines : a.line ∈ linesOf [b, a] := mem_linesOf.mpr (by simp)
  have hgroup : onLine a.line [b, a] = [b, a] := by simp [onLine, hline]
  have hkept : distinct [b, a] = [b] := by
    simp [distinct, absorb, hrelated, Nat.not_lt.mpr hlen]
  have hissue : issueOf a.line [b, a] = some ⟨a.line, b.message, severityOf [b, a],
      Category.of b.message, b.kind⟩ := by
    rw [issueOf, hkept]
    rfl
  exact ⟨_, List.mem_filterMap.mpr ⟨a.line, hlines, hgroup ▸ hissue⟩, rfl, rfl⟩

/-- What is left of a line, for any findings. Every line with findings has a violation, and it keeps
the best of the messages exactly if one leads a cluster of the line. All lists of findings drawn
from some, in any order and number, keep the best of every line exactly if none of these findings
is related to another of its line that is at least as long and of lower priority. -/
theorem keepsBest_exactly (raw : List RawIssue) (findings : Set RawIssue) :
    (∀ n ∈ raw.map (·.line), ∃ i ∈ issues raw, i.line = n ∧
      (KeepsBest raw i ↔ BestLeads (onLine n raw))) ∧
    ((∀ drawn : List RawIssue, (∀ r ∈ drawn, r ∈ findings) →
      ∀ i ∈ issues drawn, KeepsBest drawn i) ↔ Unrivalled findings) := by
  constructor
  · intro n hn
    rw [← mem_linesOf, ← issues_lines] at hn
    obtain ⟨i, hi, rfl⟩ := List.mem_map.mp hn
    exact ⟨i, hi, rfl, keepsBest_iff_bestLeads hi⟩
  · refine ⟨fun hkeeps a ha b hb hline hrelated houtgrows => ?_, fun hfree drawn hdrawn i hi =>
      keepsBest_of_unrivalled hfree hdrawn hi⟩
    rw [related_comm] at hrelated
    obtain ⟨i, hi, hi_line, hmessage⟩ := issues_pair hline hrelated houtgrows.1
    have hpriority := (hkeeps [b, a] (by simp [ha, hb]) i hi).priority a (by simp) hi_line.symm
    rw [hmessage] at hpriority
    exact absurd houtgrows.2 (Nat.not_lt.mpr hpriority)

/-- A finding of the highest priority. -/
def deepNesting : RawIssue := ⟨7, "Deep nesting of array", .minor, "deep-nesting"⟩

/-- A longer message about the same array, of a lower priority. -/
def nullElement : RawIssue := ⟨7, "Array element may be null", .minor, "null-unsafe"⟩

/-- A message that is longer still, and has nothing to do with the array. -/
def nullReceiver : RawIssue :=
  ⟨7, "Null reference used unguarded", .minor, "null-unsafe"⟩

/-- What comes first decides: a null value that was met before takes the longer message with it, and
the nesting stays; met after the nesting it leaves the longer message to take its place. -/
theorem keepsBest_by_order :
    (∃ i ∈ issues [nullReceiver, deepNesting, nullElement], i.line = 7 ∧
      KeepsBest [nullReceiver, deepNesting, nullElement] i) ∧
    (∃ i ∈ issues [deepNesting, nullElement, nullReceiver], i.line = 7 ∧
      ¬ KeepsBest [deepNesting, nullElement, nullReceiver] i) ∧
    ∀ i ∈ issues [nullReceiver, deepNesting, nullReceiver],
      KeepsBest [nullReceiver, deepNesting, nullReceiver] i := by
  refine ⟨?_, ?_, ?_⟩
  · obtain ⟨i, hi, hline, hiff⟩ :=
      (keepsBest_exactly [nullReceiver, deepNesting, nullElement] ∅).1 7 (by decide)
    exact ⟨i, hi, hline, hiff.mpr (by decide)⟩
  · obtain ⟨i, hi, hline, hiff⟩ :=
      (keepsBest_exactly [deepNesting, nullElement, nullReceiver] ∅).1 7 (by decide)
    exact ⟨i, hi, hline, fun h => absurd (hiff.mp h) (by decide)⟩
  · have hfree : Unrivalled {r | r ∈ [nullReceiver, deepNesting]} := by
      have hpairs : ∀ a ∈ [nullReceiver, deepNesting], ∀ b ∈ [nullReceiver, deepNesting],
          related a b = true → ¬ Outgrows b.message a.message := by decide
      exact fun a ha b hb _ => hpairs a ha b hb
    exact (keepsBest_exactly [] _).2.mpr hfree _ (by decide)

/-- Not every line keeps the best of its messages: nesting around an array gives way to a null value
in the array. -/
theorem nesting_not_kept : ¬ ∀ raw : List RawIssue, ∀ i ∈ issues raw, KeepsBest raw i := by
  intro hkeeps
  have hrelated : related nullElement deepNesting = true := by decide
  obtain ⟨i, hi, hline, hmessage⟩ :=
    issues_pair (a := deepNesting) (b := nullElement) rfl hrelated (by decide)
  have hpriority := (hkeeps _ i hi).priority deepNesting (by simp) hline.symm
  rw [hmessage] at hpriority
  exact absurd hpriority (by decide)

end Merge
end SourceAudit
