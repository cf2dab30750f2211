import SourceAudit.Detector.Battery
import SourceAudit.Proofs.Detector.RepeatedBlocks
import SourceAudit.Proofs.Detector.UnguardedLines
import SourceAudit.Proofs.Metrics.FunctionEnds

/-!
  The lines of the detectors' findings.

  What is proved:
    1. `isLine_deepNesting` … `isLine_todoComments` — each detector reports lines that
       the source has, whatever its thresholds are.
    2. `isLine_find` — repeated blocks start at rows, and rows stand on lines; what
       `leading` leaves out does not matter.
    3. `isLine_of_mem_findings` — so does the whole battery.
-/
namespace SourceAudit
namespace Detector

variable {l : Language} {t : Text} {i : RawIssue}

/-! ## Structure -/

theorem isLine_deepNesting {limit : Quantity} (h : i ∈ deepNesting limit (prepare l t)) :
    t.IsLine i.line := by
  obtain ⟨⟨d, k⟩, hd, hi⟩ := List.mem_filterMap.mp h
  dsimp only at hi
  split at hi
  · obtain rfl := Option.some.inj hi
    exact Text.isLine_of_mem_zipIdx (length_depths l t) hd
  · cases hi

theorem isLine_longFunction {warn fail : Quantity}
    (h : i ∈ longFunction warn fail (prepare l t)) : t.IsLine i.line := by
  obtain ⟨f, hf, hi⟩ := List.mem_filterMap.mp h
  split at hi
  · obtain rfl := Option.some.inj hi
    exact (FunctionSpan.lies_of_mem_all hf).isLine
  · cases hi

theorem isLine_commentDensity {minLines limit : Quantity}
    (h : i ∈ commentDensity minLines limit (prepare l t)) : t.IsLine i.line := by
  unfold commentDensity at h
  split at h
  · cases h
  split at h
  · cases h
  · obtain rfl := List.mem_singleton.mp h
    exact t.isLine_one

theorem isLine_computeLine (l : Language) (t : Text) : t.IsLine (computeLine (prepare l t)) := by
  unfold computeLine
  split
  · next f hf => exact (FunctionSpan.lies_of_mem_all (List.mem_of_find?_eq_some hf)).isLine
  · exact t.isLine_one

theorem isLine_missingErrorHandling {minChars : Quantity} {c : Context}
    (h : i ∈ missingErrorHandling minChars (prepare l t) c) : t.IsLine i.line := by
  unfold missingErrorHandling at h
  split at h
  · cases h
  split at h
  · cases h
  split at h
  · cases h
  · obtain rfl := List.mem_singleton.mp h
    exact isLine_computeLine l t

/-! ## Variables -/

theorem mem_firstOfEach {found : List (Text × Nat)} {seen : List Text} {x : Text × Nat}
    (h : x ∈ firstOfEach found seen) : x ∈ found := by
  induction found generalizing seen with
  | nil => cases h
  | cons first rest ih =>
    rw [firstOfEach] at h
    split at h
    · exact List.mem_cons_of_mem _ (ih h)
    · rcases List.mem_cons.mp h with rfl | h
      · exact List.mem_cons_self
      · exact List.mem_cons_of_mem _ (ih h)

theorem isLine_shortVariableNames {c : Context} (h : i ∈ shortVariableNames (prepare l t) c) :
    t.IsLine i.line := by
  obtain ⟨⟨name, line⟩, hname, rfl⟩ := List.mem_map.mp h
  obtain ⟨⟨row, k⟩, hrow, hshort⟩ := List.mem_flatMap.mp (mem_firstOfEach hname)
  dsimp only at hshort
  split at hshort
  · cases hshort
  · obtain ⟨form, -, hform⟩ := List.mem_flatMap.mp hshort
    obtain ⟨m, -, hm⟩ := List.mem_filterMap.mp hform
    split at hm
    · obtain ⟨-, rfl⟩ := Prod.mk.inj (Option.some.inj hm)
      exact Text.isLine_of_mem_zipIdx (length_maskedLines l t) hrow
    · cases hm

/-- Names are declared on lines. -/
theorem isLine_of_mem_declarations {d : Text × Site} (h : d ∈ declarations (prepare l t)) :
    t.IsLine d.2.line := by
  obtain ⟨⟨row, k⟩, hrow, hd⟩ := List.mem_flatMap.mp h
  obtain ⟨form, -, hform⟩ := List.mem_flatMap.mp hd
  obtain ⟨m, -, hm⟩ := List.mem_filterMap.mp hform
  split at hm
  · split at hm
    · cases hm
    · obtain rfl := Option.some.inj hm
      exact Text.isLine_of_mem_zipIdx (length_maskedLines l t) hrow
  · cases hm

theorem isLine_unusedVariables (h : i ∈ unusedVariables (prepare l t)) : t.IsLine i.line := by
  obtain ⟨⟨name, line⟩, hunused, rfl⟩ := List.mem_map.mp h
  obtain ⟨d, hd, heq⟩ := List.mem_map.mp (mem_firstOfEach (List.mem_filter.mp hunused).1)
  obtain ⟨rfl, rfl⟩ := Prod.mk.inj heq
  exact isLine_of_mem_declarations hd

/-! ## Statements -/

theorem mem_firstNumbers {found : List (Text × Nat)} {seen : List Text} {x : Text × Nat}
    (h : x ∈ firstNumbers found seen) : x ∈ found := by
  induction found generalizing seen with
  | nil => cases h
  | cons first rest ih =>
    rw [firstNumbers] at h
    split at h
    · exact List.mem_cons_of_mem _ (ih h)
    · rcases List.mem_cons.mp h with rfl | h
      · exact List.mem_cons_self
      · exact List.mem_cons_of_mem _ (ih h)

theorem isLine_magicNumbers {exempt : List String} (h : i ∈ magicNumbers exempt (prepare l t)) :
    t.IsLine i.line := by
  obtain ⟨⟨value, line⟩, hvalue, rfl⟩ := List.mem_map.mp h
  obtain ⟨⟨row, k⟩, hrow, hnumber⟩ := List.mem_flatMap.mp (mem_firstNumbers hvalue)
  dsimp only at hnumber
  split at hnumber
  · obtain ⟨m, -, heq⟩ := List.mem_map.mp hnumber
    obtain ⟨-, rfl⟩ := Prod.mk.inj heq
    exact Text.isLine_of_mem_zipIdx (length_maskedLines l t) hrow
  · cases hnumber

/-- The line after a jump is there, for the jump was read together with it. -/
theorem isLine_deadCode (h : i ∈ deadCode (prepare l t)) : t.IsLine i.line := by
  obtain ⟨⟨⟨line, next⟩, k⟩, hpair, hi⟩ := List.mem_filterMap.mp h
  dsimp only at hi
  split at hi
  · obtain rfl := Option.some.inj hi
    have hk := (List.getElem?_eq_some_iff.mp (List.mk_mem_zipIdx_iff_getElem?.mp hpair)).1
    rw [List.length_zip, List.length_drop, length_maskedLines] at hk
    exact Text.isLine_of_lt (i := k + 1) (by omega)
  · cases hi

theorem isLine_debugStatements (h : i ∈ debugStatements (prepare l t)) : t.IsLine i.line := by
  unfold debugStatements at h
  split at h
  · cases h
  · next k hk =>
    obtain rfl := List.mem_singleton.mp h
    have hlt := (List.findIdx?_eq_some_iff_findIdx_eq.mp hk).1
    exact Text.isLine_of_lt (length_maskedLines l t ▸ hlt)

theorem isLine_todoComments (h : i ∈ todoComments (prepare l t)) : t.IsLine i.line := by
  unfold todoComments at h
  split at h
  · cases h
  · next k hk =>
    obtain rfl := List.mem_singleton.mp h
    have hlt := (List.findIdx?_eq_some_iff_findIdx_eq.mp hk).1
    rw [List.length_zip] at hlt
    exact Text.isLine_of_lt (Nat.lt_of_lt_of_le hlt (Nat.min_le_left _ _))

end Detector

/-! ## Repeated code -/

namespace Duplicates

variable {l : Language} {t : Text}

theorem isLine_of_mem_rows {r : Row} (h : r ∈ rows (prepare l t)) : t.IsLine r.line := by
  obtain ⟨⟨line, k⟩, hline, hr⟩ := List.mem_filterMap.mp h
  dsimp only at hr
  split at hr
  · cases hr
  · obtain rfl := Option.some.inj hr
    exact Text.isLine_of_mem_zipIdx (length_codeLines l t) hline

theorem length_blocks_le (size : Nat) (ts : List Text) : (blocks size ts).length ≤ ts.length := by
  induction ts with
  | nil => exact Nat.le_refl _
  | cons text rest ih =>
    rw [blocks]
    split
    · exact Nat.zero_le _
    · exact Nat.succ_le_succ ih

/-- A repeated block is reported on the line of its first row. -/
theorem isLine_report {starts : List Nat} (hne : starts ≠ [])
    (h : ∀ k ∈ starts, k < (rows (prepare l t)).length) :
    t.IsLine (report (rows (prepare l t)) starts).line := by
  cases starts with
  | nil => exact absurd rfl hne
  | cons k rest =>
    have hk := h k List.mem_cons_self
    change t.IsLine (lineOf (rows (prepare l t)) k : Int)
    rw [lineOf_eq hk]
    exact isLine_of_mem_rows (List.getElem_mem hk)

theorem isLine_find {size : Nat} {long : List Text → Bool} {i : RawIssue}
    (h : i ∈ find size long (rows (prepare l t))) : t.IsLine i.line := by
  unfold find at h
  split at h
  · cases h
  · obtain ⟨starts, hstarts, rfl⟩ := List.mem_map.mp h
    obtain ⟨block, -, rfl, hlength⟩ :=
      mem_repeats_iff.mp ((leading_sublist [] _).subset hstarts)
    refine isLine_report (List.ne_nil_of_length_pos (by omega)) fun k hk => ?_
    have hlt := (List.getElem?_eq_some_iff.mp (mem_startsOf.mp hk)).1
    refine Nat.lt_of_lt_of_le hlt ?_
    simpa only [List.length_map] using
      length_blocks_le size ((rows (prepare l t)).map (·.text))

end Duplicates

/-! ## Unguarded operations -/

/-- What is reported is an operation that stands unguarded on its line. -/
theorem RiskyOperation.exists_of_mem_report {p : Prepared} {limit : Nat}
    {ops : List RiskyOperation} {c : Context} {i : RawIssue} (h : i ∈ report limit ops p c) :
    ∃ op ∈ ops, ∃ (k : Nat) (row : Text), p.maskedLines[k]? = some row ∧ i.line = k + 1 ∧
      op.isUnguarded p c k row = true := by
  obtain ⟨op, hop, hreported⟩ := List.mem_flatMap.mp h
  obtain ⟨line, hline, rfl⟩ := List.mem_map.mp hreported
  obtain ⟨k, row, hrow, rfl, -, -, hunguarded⟩ :=
    mem_unguardedLines.mp (List.mem_of_mem_take hline)
  exact ⟨op, List.mem_of_mem_filter hop, k, row, hrow, rfl, hunguarded⟩

theorem RiskyOperation.isLine_report {l : Language} {t : Text} {limit : Nat}
    {ops : List RiskyOperation} {c : Context} {i : RawIssue}
    (h : i ∈ report limit ops (prepare l t) c) : t.IsLine i.line := by
  obtain ⟨op, -, k, row, hrow, hline, -⟩ := exists_of_mem_report h
  rw [hline]
  exact Text.isLine_of_getElem? (length_maskedLines l t) hrow

/-! ## The battery -/

namespace Detector

variable {l : Language} {t : Text}

/-- Whether a detector reports nothing but lines of the source. -/
def StaysWithin (d : Detector) : Prop :=
  ∀ {l : Language} {t : Text} {c : Context} {found : List RawIssue},
    d.check (prepare l t) c = .ok found → ∀ i ∈ found, t.IsLine i.line

theorem staysWithin_total {name : String} {check : Prepared → Context → List RawIssue}
    (h : ∀ {l t c i}, i ∈ check (prepare l t) c → t.IsLine i.line) :
    (total name check).StaysWithin := by
  intro l t c found hfound i hi
  obtain rfl := Except.ok.inj hfound
  exact h hi

theorem eq_of_map_eq_ok {ε α β : Type} {x : Except ε α} {f : α → β} {b : β}
    (h : x.map f = .ok b) : ∃ a, f a = b := by
  cases x with
  | error e => cases h
  | ok a => exact ⟨a, Except.ok.inj h⟩

theorem eq_nil_or_eq_ok_of_ite {ε α : Type} {few : Prop} [Decidable few]
    {x : Except ε (List α)} {found : List α} (h : (if few then .ok [] else x) = .ok found) :
    found = [] ∨ x = .ok found := by
  split at h
  · exact .inl (Except.ok.inj h).symm
  · exact .inr h

theorem staysWithin_noProtection (th : Thresholds) :
    StaysWithin ⟨"missing_error_handling", noProtection th⟩ := by
  intro l t c found hfound i hi
  change noProtection th (prepare l t) c = .ok found at hfound
  unfold noProtection at hfound
  split at hfound
  · obtain rfl := Except.ok.inj hfound
    cases hi
  · obtain ⟨n, rfl⟩ := eq_of_map_eq_ok hfound
    exact isLine_missingErrorHandling hi

theorem staysWithin_fewComments (th : Thresholds) :
    StaysWithin ⟨"comment_density", fun p _ => fewComments th p⟩ := by
  intro l t c found hfound i hi
  obtain ⟨n, rfl⟩ := eq_of_map_eq_ok hfound
  exact isLine_commentDensity hi

theorem staysWithin_duplicateCode (th : Thresholds) :
    StaysWithin ⟨"duplicate_code", fun p _ => duplicateCode th p⟩ := by
  intro l t c found hfound i hi
  rcases eq_nil_or_eq_ok_of_ite hfound with rfl | hfound
  · cases hi
  · cases hrows : th.duplicateRows with
    | error e => rw [hrows] at hfound; cases hfound
    | ok n =>
      cases hleast : th.duplicateMinChars with
      | error e => rw [hrows, hleast] at hfound; cases hfound
      | ok least =>
        rw [hrows, hleast] at hfound
        obtain rfl := Except.ok.inj hfound
        exact Duplicates.isLine_find hi

theorem staysWithin_riskyOperations (th : Thresholds) :
    StaysWithin ⟨"risky_operations", riskyOperations th⟩ := by
  intro l t c found hfound i hi
  rcases eq_nil_or_eq_ok_of_ite hfound with rfl | hfound
  · cases hi
  · obtain ⟨n, rfl⟩ := eq_of_map_eq_ok hfound
    exact RiskyOperation.isLine_report hi

/-- Every detector reports nothing but lines of the source, whatever the thresholds. -/
theorem staysWithin_of_mem_battery {th : Thresholds} {d : Detector} (h : d ∈ battery th) :
    d.StaysWithin := by
  simp only [battery, List.mem_cons, List.not_mem_nil, or_false] at h
  rcases h with rfl | rfl | rfl | rfl | rfl | rfl | rfl | rfl | rfl | rfl | rfl | rfl
  · exact staysWithin_total isLine_deepNesting
  · exact staysWithin_total isLine_longFunction
  · exact staysWithin_noProtection th
  · exact staysWithin_fewComments th
  · exact staysWithin_total isLine_shortVariableNames
  · exact staysWithin_total isLine_magicNumbers
  · exact staysWithin_total isLine_unusedVariables
  · exact staysWithin_duplicateCode th
  · exact staysWithin_total isLine_deadCode
  · exact staysWithin_riskyOperations th
  · exact staysWithin_total isLine_debugStatements
  · exact staysWithin_total isLine_todoComments

/-- What detectors find that report nothing but lines of the source are lines of the source. -/
theorem isLine_of_mem_findings {detectors : List Detector} (h : ∀ d ∈ detectors, d.StaysWithin)
    {c : Context} {i : RawIssue} (hi : i ∈ findings detectors (prepare l t) c) :
    t.IsLine i.line := by
  obtain ⟨d, hd, hfound⟩ := List.mem_flatMap.mp hi
  cases hcheck : d.check (prepare l t) c with
  | error e => rw [hcheck] at hfound; cases hfound
  | ok found =>
    rw [hcheck] at hfound
    exact h d hd hcheck i hfound

end Detector
end SourceAudit
