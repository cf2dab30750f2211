import SourceAudit.Detector.Battery
import SourceAudit.Proofs.Pattern.Search

/-!
  What the findings of the battery depend on in the thresholds.

  What is proved:
    1. `isDigit_of_mem_numbers`, `magicNumbers_congr` — the numbers of a source are made of
       digits, so an exempt text matters only if it is.
    2. `findings_congr` — a threshold of no use makes its detector find nothing, whatever is
       wrong with it; thresholds that are the same but for this and for exempt texts that
       are no numbers (`Thresholds.Alike`) lead to the same findings.
-/
namespace SourceAudit

/-! ## Numbers without a name -/

namespace Detector

theorem bareNumber_eq :
    bareNumber =
      .seq (.behind false (.union .word (.char '.')))
        (.seq (.group (.place 1) (.many .digit 2 none true))
          (.ahead false (.one (.union .word (.char '.'))))) := by
  decide +kernel

/-- A bare number ends behind digits from its start. -/
theorem run_bareNumber {c stop : Cursor} {spans : GroupSpans} {k : Cursor → GroupSpans → Option Hit}
    (hk : ∀ c' g hit, k c' g = some hit → hit = (c', g))
    (h : bareNumber.run c [] k = some (stop, spans)) :
    ∃ digits, c.Leads digits stop ∧ (∀ d ∈ digits, Unicode.isDigit d = true) ∧
      spans = [(.place 1, ⟨c.offset, stop.offset⟩)] := by
  rw [bareNumber_eq] at h
  simp only [Pattern.run] at h
  split at h
  · obtain ⟨n, hn, hit⟩ := Cursor.exists_of_tryReach h
    split at hit
    · cases hit
    · cases hk _ _ _ hit
      exact ⟨_, Cursor.leads_skip hn.le, hn.has, rfl⟩
  · cases h

/-- The number that a match takes is made of digits. -/
theorem isDigit_of_matchHere {c : Cursor} {proper : Bool} {m : Match}
    (h : bareNumber.matchHere c proper = some m) : ∀ d ∈ m.part 1, Unicode.isDigit d = true := by
  obtain ⟨⟨stop, spans⟩, hrun, rfl⟩ := Option.map_eq_some_iff.mp h
  obtain ⟨digits, hlead, hdigits, rfl⟩ := run_bareNumber (by
    intro c' g hit hhit
    split at hhit
    · cases hhit
    · exact (Option.some.inj hhit).symm) hrun
  change ∀ d ∈ (c.capture ⟨c.offset, stop.offset⟩).text, Unicode.isDigit d = true
  rw [(Cursor.Leads.refl c).capture hlead]
  exact hdigits

/-- The numbers of a source are made of digits, one at least. -/
theorem isDigit_of_mem_numbers {p : Prepared} {number : Text × Nat} (h : number ∈ numbers p) :
    number.1 ≠ [] ∧ ∀ d ∈ number.1, Unicode.isDigit d = true := by
  obtain ⟨⟨line, i⟩, -, hline⟩ := List.mem_flatMap.mp h
  dsimp only at hline
  split at hline
  · obtain ⟨m, hm, rfl⟩ := List.mem_map.mp hline
    obtain ⟨_, _, hhere⟩ := Pattern.exists_place_of_mem_findAll hm
    have hdigits := isDigit_of_matchHere hhere
    dsimp only [significant]
    split
    · exact ⟨List.cons_ne_nil _ _, List.all_eq_true.mp (by decide)⟩
    · next hkept =>
      exact ⟨by simpa using hkept, fun d hd => hdigits d (List.dropWhile_subset _ hd)⟩
  · cases hline

/-- Texts that are seen already matter only if they are among the numbers. -/
theorem firstNumbers_congr {found : List (Text × Nat)} {seen others : List Text}
    (h : ∀ n ∈ found, n.1 ∈ seen ↔ n.1 ∈ others) :
    firstNumbers found seen = firstNumbers found others := by
  induction found generalizing seen others with
  | nil => rfl
  | cons n rest ih =>
    obtain ⟨value, line⟩ := n
    rw [List.forall_mem_cons] at h
    have hcontains : seen.contains value = others.contains value := by
      rw [Bool.eq_iff_iff, List.contains_iff_mem, List.contains_iff_mem]
      exact h.1
    have hnext : firstNumbers rest (value :: seen) = firstNumbers rest (value :: others) := by
      apply ih
      intro n hn
      simp only [List.mem_cons, h.2 n hn]
    rw [firstNumbers, firstNumbers, hcontains, ih h.2, hnext]

/-- Exempt texts matter only if they are made of digits. -/
theorem magicNumbers_congr {exempt others : List String} (p : Prepared)
    (h : ∀ s : String, s.toList ≠ [] → (∀ d ∈ s.toList, Unicode.isDigit d = true) →
      (s ∈ exempt ↔ s ∈ others)) :
    magicNumbers exempt p = magicNumbers others p := by
  unfold magicNumbers
  rw [firstNumbers_congr]
  intro n hn
  obtain ⟨hne, hdigits⟩ := isDigit_of_mem_numbers hn
  have hmem : ∀ texts : List String,
      n.1 ∈ texts.map String.toList ↔ String.ofList n.1 ∈ texts := by
    intro texts
    rw [List.mem_map]
    constructor
    · rintro ⟨s, hs, hn⟩
      rw [← hn, String.ofList_toList]
      exact hs
    · intro hs
      exact ⟨_, hs, String.toList_ofList⟩
  rw [hmem, hmem]
  exact h _ (by rwa [String.toList_ofList]) (by rwa [String.toList_ofList])

end Detector

/-! ## Thresholds -/

/-- Thresholds that are the same, but for the faults in the place of those that are of no use, and
for exempt texts that no number is written as. -/
structure Thresholds.Alike (t u : Thresholds) : Prop where
  functionLengthWarn : t.functionLengthWarn = u.functionLengthWarn
  functionLengthFail : t.functionLengthFail = u.functionLengthFail
  nestingWarn : t.nestingWarn = u.nestingWarn
  commentDensityFail : t.commentDensityFail = u.commentDensityFail
  commentDensityMinLines :
    t.commentDensityMinLines.toOption = u.commentDensityMinLines.toOption
  duplicateWindow : t.duplicateWindow = u.duplicateWindow
  duplicateRows : t.duplicateRows.toOption = u.duplicateRows.toOption
  duplicateMinChars : t.duplicateMinChars.toOption = u.duplicateMinChars.toOption
  exemptNumbers : ∀ s : String, s.toList ≠ [] → (∀ d ∈ s.toList, Unicode.isDigit d = true) →
    (s ∈ t.exemptNumbers ↔ s ∈ u.exemptNumbers)
  maxRiskyLines : t.maxRiskyLines.toOption = u.maxRiskyLines.toOption
  errorHandlingMinChars : t.errorHandlingMinChars.toOption = u.errorHandlingMinChars.toOption

namespace Detector

theorem toOption_map {ε α β : Type} (f : α → β) (x : Except ε α) :
    (x.map f).toOption = x.toOption.map f := by
  cases x <;> rfl

theorem toOption_bind {ε α β : Type} (x : Except ε α) (f : α → Except ε β) :
    (x >>= f).toOption = x.toOption.bind fun a => (f a).toOption := by
  cases x <;> rfl

theorem toOption_ite {ε α : Type} {few : Prop} [Decidable few] (x : Except ε α) {y z : Except ε α}
    (h : y.toOption = z.toOption) :
    (if few then x else y).toOption = (if few then x else z).toOption := by
  split
  · rfl
  · exact h

variable {t u : Thresholds}

theorem toOption_noProtection (h : t.Alike u) (p : Prepared) (c : Context) :
    (noProtection t p c).toOption = (noProtection u p c).toOption := by
  unfold noProtection
  split
  · rfl
  · rw [toOption_map, toOption_map, h.errorHandlingMinChars]

theorem toOption_fewComments (h : t.Alike u) (p : Prepared) :
    (fewComments t p).toOption = (fewComments u p).toOption := by
  rw [fewComments, fewComments, toOption_map, toOption_map, h.commentDensityMinLines,
    h.commentDensityFail]

theorem toOption_duplicateCode (h : t.Alike u) (p : Prepared) :
    (duplicateCode t p).toOption = (duplicateCode u p).toOption := by
  unfold duplicateCode
  rw [h.duplicateWindow]
  apply toOption_ite
  simp only [toOption_bind, h.duplicateRows, h.duplicateMinChars]

theorem toOption_riskyOperations (h : t.Alike u) (p : Prepared) (c : Context) :
    (riskyOperations t p c).toOption = (riskyOperations u p c).toOption := by
  unfold riskyOperations
  split
  · rfl
  · rw [toOption_map, toOption_map, h.maxRiskyLines]

/-- The findings do not tell such thresholds apart. -/
theorem findings_congr (h : t.Alike u) (p : Prepared) (c : Context) :
    findings (battery t) p c = findings (battery u) p c := by
  have htotal (issues : List RawIssue) :
      (Except.ok issues : Except SettingFault (List RawIssue)).toOption = some issues := rfl
  simp only [findings, battery, List.flatMap_cons, List.flatMap_nil, total, htotal,
    toOption_noProtection h, toOption_fewComments h, toOption_duplicateCode h,
    toOption_riskyOperations h, h.nestingWarn, h.functionLengthWarn, h.functionLengthFail,
    magicNumbers_congr p h.exemptNumbers]

end Detector
end SourceAudit
