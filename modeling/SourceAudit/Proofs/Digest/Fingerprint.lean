import Mathlib.Data.List.Nodup
import SourceAudit.Digest.Fingerprint
import SourceAudit.Document.Display
import SourceAudit.Proofs.Document.CompactText

/-!
  What a fingerprint tells of a value.

  A fingerprint is the digest of a value in its canonical form, and that form tells the
  value up to the order of entries and the kinds of moments (`Value.normal`). What is
  proved:
    1. `canonical_eq_iff` — canonical forms are equal exactly if the values are, up to
       that.
    2. `normal_find?` — tables without repeated names are equal up to that only if they
       hold equal values under every name.
    3. `quantity?_normal`, `whole?_normal`, `shown_of_normal` — numbers are told, and so
       is what is shown as digits.
    4. `isAlphanum_of_mem_fingerprint` — a fingerprint is made of letters and digits.
-/
namespace SourceAudit
namespace Value

open Json

/-- A value as its canonical form tells it. -/
def normal (v : Value) : Value := told (sorted v)

/-! ## Entries by name -/

section Entries

variable {entries others : List (String × Value)} {name : String}

theorem mem_of_find? {v : Value} (h : find? entries name = some v) : (name, v) ∈ entries := by
  induction entries with
  | nil => cases h
  | cons e rest ih =>
    rw [find?] at h
    split at h
    · next hname =>
      obtain rfl := Option.some.inj h
      rw [← beq_iff_eq.mp hname]
      exact List.mem_cons_self
    · exact List.mem_cons_of_mem _ (ih h)

theorem find?_eq_some_iff {v : Value} (h : (entries.map (·.1)).Nodup) :
    find? entries name = some v ↔ (name, v) ∈ entries := by
  induction entries with
  | nil => simp [find?]
  | cons e rest ih =>
    obtain ⟨other, w⟩ := e
    rw [List.map_cons, List.nodup_cons] at h
    rw [find?, List.mem_cons, Prod.mk.injEq]
    by_cases hname : other = name
    · subst hname
      have hnot : (other, v) ∉ rest := fun hmem => h.1 (List.mem_map.mpr ⟨_, hmem, rfl⟩)
      simp [hnot, eq_comm]
    · rw [if_neg (by simpa using hname), ih h.2, eq_comm]
      simp [hname]

/-- The value under a name does not depend on the order of the entries. -/
theorem find?_perm (hperm : entries.Perm others) (h : (entries.map (·.1)).Nodup) :
    find? entries name = find? others name := by
  have hothers : (others.map (·.1)).Nodup := (hperm.map _).nodup_iff.mp h
  apply Option.ext
  intro v
  rw [find?_eq_some_iff h, find?_eq_some_iff hothers, hperm.mem_iff]

theorem find?_map (f : Value → Value) :
    find? (entries.map fun e => (e.1, f e.2)) name = (find? entries name).map f := by
  induction entries with
  | nil => rfl
  | cons e rest ih =>
    rw [List.map_cons, find?, find?, ih]
    split <;> rfl

end Entries

/-! ## Canonical forms -/

theorem sortedItems_eq_map (items : List Value) : sortedItems items = items.map sorted := by
  induction items with
  | nil => rfl
  | cons v rest ih => rw [sortedItems, List.map_cons, ih]

theorem sortedEntries_eq_map (entries : List (String × Value)) :
    sortedEntries entries = entries.map fun e => (e.1, sorted e.2) := by
  induction entries with
  | nil => rfl
  | cons e rest ih => rw [sortedEntries, List.map_cons, ih]

/-- Sorting moves entries and changes no number. -/
theorem IsProper.sorted {v : Value} (h : v.IsProper) : (Json.sorted v).IsProper := by
  induction v using Value.induction with
  | null | flag | whole | real | text | moment => exact h
  | list items ih =>
    cases h with | list hitems =>
    rw [Json.sorted, sortedItems_eq_map]
    refine .list fun v hv => ?_
    obtain ⟨w, hw, rfl⟩ := List.mem_map.mp hv
    exact ih w hw (hitems w hw)
  | table entries ih =>
    cases h with | table hentries =>
    rw [Json.sorted, sortedEntries_eq_map]
    refine .table fun e he => ?_
    obtain ⟨f, hf, rfl⟩ := List.mem_map.mp (List.mem_mergeSort.mp he)
    exact ih f hf (hentries f hf)

/-- Canonical forms are equal exactly if they tell the same. -/
theorem canonical_eq_iff {v w : Value} (hv : v.IsProper) (hw : w.IsProper) :
    v.canonical = w.canonical ↔ v.normal = w.normal :=
  compact_eq_iff hv.sorted hw.sorted

theorem normal_list (items : List Value) : normal (.list items) = .list (items.map normal) := by
  rw [normal, Json.sorted, told, toldItems_eq_map, sortedItems_eq_map, List.map_map]
  rfl

/-- Tables that are told alike hold values told alike under every name. -/
theorem normal_find? {entries others : List (String × Value)}
    (hentries : (entries.map (·.1)).Nodup) (hothers : (others.map (·.1)).Nodup)
    (h : normal (.table entries) = normal (.table others)) (name : String) :
    (find? entries name).map normal = (find? others name).map normal := by
  have hfind : ∀ {es : List (String × Value)}, (es.map (·.1)).Nodup →
      find? (normal (.table es)).entries name = (find? es name).map normal := by
    intro es hes
    have hnames : ((sortedEntries es).map (·.1)).Nodup := by
      rw [sortedEntries_eq_map, List.map_map]
      exact hes
    rw [normal, Json.sorted, told, toldEntries_eq_map, Value.entries, find?_map,
      ← find?_perm (List.mergeSort_perm _ _).symm hnames, sortedEntries_eq_map, find?_map,
      Option.map_map]
    rfl
  rw [← hfind hentries, h, hfind hothers]

/-! ## What is told -/

variable {v w : Value}

theorem quantity?_normal (v : Value) : (normal v).quantity? = v.quantity? := by
  cases v <;> rfl

theorem whole?_normal (v : Value) : (normal v).whole? = v.whole? := by
  cases v <;> rfl

/-- Whether a value holds others. -/
def isNested : Value → Bool
  | .list _ | .table _ => true
  | _ => false

theorem isNested_normal (v : Value) : (normal v).isNested = v.isNested := by
  cases v <;> rfl

theorem shown_normal (h : v.isNested = false) : (normal v).shown = v.shown := by
  cases v with
  | list | table => cases h
  | _ => rfl

/-- A value that holds others is shown in brackets or braces. -/
theorem exists_mem_shown (h : v.isNested = true) :
    ∃ d ∈ v.shown.toList, Unicode.isDigit d = false := by
  cases v with
  | list items =>
    refine ⟨'[', ?_, by decide +kernel⟩
    simp [shown, inner]
  | table entries =>
    refine ⟨'\x7b', ?_, by decide +kernel⟩
    simp [shown, inner]
  | _ => cases h

/-- What is shown as digits is told. -/
theorem shown_of_normal (hdigits : ∀ d ∈ v.shown.toList, Unicode.isDigit d = true)
    (h : normal v = normal w) : w.shown = v.shown := by
  cases hv : v.isNested with
  | true =>
    obtain ⟨d, hd, hnot⟩ := exists_mem_shown hv
    rw [hdigits d hd] at hnot
    cases hnot
  | false =>
    have hw : w.isNested = false := by rw [← isNested_normal, ← h, isNested_normal, hv]
    rw [← shown_normal hv, ← shown_normal hw, h]

/-! ## The digits of a fingerprint -/

theorem isAlphanum_of_mem_hexDigits {width n : Nat} {d : Char} (h : d ∈ Number.hexDigits width n) :
    d.isAlphanum = true := by
  induction width generalizing n with
  | zero => cases h
  | succ width ih =>
    have hdigit : ∀ m < 16, (Number.hexDigit m).isAlphanum = true := by decide
    rw [Number.hexDigits, List.mem_append, List.mem_singleton] at h
    rcases h with h | rfl
    · exact ih h
    · exact hdigit _ (Nat.mod_lt _ (by decide))

theorem isAlphanum_of_mem_fingerprint {d : Char} (h : d ∈ v.fingerprint.toList) :
    d.isAlphanum = true := by
  rw [fingerprint, String.toList_ofList] at h
  have hhex := List.mem_of_mem_take h
  rw [Sha256.hex, String.toList_ofList] at hhex
  obtain ⟨w, -, hd⟩ := List.mem_flatMap.mp hhex
  exact isAlphanum_of_mem_hexDigits hd

end Value
end SourceAudit
