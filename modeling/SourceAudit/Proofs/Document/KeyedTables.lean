import Mathlib.Data.List.Nodup
import SourceAudit.Proofs.Digest.Fingerprint

/-!
  Tables in which every name stands once.

  Entering a value is all that changes such a table: the value is then the one under its
  name, and nothing else changes (`find?_enter`). What is entered under a new name comes
  last (`enter_of_notMem`), and names are never doubled (`IsKeyed.enter`).
-/
namespace SourceAudit
namespace Value

variable {entries : List (String × Value)} {name : String} {v : Value}

/-- Whether each table of a value, at any level, has every name once. -/
inductive IsKeyed : Value → Prop where
  | null : IsKeyed .null
  | flag (b : Bool) : IsKeyed (.flag b)
  | whole (n : Int) : IsKeyed (.whole n)
  | real (q : Quantity) : IsKeyed (.real q)
  | text (s : String) : IsKeyed (.text s)
  | moment (kind s : String) : IsKeyed (.moment kind s)
  | list {items : List Value} (h : ∀ v ∈ items, IsKeyed v) : IsKeyed (.list items)
  | table {entries : List (String × Value)} (hnames : (entries.map (·.1)).Nodup)
    (h : ∀ e ∈ entries, IsKeyed e.2) : IsKeyed (.table entries)

theorem IsKeyed.nodup (h : (Value.table entries).IsKeyed) : (entries.map (·.1)).Nodup := by
  cases h with | table hnames _ => exact hnames

theorem IsKeyed.find? (h : (Value.table entries).IsKeyed) (hfind : Value.find? entries name = some v) :
    v.IsKeyed := by
  cases h with | table _ hvalues => exact hvalues _ (mem_of_find? hfind)

theorem isKeyed_empty : (Value.table []).IsKeyed := .table .nil nofun

/-! ## Entering -/

/-- The value that was entered stands under its name; under other names nothing changes. -/
theorem find?_enter (entries : List (String × Value)) (name other : String) (v : Value) :
    find? (enter entries name v) other = if name = other then some v else find? entries other := by
  induction entries with
  | nil => simp [enter, find?]
  | cons e rest ih =>
    obtain ⟨n, w⟩ := e
    rw [enter]
    by_cases hn : n = name
    · subst hn
      by_cases hother : n = other <;> simp [find?, hother]
    · rw [if_neg (by simpa using hn), find?, find?, ih]
      by_cases hother : n = other
      · subst hother
        simp [Ne.symm hn]
      · simp [hother]

theorem enter_of_notMem (v : Value) (h : name ∉ entries.map (·.1)) :
    enter entries name v = entries ++ [(name, v)] := by
  induction entries with
  | nil => rfl
  | cons e rest ih =>
    rw [List.map_cons, List.mem_cons, not_or] at h
    rw [enter, if_neg (by simpa using Ne.symm h.1), ih h.2, List.cons_append]

/-- Entering under a name that is there changes the value alone. -/
theorem names_enter (v : Value) (h : name ∈ entries.map (·.1)) :
    (enter entries name v).map (·.1) = entries.map (·.1) := by
  induction entries with
  | nil => cases h
  | cons e rest ih =>
    rw [enter]
    split
    · rfl
    · next hother =>
      have hrest : name ∈ rest.map (·.1) :=
        (List.mem_cons.mp h).resolve_left fun hname => hother (beq_iff_eq.mpr hname.symm)
      rw [List.map_cons, List.map_cons, ih hrest]

theorem nodup_enter (v : Value) (h : (entries.map (·.1)).Nodup) :
    ((enter entries name v).map (·.1)).Nodup := by
  by_cases hmem : name ∈ entries.map (·.1)
  · rwa [names_enter v hmem]
  · rw [enter_of_notMem v hmem, List.map_append]
    exact List.Nodup.append h (List.nodup_singleton _) (by simpa using hmem)

theorem mem_enter {e : String × Value} (h : e ∈ enter entries name v) : e ∈ entries ∨ e.2 = v := by
  induction entries with
  | nil => exact .inr (congrArg Prod.snd (List.mem_singleton.mp h))
  | cons first rest ih =>
    rw [enter] at h
    split at h
    · rcases List.mem_cons.mp h with rfl | hrest
      · exact .inr rfl
      · exact .inl (List.mem_cons_of_mem _ hrest)
    · rcases List.mem_cons.mp h with rfl | hrest
      · exact .inl List.mem_cons_self
      · exact (ih hrest).imp_left (List.mem_cons_of_mem _)

theorem IsKeyed.enter (h : (Value.table entries).IsKeyed) (name : String) (hv : v.IsKeyed) :
    (Value.table (Value.enter entries name v)).IsKeyed := by
  cases h with | table hnames hvalues =>
  refine .table (nodup_enter v hnames) fun e he => ?_
  rcases mem_enter he with hold | rfl
  · exact hvalues e hold
  · exact hv

end Value
end SourceAudit
