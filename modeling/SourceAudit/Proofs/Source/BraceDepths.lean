import Mathlib.Data.Finset.Lattice.Fold
import Mathlib.Data.List.MinMax
import Mathlib.Order.Interval.Finset.Nat
import Mathlib.Order.Lattice.Nat
import SourceAudit.Proofs.Context.BraceLevel

/-!
  The depths of lines as a formula over the whole text.

  The depth of a text between braces is counted character by character and never
  falls below zero. What is proved of it, for any lines:
    1. `heightAt_succ`, `depthWithin_succ` — how far a place lies above the lowest
       level up to it changes by the same step as the count.
    2. `foldl_braceStep`, `braceLine_eq`, `behind_eq` — so does the count over a
       piece of a text, over a line, and over the lines before it.
    3. `OpensBraces.braceLevel_eq`, `exists_opensBraces` — in a text that closes no
       brace too many, the level is the number of braces that are open, one within
       the other.
    4. `after_le_peak` — a depth other than that before the lines was reached behind
       an opening brace.
    5. `braces_eq_heights` — the depths of lines are those heights, their peaks the
       greatest heights just behind an opening brace.
-/
namespace SourceAudit

/-! ## Heights -/

/-- The braces that the first characters of a text open less those that they close. -/
def levelAt (t : Text) (p : Nat) : Int := braceLevel (t.take p)

/-- The lowest level up to a place, that before the first character included. -/
def lowestAt (t : Text) (p : Nat) : Int :=
  (Finset.range (p + 1)).inf' ⟨0, Finset.mem_range.mpr p.succ_pos⟩ (levelAt t)

/-- How far a place lies above the lowest level up to it. -/
def heightAt (t : Text) (p : Nat) : Int := levelAt t p - lowestAt t p

/-- The places of the opening braces of a text from one place up to another. -/
def opensWithin (t : Text) (p q : Nat) : Finset Nat :=
  (Finset.Ico p q).filter fun k => t[k]? = some '\x7b'

/-- The height at the end of a piece of a text, and the greatest height just behind one of its
opening braces. -/
def depthWithin (t : Text) (p q : Nat) : Depth where
  after := (heightAt t q).toNat
  peak := (opensWithin t p q).sup fun k => (heightAt t (k + 1)).toNat

theorem levelAt_succ {t : Text} {p : Nat} {c : Char} (h : t[p]? = some c) :
    levelAt t (p + 1) = levelAt t p + braceLevel [c] := by
  rw [levelAt, List.take_add_one, h, Option.toList_some, braceLevel_append, levelAt]

theorem lowestAt_le (t : Text) {p q : Nat} (h : q ≤ p) : lowestAt t p ≤ levelAt t q :=
  Finset.inf'_le _ (Finset.mem_range.mpr (Nat.lt_succ_of_le h))

theorem lowestAt_succ (t : Text) (p : Nat) :
    lowestAt t (p + 1) = min (levelAt t (p + 1)) (lowestAt t p) := by
  have hrange : Finset.range (p + 1 + 1) = insert (p + 1) (Finset.range (p + 1)) :=
    Finset.range_add_one
  simp only [lowestAt, hrange]
  exact Finset.inf'_insert _ _

theorem heightAt_nonneg (t : Text) (p : Nat) : 0 ≤ heightAt t p := by
  have hle := lowestAt_le t (Nat.le_refl p)
  rw [heightAt]
  omega

/-- One character changes the height by its own level, unless that would be below zero. -/
theorem heightAt_succ {t : Text} {p : Nat} {c : Char} (h : t[p]? = some c) :
    heightAt t (p + 1) = max 0 (heightAt t p + braceLevel [c]) := by
  rw [heightAt, heightAt, lowestAt_succ, levelAt_succ h]
  omega

theorem opensWithin_self (t : Text) (p : Nat) : opensWithin t p p = ∅ := by
  rw [opensWithin, Finset.Ico_self, Finset.filter_empty]

theorem opensWithin_succ {t : Text} {p q : Nat} (h : p ≤ q) :
    opensWithin t p (q + 1) =
      if t[q]? = some '\x7b' then insert q (opensWithin t p q) else opensWithin t p q := by
  rw [opensWithin, Nat.Ico_succ_right_eq_insert_Ico h, Finset.filter_insert]
  rfl

theorem depthWithin_self (t : Text) (p : Nat) :
    depthWithin t p p = ⟨(heightAt t p).toNat, 0⟩ := by
  rw [depthWithin, opensWithin_self, Finset.sup_empty]
  rfl

/-! ## The count of braces -/

namespace Depth

/-- The count takes the same step as the height. -/
theorem depthWithin_succ {t : Text} {p q : Nat} {c : Char} (hpq : p ≤ q) (h : t[q]? = some c) :
    depthWithin t p (q + 1) = braceStep (depthWithin t p q) c := by
  have hheight := heightAt_succ h
  have hbefore := heightAt_nonneg t q
  by_cases hopen : c = '\x7b'
  · -- the place behind an opening brace may be the new peak
    subst hopen
    have hone := braceLevel_open
    have hnext : (heightAt t (q + 1)).toNat = (heightAt t q).toNat + 1 := by omega
    rw [depthWithin, opensWithin_succ hpq, if_pos h, Finset.sup_insert, hnext, sup_comm]
    rfl
  · have hsame : opensWithin t p (q + 1) = opensWithin t p q := by
      rw [opensWithin_succ hpq, if_neg (by simpa [h] using hopen)]
    by_cases hclose : c = '\x7d'
    · subst hclose
      have hone := braceLevel_close
      have hnext : (heightAt t (q + 1)).toNat = (heightAt t q).toNat - 1 := by omega
      rw [depthWithin, hsame, hnext]
      rfl
    · have hzero : braceLevel [c] = 0 := by simp [braceLevel, hopen, hclose]
      have hnext : (heightAt t (q + 1)).toNat = (heightAt t q).toNat := by omega
      rw [depthWithin, hsame, hnext, braceStep, if_neg (by simpa using hopen),
        if_neg (by simpa using hclose)]
      rfl

/-- The count over a piece of a text. -/
theorem foldl_braceStep {t line : Text} {p q : Nat} (hpq : p ≤ q) (h : line <+: t.drop q) :
    line.foldl braceStep (depthWithin t p q) = depthWithin t p (q + line.length) := by
  induction line generalizing q with
  | nil => rfl
  | cons c line ih =>
    obtain ⟨rest, hrest⟩ := h
    have hc : t[q]? = some c := by
      rw [← Nat.add_zero q, ← List.getElem?_drop, ← hrest]
      rfl
    have hline : line <+: t.drop (q + 1) := by
      rw [← List.drop_drop, ← hrest]
      exact List.prefix_append _ _
    rw [List.foldl_cons, ← depthWithin_succ hpq hc, ih (Nat.le_succ_of_le hpq) hline,
      List.length_cons]
    congr 1
    omega

theorem braceLine_eq {t line : Text} {p : Nat} (h : line <+: t.drop p) :
    braceLine (heightAt t p).toNat line = depthWithin t p (p + line.length) := by
  rw [braceLine, ← depthWithin_self, foldl_braceStep (Nat.le_refl p) h]

/-- The depth behind lines that stand in a text from a place on. -/
theorem behind_eq {t : Text} {p : Nat} (ls : List Text) (h : ls.flatten <+: t.drop p) :
    behind (heightAt t p).toNat ls = (heightAt t (p + ls.flatten.length)).toNat := by
  induction ls generalizing p with
  | nil => rfl
  | cons line ls ih =>
    rw [List.flatten_cons] at h
    have hline : line <+: t.drop p := (List.prefix_append line _).trans h
    have hrest : ls.flatten <+: t.drop (p + line.length) := by
      obtain ⟨rest, hrest⟩ := h
      rw [← List.drop_drop, ← hrest, List.append_assoc, List.drop_left]
      exact List.prefix_append _ _
    have hbehind : behind (heightAt t p).toNat (line :: ls) =
        behind (braceLine (heightAt t p).toNat line).after ls := rfl
    rw [hbehind, braceLine_eq hline, depthWithin, ih hrest, List.flatten_cons, List.length_append,
      Nat.add_assoc]

/-- A depth is at most that before the lines or one of their peaks. -/
theorem after_le_braceLine (before : Nat) (line : Text) :
    (braceLine before line).after ≤ max before (braceLine before line).peak := by
  have hrun : ∀ d : Depth, d.after ≤ max before d.peak →
      (line.foldl braceStep d).after ≤ max before (line.foldl braceStep d).peak := by
    induction line with
    | nil => exact fun d h => h
    | cons c line ih =>
      intro d h
      refine ih (braceStep d c) ?_
      unfold braceStep
      split
      · dsimp only
        omega
      · split
        · dsimp only
          omega
        · exact h
  exact hrun ⟨before, 0⟩ (Nat.le_max_left _ _)

theorem after_le_bracesFrom {before : Nat} {ls : List Text} {d : Depth}
    (h : d ∈ bracesFrom before ls) :
    d.after ≤ max before (((bracesFrom before ls).map (·.peak)).foldr max 0) := by
  induction ls generalizing before with
  | nil => cases h
  | cons line ls ih =>
    have hline := after_le_braceLine before line
    rw [bracesFrom, List.map_cons, List.foldr_cons]
    rcases List.mem_cons.mp h with rfl | h
    · omega
    · have hrest := ih h
      omega

end Depth

/-! ## Braces within braces -/

/-- Texts in which a number of braces are open, each one within the one before it, and all others
are balanced. -/
inductive OpensBraces : Nat → Text → Prop where
  | balanced {t : Text} : BalancedBraces t → OpensBraces 0 t
  | opened {n : Nat} {t u : Text} :
      OpensBraces n t → BalancedBraces u → OpensBraces (n + 1) (t ++ '\x7b' :: u)

namespace OpensBraces

variable {n : Nat} {t u : Text}

theorem braceLevel_eq (h : OpensBraces n t) : braceLevel t = n := by
  induction h with
  | balanced ht => exact ht.closed
  | opened _ hu ih =>
    rw [braceLevel_append, braceLevel_cons, braceLevel_open, hu.closed, ih]
    omega

/-- A balanced text goes on within the innermost open brace. -/
theorem append (h : OpensBraces n t) (hu : BalancedBraces u) : OpensBraces n (t ++ u) := by
  cases h with
  | balanced ht => exact .balanced (ht.append hu)
  | opened hbefore hin =>
    rw [List.append_assoc, List.cons_append]
    exact .opened hbefore (hin.append hu)

/-- A closing brace closes the innermost open one. -/
theorem close (h : OpensBraces (n + 1) t) : OpensBraces n (t ++ ['\x7d']) := by
  cases h with
  | opened hbefore hin =>
    rw [List.append_assoc]
    exact hbefore.append hin.enclose

end OpensBraces

/-- Where no brace too many is closed, every brace that is not closed is open. -/
theorem exists_opensBraces {t : Text} (h : ∀ u, u <+: t → 0 ≤ braceLevel u) :
    ∃ n, OpensBraces n t := by
  induction t using List.reverseRecOn with
  | nil => exact ⟨0, .balanced ⟨h, rfl⟩⟩
  | append_singleton t c ih =>
    obtain ⟨n, hn⟩ := ih fun u hu => h u (hu.trans (List.prefix_append t [c]))
    by_cases hopen : c = '\x7b'
    · subst hopen
      exact ⟨n + 1, .opened hn (.of_not_mem List.not_mem_nil List.not_mem_nil)⟩
    · by_cases hclose : c = '\x7d'
      · -- some brace is open, for the closing one does not go below zero
        subst hclose
        have hlevel := h _ (List.prefix_refl _)
        rw [braceLevel_append, hn.braceLevel_eq, braceLevel_close] at hlevel
        obtain ⟨m, rfl⟩ : ∃ m, n = m + 1 := ⟨n - 1, by omega⟩
        exact ⟨m, hn.close⟩
      · exact ⟨n, hn.append (.of_not_mem (by simpa using Ne.symm hopen)
          (by simpa using Ne.symm hclose))⟩

/-- Among the prefixes of a balanced text, those with some braces open have that level. -/
theorem opensBraces_take_iff {t : Text} (h : BalancedBraces t) (p n : Nat) :
    OpensBraces n (t.take p) ↔ levelAt t p = n := by
  obtain ⟨m, hm⟩ := exists_opensBraces fun u hu => h.sane u (hu.trans (List.take_prefix p t))
  constructor
  · exact fun hn => hn.braceLevel_eq
  · intro hlevel
    rw [levelAt, hm.braceLevel_eq] at hlevel
    obtain rfl : m = n := by omega
    exact hm

/-- No level of a balanced text is below that of its start. -/
theorem heightAt_of_balanced {t : Text} (h : BalancedBraces t) (p : Nat) :
    heightAt t p = levelAt t p := by
  have hlowest : lowestAt t p = 0 :=
    Int.le_antisymm (lowestAt_le t (Nat.zero_le p))
      (Finset.le_inf' _ _ fun q _ => h.sane _ (List.take_prefix q t))
  rw [heightAt, hlowest, Int.sub_zero]

/-! ## The depths of lines -/

/-- The place at which a line stands in the lines put one behind the other. -/
def lineStart (ls : List Text) (i : Nat) : Nat := (ls.take i).flatten.length

/-- The depth of a line is the height at its end, and its peak the greatest height behind one of
its opening braces. -/
theorem Depth.braces_getElem? (ls : List Text) (i : Nat) :
    (braces ls)[i]? =
      ls[i]?.map fun _ => depthWithin ls.flatten (lineStart ls i) (lineStart ls (i + 1)) := by
  rw [braces, bracesFrom_getElem?]
  cases hline : ls[i]? with
  | none => rfl
  | some line =>
    have hflat : ls.flatten = (ls.take i).flatten ++ (line ++ (ls.drop (i + 1)).flatten) := by
      conv_lhs => rw [← List.take_append_drop i ls, List.drop_eq_getElem?_toList_append, hline]
      rw [List.flatten_append, Option.toList_some, List.singleton_append, List.flatten_cons]
    have hbehind : behind 0 (ls.take i) = (heightAt ls.flatten (lineStart ls i)).toNat := by
      have hrun := behind_eq (t := ls.flatten) (p := 0) (ls.take i)
        (hflat ▸ List.prefix_append _ _)
      rwa [Nat.zero_add] at hrun
    have hrest : line <+: ls.flatten.drop (lineStart ls i) := by
      rw [hflat, lineStart, List.drop_left]
      exact List.prefix_append _ _
    have hend : lineStart ls (i + 1) = lineStart ls i + line.length := by
      rw [lineStart, List.take_add_one, hline, Option.toList_some, List.flatten_append,
        List.length_append, List.flatten_singleton, lineStart]
    rw [Option.map_some, Option.map_some, hbehind, braceLine_eq hrest, hend]

/-- The depths of any lines with braces, balanced or not, from the text of all lines. The depth
behind a line is the level at its end less the lowest level up to there, which is never below
zero; its peak is the greatest such height just behind one of its opening braces. If the braces
are balanced, the height of a place is the number of braces that are open there, each one within
the one before it. No depth is greater than the greatest peak. -/
theorem braces_eq_heights (ls : List Text) :
    Depth.braces ls = (List.range ls.length).map (fun i =>
        ⟨(heightAt ls.flatten (lineStart ls (i + 1))).toNat,
          (opensWithin ls.flatten (lineStart ls i) (lineStart ls (i + 1))).sup fun k =>
            (heightAt ls.flatten (k + 1)).toNat⟩) ∧
      (∀ p, 0 ≤ heightAt ls.flatten p) ∧
      (BalancedBraces ls.flatten →
        ∀ p n, heightAt ls.flatten p = (n : Nat) ↔ OpensBraces n (ls.flatten.take p)) ∧
      ((Depth.braces ls).map (·.after)).foldr max 0 ≤
        ((Depth.braces ls).map (·.peak)).foldr max 0 := by
  refine ⟨List.ext_getElem? fun i => ?_, heightAt_nonneg _, fun h p n => ?_, ?_⟩
  · rw [Depth.braces_getElem?, List.getElem?_map]
    by_cases hi : i < ls.length
    · rw [List.getElem?_eq_getElem hi, List.getElem?_range hi]
      rfl
    · rw [List.getElem?_eq_none (Nat.le_of_not_lt hi),
        List.getElem?_eq_none (by simpa using Nat.le_of_not_lt hi)]
      rfl
  · rw [heightAt_of_balanced h, opensBraces_take_iff h]
  · refine List.max_le_of_forall_le _ _ fun n hn => ?_
    obtain ⟨d, hd, rfl⟩ := List.mem_map.mp hn
    exact (Depth.after_le_bracesFrom hd).trans_eq (Nat.zero_max _)

/-- The lines of two blocks side by side, the second of them closed on a line of its own. -/
def twoBlocks : List Text := ["a\x7b".toList, "\x7d\x7bb".toList, "\x7d".toList]

/-- Within the second of two blocks one brace is open. -/
theorem opensBraces_twoBlocks :
    BalancedBraces twoBlocks.flatten ∧ heightAt twoBlocks.flatten 5 = (1 : Nat) ∧
      OpensBraces 1 (twoBlocks.flatten.take 5) :=
  ⟨by decide, by decide, ((braces_eq_heights twoBlocks).2.2.1 (by decide) 5 1).mp (by decide)⟩

/-- Closing braces too many count for nothing: the block behind them has the depth one. -/
example : Depth.braces ["\x7d\x7d".toList, "\x7b".toList] = [⟨0, 0⟩, ⟨1, 1⟩] := by decide

end SourceAudit
