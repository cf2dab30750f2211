import Mathlib.Algebra.Order.Ring.Rat
import Mathlib.Data.List.Basic
import SourceAudit.Number.Quantity
import SourceAudit.Proofs.Number.BinaryFraction

/-!
  The order of rationals and of quantities.

  Rounding keeps the order of rationals. A quantity that is no number is on neither side of
  anything. What is proved:
    1. `nearest_mono`, `toScore_mono` — so does rounding to whole numbers, and
       `toScore_mem` — a score lies within 0 and 100.
    2. `toBinary_mono` — so does rounding to binary fractions. Where two rationals have
       different grains a power of two lies between them, a multiple of both
       (`exists_multiple_between`), and rounding does not go beyond multiples of a grain.
    3. `toBinary_toBinary` — what is rounded is not changed by rounding it again.
    4. `le_iff_of_lt_eq_false`, `lt_iff_of_le_eq_false` — a comparison of quantities holds if
       the opposite one fails and both sides are numbers.
    5. `lt_finite_of_le`, `finite_lt_of_le` — what is beyond a limit stays there when it
       grows, and what is below one when it shrinks.
    6. `passedBy_foldr_max_iff` — the greatest of some counts lies beyond a limit exactly if
       zero or one of them does.
    7. `lt_finite_iff_iff` — two values are on the same side of a limit exactly if it does
       not lie between them.
-/
namespace SourceAudit
namespace Number

variable {m p q : ℚ}

/-! ## Whole numbers -/

theorem floor_le_nearest (q : ℚ) : q.floor ≤ nearest q := by
  unfold nearest
  dsimp only
  split_ifs <;> omega

theorem nearest_le_floor_add_one (q : ℚ) : nearest q ≤ q.floor + 1 := by
  unfold nearest
  dsimp only
  split_ifs <;> omega

theorem nearest_mono (h : p ≤ q) : nearest p ≤ nearest q := by
  rcases (Rat.floor_monotone h).lt_or_eq with hless | hsame
  · calc nearest p ≤ p.floor + 1 := nearest_le_floor_add_one p
      _ ≤ q.floor := hless
      _ ≤ nearest q := floor_le_nearest q
  · -- Both lie between the same whole numbers, `p` not above `q`.
    unfold nearest
    dsimp only
    rw [hsame]
    split_ifs <;> first | omega | linarith

theorem nearest_intCast (n : ℤ) : nearest n = n := nearest_eq (by norm_num)

theorem nearest_le {n : ℤ} (h : q ≤ n) : nearest q ≤ n := (nearest_mono h).trans_eq (nearest_intCast n)

theorem le_nearest {n : ℤ} (h : (n : ℚ) ≤ q) : n ≤ nearest q :=
  (nearest_intCast n).symm.trans_le (nearest_mono h)

theorem atLeastZero_mono (h : p ≤ q) : atLeastZero p ≤ atLeastZero q := by
  unfold atLeastZero
  split_ifs <;> linarith

theorem atLeastZero_nonneg (q : ℚ) : 0 ≤ atLeastZero q := by
  unfold atLeastZero
  split_ifs <;> linarith

theorem toScore_mono (h : p ≤ q) : toScore p ≤ toScore q := by
  have hzero := atLeastZero_mono h
  refine nearest_mono ?_
  split_ifs with hp hq hq
  · exact le_rfl
  · exact absurd (hp.trans_le h) hq
  · unfold atLeastZero
    split_ifs <;> linarith
  · exact hzero

/-- A score lies within 0 and 100. -/
theorem toScore_mem (q : ℚ) : 0 ≤ toScore q ∧ toScore q ≤ 100 := by
  constructor
  · refine le_nearest ?_
    split_ifs
    · norm_num
    · exact_mod_cast atLeastZero_nonneg q
  · refine nearest_le ?_
    unfold atLeastZero
    split_ifs <;> push_cast <;> linarith

/-! ## Multiples of grains -/

theorem IsMultiple.neg {g : ℚ} (h : IsMultiple g m) : IsMultiple g (-m) := by
  obtain ⟨k, rfl⟩ := h
  exact ⟨-k, by push_cast; ring⟩

theorem IsMultiple.of_abs {g : ℚ} (h : IsMultiple g |m|) : IsMultiple g m := by
  rcases abs_choice m with hm | hm
  · rwa [hm] at h
  · rw [hm] at h
    exact neg_neg m ▸ h.neg

theorem IsMultiple.trans {f g : ℚ} (hf : IsMultiple f g) (hg : IsMultiple g m) : IsMultiple f m := by
  obtain ⟨j, rfl⟩ := hf
  obtain ⟨k, rfl⟩ := hg
  exact ⟨k * j, by push_cast; ring⟩

/-- Rounding does not go above a multiple of the grain. -/
theorem toBinary_le (hq : q ≠ 0) (hm : IsMultiple (grain |q|) m) (h : q ≤ m) : toBinary q ≤ m := by
  obtain ⟨k, rfl⟩ := hm
  have hpos := grain_pos |q|
  rw [toBinary_of_ne hq]
  gcongr
  exact_mod_cast nearest_le ((div_le_iff₀ hpos).mpr h)

/-- Rounding does not go below a multiple of the grain. -/
theorem le_toBinary (hq : q ≠ 0) (hm : IsMultiple (grain |q|) m) (h : m ≤ q) : m ≤ toBinary q := by
  obtain ⟨k, rfl⟩ := hm
  have hpos := grain_pos |q|
  rw [toBinary_of_ne hq]
  gcongr
  exact_mod_cast le_nearest ((le_div_iff₀ hpos).mpr h)

theorem toBinary_zero : toBinary 0 = 0 := rfl

theorem toBinary_nonneg (h : 0 ≤ q) : 0 ≤ toBinary q := by
  rcases h.eq_or_lt with rfl | hpos
  · exact toBinary_zero.ge
  · exact le_toBinary hpos.ne' ⟨0, by simp⟩ h

theorem toBinary_nonpos (h : q ≤ 0) : toBinary q ≤ 0 := by
  rcases h.eq_or_lt with rfl | hneg
  · exact toBinary_zero.le
  · exact toBinary_le hneg.ne ⟨0, by simp⟩ h

/-! ## Binary fractions -/

theorem binaryExponent_mono (hp : 0 < p) (h : p ≤ q) : binaryExponent p ≤ binaryExponent q := by
  have hpower : (2 : ℚ) ^ binaryExponent p < 2 ^ (binaryExponent q + 1) :=
    ((binaryExponent_spec hp).1.trans h).trans_lt (binaryExponent_spec (hp.trans_le h)).2
  have := (zpow_lt_zpow_iff_right₀ (by norm_num)).mp hpower
  omega

/-- Between rationals of different grains there is a multiple of both: the greatest power of two
that is not above the greater one. -/
theorem exists_multiple_between (hp : 0 < p) (h : p ≤ q) (hgrains : grain p ≠ grain q) :
    ∃ m, IsMultiple (grain p) m ∧ IsMultiple (grain q) m ∧ p ≤ m ∧ m ≤ q := by
  have hexponents := binaryExponent_mono hp h
  have hcoarse : -1074 ≤ binaryExponent q := by
    by_contra hfine
    exact hgrains (by rw [grain, grain, max_eq_right (by omega), max_eq_right (by omega)])
  have hless : binaryExponent p < binaryExponent q := by
    refine hexponents.lt_of_ne fun hsame => hgrains ?_
    rw [grain, grain, hsame]
  refine ⟨2 ^ binaryExponent q, isMultiple_grain_zpow (by omega) hcoarse,
    isMultiple_grain_zpow (by omega) hcoarse, ?_, (binaryExponent_spec (hp.trans_le h)).1⟩
  calc p ≤ 2 ^ (binaryExponent p + 1) := (binaryExponent_spec hp).2.le
    _ ≤ 2 ^ binaryExponent q := zpow_le_zpow_right₀ (by norm_num) (by omega)

/-- Rationals of one grain are rounded in order. -/
theorem toBinary_le_toBinary (hp : p ≠ 0) (hq : q ≠ 0) (h : p ≤ q) (hgrains : grain |p| = grain |q|) :
    toBinary p ≤ toBinary q := by
  have hpos := grain_pos |q|
  rw [toBinary_of_ne hp, toBinary_of_ne hq, hgrains]
  gcongr
  exact nearest_mono (by gcongr)

/-- Rounding to binary fractions keeps the order. -/
theorem toBinary_mono : Monotone toBinary := by
  intro p q h
  rcases le_or_gt p 0 with hp | hp
  · rcases le_or_gt 0 q with hq | hq
    · exact (toBinary_nonpos hp).trans (toBinary_nonneg hq)
    · -- Both are negative: what lies between their sizes lies between them with its sign changed.
      have hp0 : p < 0 := h.trans_lt hq
      by_cases hgrains : grain |p| = grain |q|
      · exact toBinary_le_toBinary hp0.ne hq.ne h hgrains
      · obtain ⟨m, hmq, hmp, hqm, hle⟩ := exists_multiple_between (abs_pos.mpr hq.ne)
          (abs_le_abs_of_nonpos hq.le h) (Ne.symm hgrains)
        rw [abs_of_neg hq] at hqm
        rw [abs_of_neg hp0] at hle
        exact (toBinary_le hp0.ne hmp.neg (by linarith)).trans
          (le_toBinary hq.ne hmq.neg (by linarith))
  · have hq : 0 < q := hp.trans_le h
    by_cases hgrains : grain |p| = grain |q|
    · exact toBinary_le_toBinary hp.ne' hq.ne' h hgrains
    · rw [abs_of_pos hp, abs_of_pos hq] at hgrains
      obtain ⟨m, hmp, hmq, hpm, hle⟩ := exists_multiple_between hp h hgrains
      exact (toBinary_le hp.ne' (by rwa [abs_of_pos hp]) hpm).trans
        (le_toBinary hq.ne' (by rwa [abs_of_pos hq]) hle)

/-- The size of what is rounded does not go beyond a multiple of the grain. -/
theorem abs_toBinary_le (hq : q ≠ 0) (hm : IsMultiple (grain |q|) m) (h : |q| ≤ m) :
    |toBinary q| ≤ m :=
  abs_le.mpr ⟨le_toBinary hq hm.neg (abs_le.mp h).1, toBinary_le hq hm (abs_le.mp h).2⟩

/-- What is rounded is a binary fraction: rounding it again changes nothing. -/
theorem toBinary_toBinary (q : ℚ) : toBinary (toBinary q) = toBinary q := by
  rcases eq_or_ne q 0 with rfl | hq
  · rfl
  rcases eq_or_ne (toBinary q) 0 with hzero | hne
  · rw [hzero, toBinary_zero]
  -- The power of two above `q` bounds what `q` is rounded to.
  set b := max (binaryExponent |q| + 1) (-1074) with hb
  have hpower : |q| ≤ 2 ^ b :=
    (binaryExponent_spec (abs_pos.mpr hq)).2.le.trans (zpow_le_zpow_right₀ (by norm_num) (le_max_left _ _))
  have hbound : |toBinary q| ≤ 2 ^ b :=
    abs_toBinary_le hq (isMultiple_grain_zpow (by omega) (by omega)) hpower
  have hexponent : binaryExponent |toBinary q| ≤ b :=
    (zpow_le_zpow_iff_right₀ (by norm_num)).mp
      ((binaryExponent_spec (abs_pos.mpr hne)).1.trans hbound)
  rw [toBinary_eq_self_iff hne]
  rcases hexponent.eq_or_lt with htop | hbelow
  · have hsize : |toBinary q| = 2 ^ b :=
      hbound.antisymm (htop ▸ (binaryExponent_spec (abs_pos.mpr hne)).1)
    have hmultiple : IsMultiple (grain |toBinary q|) (2 ^ b) :=
      isMultiple_grain_zpow (by omega) (by omega)
    exact .of_abs (by rwa [hsize] at hmultiple ⊢)
  · -- Below that power the grain is no coarser than the grain of `q`.
    have hfiner : IsMultiple (grain |toBinary q|) (grain |q|) := by
      rw [grain_eq_zpow, grain_eq_zpow]
      exact isMultiple_zpow (by omega)
    exact hfiner.trans ⟨_, toBinary_of_ne hq⟩

end Number

/-! ## Quantities -/

namespace Quantity

variable {a b : Quantity}

/-- Of two quantities of which the second is not below the first, the first is at most the second
if both are numbers. -/
theorem le_iff_of_lt_eq_false (h : b.lt a = false) :
    a.le b = true ↔ a ≠ .undefined ∧ b ≠ .undefined := by
  cases a <;> cases b <;> simp [le, h]

/-- So it is below the second if the second is not at most the first. -/
theorem lt_iff_of_le_eq_false (h : b.le a = false) :
    a.lt b = true ↔ a ≠ .undefined ∧ b ≠ .undefined := by
  cases a <;> cases b <;> simp_all [le] <;> simp [lt]

theorem ne_undefined_of_le (h : a.le b = true) : a ≠ .undefined ∧ b ≠ .undefined := by
  cases a <;> cases b <;> simp_all [le]

theorem ne_undefined_of_lt (h : a.lt b = true) : a ≠ .undefined ∧ b ≠ .undefined := by
  cases a <;> cases b <;> simp_all [lt]

/-- Of two numbers the first is at most the second, or the second is below it. -/
theorem le_iff_not_lt (ha : a ≠ .undefined) (hb : b ≠ .undefined) :
    a.le b = true ↔ ¬ b.lt a = true := by
  cases a <;> cases b <;> simp_all [le]

/-! ## Limits -/

variable {limit : Quantity} {p q : Rat} {m n : Nat}

theorem lt_finite_of_le (h : limit.lt (finite p) = true) (hle : p ≤ q) :
    limit.lt (finite q) = true := by
  cases limit with
  | finite r =>
    simp only [lt, decide_eq_true_eq] at h ⊢
    exact h.trans_le hle
  | negativeZero =>
    simp only [lt, decide_eq_true_eq] at h ⊢
    exact h.trans_le hle
  | infinite negative => exact h
  | undefined => exact h

theorem finite_lt_of_le (h : (finite q).lt limit = true) (hle : p ≤ q) :
    (finite p).lt limit = true := by
  cases limit with
  | finite r =>
    simp only [lt, decide_eq_true_eq] at h ⊢
    exact hle.trans_lt h
  | negativeZero =>
    simp only [lt, decide_eq_true_eq] at h ⊢
    exact hle.trans_lt h
  | infinite negative => exact h
  | undefined => exact h

/-- Whether a count lies beyond a limit. -/
def PassedBy (limit : Quantity) (n : Nat) : Prop := limit.lt (.ofInt n) = true

instance (limit : Quantity) (n : Nat) : Decidable (limit.PassedBy n) :=
  inferInstanceAs (Decidable (_ = true))

theorem PassedBy.mono (h : limit.PassedBy m) (hle : m ≤ n) : limit.PassedBy n :=
  lt_finite_of_le h (by exact_mod_cast hle)

theorem passedBy_max_iff : limit.PassedBy (max m n) ↔ limit.PassedBy m ∨ limit.PassedBy n := by
  constructor
  · rcases Nat.le_total m n with hle | hle
    · rw [Nat.max_eq_right hle]
      exact .inr
    · rw [Nat.max_eq_left hle]
      exact .inl
  · rintro (h | h)
    · exact h.mono (Nat.le_max_left m n)
    · exact h.mono (Nat.le_max_right m n)

theorem passedBy_foldr_max_iff {ns : List Nat} :
    limit.PassedBy (ns.foldr max 0) ↔ limit.PassedBy 0 ∨ ∃ n ∈ ns, limit.PassedBy n := by
  induction ns with
  | nil => simp
  | cons n ns ih =>
    rw [List.foldr_cons, passedBy_max_iff, ih, List.exists_mem_cons_iff, or_left_comm]

/-- Whether the first of two values is below a limit and the second is not. -/
def Between (limit : Quantity) (p q : Rat) : Prop :=
  (finite p).lt limit = true ∧ limit.le (finite q) = true

/-- Two values are on the same side of a limit exactly if it does not lie between them, either way
round. -/
theorem lt_finite_iff_iff (hlimit : limit ≠ undefined) :
    ((finite p).lt limit = true ↔ (finite q).lt limit = true) ↔
      ¬ limit.Between p q ∧ ¬ limit.Between q p := by
  have hp : limit.le (finite p) = true ↔ ¬ (finite p).lt limit = true :=
    le_iff_not_lt hlimit (by simp)
  have hq : limit.le (finite q) = true ↔ ¬ (finite q).lt limit = true :=
    le_iff_not_lt hlimit (by simp)
  rw [Between, Between, hp, hq, not_and_not_right, not_and_not_right]
  exact iff_def

end Quantity
end SourceAudit
