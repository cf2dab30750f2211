import Mathlib.Algebra.Order.Field.Power
import Mathlib.Data.Rat.Floor
import Mathlib.Tactic.FieldSimp
import Mathlib.Tactic.Linarith
import Mathlib.Tactic.NormNum
import Mathlib.Tactic.Positivity
import SourceAudit.Number.Shortest

/-!
  Binary fractions and how near to one another they lie.

  What is proved:
    1. `binaryExponent_spec`, `decimalExponent_spec` — a positive rational lies between
       the power with its exponent and the next one.
    2. `toBinary_of_near` — a binary fraction is what every rational rounds to that is
       so near to it as a decimal of seventeen digits.

  Neighbouring binary fractions are a `grain` apart. It gets coarser from one power of
  two to the next, so the rational may have a finer grain than the fraction it is near
  to: then that fraction is a power of two.
-/
namespace SourceAudit
namespace Number

/-! ## Powers and exponents -/

theorem twoTo_eq_zpow (e : Int) : twoTo e = (2 : ℚ) ^ e := by
  cases e with
  | ofNat n => simp [twoTo]
  | negSucc n => simp [twoTo, zpow_negSucc]

theorem tenTo_eq_zpow (e : Int) : tenTo e = (10 : ℚ) ^ e := by
  cases e with
  | ofNat n => simp [tenTo]
  | negSucc n => simp [tenTo, zpow_negSucc]

theorem zpow_mul_pow {b : ℚ} (hb : b ≠ 0) {k : ℤ} {m l : ℕ} (h : k + m = l) :
    b ^ k * b ^ m = b ^ l := by
  rw [← zpow_natCast, ← zpow_natCast, ← zpow_add₀ hb, h]

/-- A positive rational lies between the powers of a base around the difference of the exponents
of its numerator and denominator, which may be one too much. -/
theorem exponent_spec (base : ℕ) {q : ℚ} {l m : ℕ} (hbase : 1 < base) (hq : 0 < q)
    (hnum : base ^ l ≤ q.num.natAbs ∧ q.num.natAbs < base ^ (l + 1))
    (hden : base ^ m ≤ q.den ∧ q.den < base ^ (m + 1)) :
    let guess : ℤ := (l : ℤ) - m
    let e := if q < (base : ℚ) ^ guess then guess - 1 else guess
    (base : ℚ) ^ e ≤ q ∧ q < (base : ℚ) ^ (e + 1) := by
  intro guess e
  have hpos : (0 : ℚ) < base := by exact_mod_cast hbase.pos
  have hquotient : q = (q.num.natAbs : ℚ) / q.den := by
    rw [Nat.cast_natAbs, abs_of_pos (Rat.num_pos.mpr hq), Rat.num_div_den]
  have hdenpos : (0 : ℚ) < q.den := by exact_mod_cast q.den_pos
  have hlow : (base : ℚ) ^ l ≤ q.num.natAbs := by exact_mod_cast hnum.1
  have hhigh : (q.num.natAbs : ℚ) < (base : ℚ) ^ (l + 1) := by exact_mod_cast hnum.2
  have hfew : (base : ℚ) ^ m ≤ q.den := by exact_mod_cast hden.1
  have hmany : (q.den : ℚ) < (base : ℚ) ^ (m + 1) := by exact_mod_cast hden.2
  have habove : q < (base : ℚ) ^ (guess + 1) := by
    have hsum : (base : ℚ) ^ (guess + 1) * (base : ℚ) ^ m = (base : ℚ) ^ (l + 1) :=
      zpow_mul_pow hpos.ne' (by push_cast; ring)
    rw [hquotient, div_lt_iff₀ hdenpos]
    calc (q.num.natAbs : ℚ) < (base : ℚ) ^ (guess + 1) * (base : ℚ) ^ m := by rw [hsum]; exact hhigh
      _ ≤ (base : ℚ) ^ (guess + 1) * q.den := by gcongr
  have hbelow : (base : ℚ) ^ (guess - 1) ≤ q := by
    have hsum : (base : ℚ) ^ (guess - 1) * (base : ℚ) ^ (m + 1) = (base : ℚ) ^ l :=
      zpow_mul_pow hpos.ne' (by push_cast; ring)
    rw [hquotient, le_div_iff₀ hdenpos]
    calc (base : ℚ) ^ (guess - 1) * q.den ≤ (base : ℚ) ^ (guess - 1) * (base : ℚ) ^ (m + 1) := by
          gcongr
      _ ≤ q.num.natAbs := by rw [hsum]; exact hlow
  by_cases hguess : q < (base : ℚ) ^ guess
  · simp only [e, if_pos hguess, sub_add_cancel]
    exact ⟨hbelow, hguess⟩
  · simp only [e, if_neg hguess]
    exact ⟨not_lt.mp hguess, habove⟩

/-- A positive rational lies between the power of two with its exponent and the next one. -/
theorem binaryExponent_spec {q : ℚ} (hq : 0 < q) :
    (2 : ℚ) ^ binaryExponent q ≤ q ∧ q < (2 : ℚ) ^ (binaryExponent q + 1) := by
  have hnum : q.num.natAbs ≠ 0 := by simpa using hq.ne'
  have h := exponent_spec 2 (by norm_num) hq
    ⟨Nat.log2_self_le hnum, Nat.lt_log2_self⟩ ⟨Nat.log2_self_le q.den_nz, Nat.lt_log2_self⟩
  simpa only [binaryExponent, twoTo_eq_zpow, Nat.cast_ofNat] using h

/-- A number is written with one digit more than the exponent of the power of ten below it. -/
theorem length_toString_spec {n : ℕ} (hn : 0 < n) :
    10 ^ ((toString n).length - 1) ≤ n ∧ n < 10 ^ ((toString n).length - 1 + 1) := by
  have hlength : 0 < (toString n).length := Nat.length_repr_pos
  constructor
  · by_contra hless
    rcases Nat.eq_zero_or_pos ((toString n).length - 1) with hzero | hpos
    · rw [hzero] at hless
      omega
    · have hshort := (Nat.length_repr_le_iff hpos).mpr (not_le.mp hless)
      change (toString n).length ≤ _ at hshort
      omega
  · rw [Nat.sub_add_cancel hlength]
    exact (Nat.length_repr_le_iff hlength).mp le_rfl

/-- A positive rational lies between the power of ten with its exponent and the next one. -/
theorem decimalExponent_spec {q : ℚ} (hq : 0 < q) :
    (10 : ℚ) ^ decimalExponent q ≤ q ∧ q < (10 : ℚ) ^ (decimalExponent q + 1) := by
  have hnum : 0 < q.num.natAbs := by simpa [Int.natAbs_pos] using hq.ne'
  have h := exponent_spec 10 (by norm_num) hq (length_toString_spec hnum)
    (length_toString_spec q.den_pos)
  have hlengths : (((toString q.num.natAbs).length - 1 : ℕ) : ℤ) - ((toString q.den).length - 1 : ℕ)
      = ((toString q.num.natAbs).length : ℤ) - ((toString q.den).length : ℤ) := by
    have hone : 0 < (toString q.num.natAbs).length := Nat.length_repr_pos
    have htwo : 0 < (toString q.den).length := Nat.length_repr_pos
    omega
  rw [hlengths] at h
  simpa only [decimalExponent, tenTo_eq_zpow, Nat.cast_ofNat] using h

/-! ## Rounding -/

/-- The distance of neighbouring binary fractions around a positive rational. -/
def grain (q : Rat) : Rat := twoTo (max (binaryExponent q - 52) (-1074))

theorem grain_eq_zpow (q : ℚ) : grain q = (2 : ℚ) ^ max (binaryExponent q - 52) (-1074) :=
  twoTo_eq_zpow _

theorem grain_pos (q : ℚ) : 0 < grain q := by
  rw [grain_eq_zpow]
  positivity

theorem toBinary_of_ne {q : ℚ} (hq : q ≠ 0) :
    toBinary q = (nearest (q / grain |q|) : ℚ) * grain |q| := by
  have hsize : (if q < 0 then -q else q) = |q| := by
    split
    · exact (abs_of_neg ‹_›).symm
    · exact (abs_of_nonneg (not_lt.mp ‹_›)).symm
  simp only [toBinary, beq_iff_eq, hq, if_false, hsize, grain]

theorem toBinary_of_pos {q : ℚ} (hq : 0 < q) :
    toBinary q = (nearest (q / grain q) : ℚ) * grain q := by
  rw [toBinary_of_ne hq.ne', abs_of_pos hq]

/-- The nearest whole number is the one that is less than a half away. -/
theorem nearest_eq {q : ℚ} {n : ℤ} (h : |q - n| < 1 / 2) : nearest q = n := by
  obtain ⟨hbelow, habove⟩ := abs_sub_lt_iff.mp h
  have hlow : (q.floor : ℚ) ≤ q := Rat.floor_le q
  have hhigh : q < (q.floor : ℚ) + 1 := by exact_mod_cast Rat.lt_floor_add_one q
  have hcases : q.floor = n ∨ q.floor = n - 1 := by
    have hle : q.floor < n + 1 := by
      have : (q.floor : ℚ) < ((n + 1 : ℤ) : ℚ) := by push_cast; linarith
      exact_mod_cast this
    have hge : n - 1 ≤ q.floor := Rat.le_floor_iff.mpr (by push_cast; linarith)
    omega
  unfold nearest
  rcases hcases with hfloor | hfloor
  · simp only [hfloor]
    rw [if_pos (by linarith)]
  · simp only [hfloor]
    push_cast
    rw [if_neg (by linarith), if_pos (by linarith)]
    ring

/-! ## Multiples of a grain -/

/-- A whole multiple of a rational. -/
def IsMultiple (g q : ℚ) : Prop := ∃ k : ℤ, q = k * g

/-- Two multiples are equal if they are not a whole `g` apart. -/
theorem IsMultiple.eq_of_near {g p q : ℚ} (hg : 0 < g) (hp : IsMultiple g p) (hq : IsMultiple g q)
    (hle : p ≤ q) (h : q - p < g) : q = p := by
  obtain ⟨j, rfl⟩ := hp
  obtain ⟨k, rfl⟩ := hq
  have hjk : j ≤ k := by exact_mod_cast le_of_mul_le_mul_right hle hg
  have hkj : k < j + 1 := by
    have hless : (k : ℚ) < j + 1 := lt_of_mul_lt_mul_right (by linarith) hg.le
    exact_mod_cast hless
  rw [show k = j by omega]

/-- Powers of two are multiples of smaller ones. -/
theorem isMultiple_zpow {m n : ℤ} (h : m ≤ n) : IsMultiple ((2 : ℚ) ^ m) (2 ^ n) := by
  refine ⟨2 ^ (n - m).toNat, ?_⟩
  push_cast
  rw [← zpow_natCast, ← zpow_add₀ (by norm_num), Int.toNat_of_nonneg (by omega), sub_add_cancel]

/-- Powers of two are multiples of the grain of what is not beyond them by more than a power. -/
theorem isMultiple_grain_zpow {q : ℚ} {b : ℤ} (hq : binaryExponent q ≤ b + 52) (hb : -1074 ≤ b) :
    IsMultiple (grain q) (2 ^ b) := by
  rw [grain_eq_zpow]
  exact isMultiple_zpow (max_le (by omega) hb)

/-- What lies within half a grain around a multiple of the grain is rounded to that. -/
theorem toBinary_eq {x q : ℚ} (hx : 0 < x) (hmultiple : IsMultiple (grain x) q)
    (h : |x - q| < grain x / 2) : toBinary x = q := by
  obtain ⟨k, rfl⟩ := hmultiple
  have hpos := grain_pos x
  have hdivided : x / grain x - k = (x - k * grain x) / grain x := by
    field_simp
  rw [toBinary_of_pos hx, nearest_eq]
  rw [hdivided, abs_div, abs_of_pos hpos, div_lt_iff₀ hpos]
  linarith

/-- The binary fractions but zero are the multiples of their grain. -/
theorem toBinary_eq_self_iff {q : ℚ} (hq : q ≠ 0) :
    toBinary q = q ↔ IsMultiple (grain |q|) q := by
  have hpos := grain_pos |q|
  constructor
  · intro hbinary
    exact ⟨_, hbinary.symm.trans (toBinary_of_ne hq)⟩
  · rintro ⟨k, hk⟩
    have hquotient : q / grain |q| = k := (div_eq_iff hpos.ne').mpr hk
    rw [toBinary_of_ne hq, hquotient, nearest_eq (n := k) (by norm_num), ← hk]

theorem toBinary_neg {q : ℚ} (hbinary : toBinary q = q) : toBinary (-q) = -q := by
  rcases eq_or_ne q 0 with rfl | hq
  · exact hbinary
  · obtain ⟨k, hk⟩ := (toBinary_eq_self_iff hq).mp hbinary
    rw [toBinary_eq_self_iff (neg_ne_zero.mpr hq), abs_neg]
    exact ⟨-k, by push_cast; linarith⟩

theorem toBinary_abs {q : ℚ} (hbinary : toBinary q = q) : toBinary |q| = |q| := by
  rcases abs_choice q with h | h
  · rw [h]
    exact hbinary
  · rw [h]
    exact toBinary_neg hbinary

theorem isMultiple_grain {q : ℚ} (hq : 0 < q) (hbinary : toBinary q = q) :
    IsMultiple (grain q) q := by
  rw [toBinary_eq_self_iff hq.ne', abs_of_pos hq] at hbinary
  exact hbinary

theorem grain_le {q : ℚ} (hq : 0 < q) (hbinary : toBinary q = q) : grain q ≤ q := by
  obtain ⟨k, hk⟩ := isMultiple_grain hq hbinary
  have hpos := grain_pos q
  have hk1 : (1 : ℤ) ≤ k := by
    have : (0 : ℚ) < k := pos_of_mul_pos_left (hk ▸ hq) hpos.le
    exact_mod_cast this
  calc grain q = 1 * grain q := (one_mul _).symm
    _ ≤ k * grain q := by gcongr; exact_mod_cast hk1
    _ = q := hk.symm

/-- A positive binary fraction is not below the finest grain. -/
theorem le_binaryExponent {q : ℚ} (hq : 0 < q) (hbinary : toBinary q = q) :
    -1074 ≤ binaryExponent q := by
  have hfinest : (2 : ℚ) ^ (-1074 : ℤ) ≤ grain q := by
    rw [grain_eq_zpow]
    exact zpow_le_zpow_right₀ (by norm_num) (le_max_right _ _)
  have hpower : (2 : ℚ) ^ (-1074 : ℤ) < 2 ^ (binaryExponent q + 1) :=
    (hfinest.trans (grain_le hq hbinary)).trans_lt (binaryExponent_spec hq).2
  have := (zpow_lt_zpow_iff_right₀ (by norm_num)).mp hpower
  omega

/-! ## Decimals near binary fractions -/

theorem zpow_sub_mul (b c : ℤ) : (2 : ℚ) ^ (b - c) * 2 ^ c = 2 ^ b := by
  rw [← zpow_add₀ (by norm_num), sub_add_cancel]

/-- A power of two is what is rounded to it from closely below, where the grain is finer. -/
theorem toBinary_below_zpow {x : ℚ} {b : ℤ} (hb : -1074 ≤ b) (hless : x < 2 ^ b)
    (hnear : |x - 2 ^ b| * (2 * 10 ^ 16) ≤ 2 ^ b) : toBinary x = 2 ^ b := by
  have hpower : (0 : ℚ) < 2 ^ b := by positivity
  rw [abs_of_neg (by linarith)] at hnear
  norm_num at hnear
  have hx : 0 < x := by linarith
  obtain ⟨hlow, hhigh⟩ := binaryExponent_spec hx
  have hexponent : binaryExponent x = b - 1 := by
    have hbelow : binaryExponent x < b := (zpow_lt_zpow_iff_right₀ (by norm_num)).mp (hlow.trans_lt hless)
    have habove : (2 : ℚ) ^ (b - 1) < 2 ^ (binaryExponent x + 1) := by
      have h1 := zpow_sub_mul b 1
      norm_num at h1
      linarith
    have := (zpow_lt_zpow_iff_right₀ (by norm_num)).mp habove
    omega
  apply toBinary_eq hx (isMultiple_grain_zpow (by omega) hb)
  have hcoarse : (2 : ℚ) ^ (b - 53) ≤ grain x := by
    rw [grain_eq_zpow]
    exact zpow_le_zpow_right₀ (by norm_num) (le_max_of_le_left (by omega))
  have h53 := zpow_sub_mul b 53
  norm_num at h53
  rw [abs_of_neg (by linarith)]
  linarith

/-- What is so near to a positive binary fraction as half a unit in seventeen digits lies within
half a grain. -/
theorem lt_half_grain {q x : ℚ} (hq : 0 < q) (hnear : |x - q| * (2 * 10 ^ 16) ≤ q) :
    |x - q| < grain q / 2 := by
  have hcoarse : (2 : ℚ) ^ (binaryExponent q - 52) ≤ grain q := by
    rw [grain_eq_zpow]
    exact zpow_le_zpow_right₀ (by norm_num) (le_max_left _ _)
  have hhigh := (binaryExponent_spec hq).2
  rw [zpow_add_one₀ (by norm_num)] at hhigh
  have hpower : (0 : ℚ) < 2 ^ binaryExponent q := by positivity
  have h52 := zpow_sub_mul (binaryExponent q) 52
  norm_num at h52 hnear
  linarith

/-- It is rounded to that binary fraction. -/
theorem toBinary_of_near {q x : ℚ} (hq : 0 < q) (hbinary : toBinary q = q)
    (hnear : |x - q| * (2 * 10 ^ 16) ≤ q) : toBinary x = q := by
  obtain ⟨hlow, hhigh⟩ := binaryExponent_spec hq
  have hleast := le_binaryExponent hq hbinary
  have hgrain := grain_pos q
  have hmultiple := isMultiple_grain hq hbinary
  have hhalf := lt_half_grain hq hnear
  obtain ⟨habove, hbelow⟩ := abs_sub_lt_iff.mp hhalf
  have hx : 0 < x := by linarith [grain_le hq hbinary]
  obtain ⟨hxlow, hxhigh⟩ := binaryExponent_spec hx
  rcases lt_trichotomy (binaryExponent x) (binaryExponent q) with hless | hsame | hmore
  · -- `x` lies below a power of two that is less than a grain below `q`: that is `q`.
    have hxbelow : x < 2 ^ binaryExponent q :=
      hxhigh.trans_le (zpow_le_zpow_right₀ (by norm_num) (by omega))
    have hpower : q = 2 ^ binaryExponent q :=
      (isMultiple_grain_zpow (by omega) hleast).eq_of_near hgrain hmultiple hlow (by linarith)
    rw [hpower] at hnear
    rw [toBinary_below_zpow hleast hxbelow hnear, ← hpower]
  · have hsamegrain : grain x = grain q := by rw [grain, grain, hsame]
    exact toBinary_eq hx (hsamegrain ▸ hmultiple) (hsamegrain ▸ hhalf)
  · -- The next power of two would be less than a grain above `q`.
    have hxabove : (2 : ℚ) ^ (binaryExponent q + 1) ≤ x :=
      (zpow_le_zpow_right₀ (by norm_num) (by omega)).trans hxlow
    have hequal := hmultiple.eq_of_near hgrain
      (isMultiple_grain_zpow (b := binaryExponent q + 1) (by omega) (by omega)) hhigh.le
      (by linarith)
    exact absurd hequal hhigh.ne'

end Number
end SourceAudit
