import SourceAudit.Document.JsonWriter
import SourceAudit.Number.Quantity
import SourceAudit.Proofs.Number.BinaryFraction
import SourceAudit.Proofs.Number.DecimalText

/-!
  Numbers that are written with the fewest digits are read back.

  What is proved:
    1. `isDecimalOf_fewestFrom` — the digits that are found stand for the fraction:
       seventeen of them are always enough.
    2. `ofDecimal_eq` — a decimal that stands for a fraction is read as that fraction,
       within the range of the number format.
    3. `exists_parts` — the shortest text of a binary fraction is that of a decimal that
       stands for it.
    4. `fraction?_number` — every number that the format has is read back from what is
       written for it, so that no two are written alike (`number_inj`).
-/
namespace SourceAudit
namespace Number

/-! ## The fewest digits -/

/-- A decimal that is rounded to `q`, and not too far from it for its size to be read. -/
structure IsDecimalOf (q v : ℚ) : Prop where
  rounded : toBinary v = q
  below : q ≤ 2 * v
  above : v ≤ 2 * q

section Digits

variable {q : ℚ} {count : ℕ}

/-- The unit of the last digit, and the whole number of units that is not above `q`. -/
theorem unit_spec (hq : 0 < q) (hcount : 0 < count) :
    let unit := tenTo (decimalExponent q - count + 1)
    0 < unit ∧ unit * 10 ^ (count - 1) ≤ q ∧ 1 ≤ (q / unit).floor ∧
      (q / unit).floor * unit ≤ q ∧ q < ((q / unit).floor + 1) * unit := by
  intro unit
  have hunit : 0 < unit := by
    simp only [unit, tenTo_eq_zpow]
    positivity
  have hsum : unit * 10 ^ (count - 1) = (10 : ℚ) ^ decimalExponent q := by
    simp only [unit, tenTo_eq_zpow]
    rw [← zpow_natCast, ← zpow_add₀ (by norm_num)]
    congr 1
    omega
  have hsize : unit * 10 ^ (count - 1) ≤ q := hsum ▸ (decimalExponent_spec hq).1
  have hone : 1 ≤ (q / unit).floor := by
    rw [Rat.le_floor_iff, Int.cast_one, le_div_iff₀ hunit, one_mul]
    have hten : (1 : ℚ) ≤ 10 ^ (count - 1) := one_le_pow₀ (by norm_num)
    nlinarith
  refine ⟨hunit, hsize, hone, (le_div_iff₀ hunit).mp (Rat.floor_le _), ?_⟩
  rw [← div_lt_iff₀ hunit]
  exact_mod_cast Rat.lt_floor_add_one (q / unit)

/-- Digits that are found stand for `q`. -/
theorem isDecimalOf_withDigits? (hq : 0 < q) (hcount : 0 < count) {n : ℕ} {e : ℤ}
    (h : withDigits? q count = some (n, e)) : IsDecimalOf q (n * 10 ^ e) := by
  unfold withDigits? at h
  extract_lets e' unit low backs below above lowFirst first second at h
  obtain ⟨hunit, -, hone, hlow, hhigh⟩ : 0 < unit ∧ unit * 10 ^ (count - 1) ≤ q ∧ 1 ≤ low ∧
      low * unit ≤ q ∧ q < (low + 1) * unit := unit_spec hq hcount
  have hlowone : (1 : ℚ) ≤ low := by exact_mod_cast hone
  -- Whichever of the two neighbours is tried, it counts only if it is rounded to `q`.
  have hneighbour : ∀ m : ℤ, m = low ∨ m = low + 1 → backs m = true →
      some (m.toNat, e') = some (n, e) → IsDecimalOf q (n * 10 ^ e) := by
    intro m hm hback hfound
    obtain ⟨rfl, rfl⟩ := Prod.mk.inj (Option.some.inj hfound)
    have hmcast : (m.toNat : ℚ) = (m : ℚ) := by
      have : (m.toNat : ℤ) = m := Int.toNat_of_nonneg (by omega)
      exact_mod_cast this
    have hrounded : toBinary (m * unit) = q := beq_iff_eq.mp hback
    rw [hmcast, ← tenTo_eq_zpow]
    change IsDecimalOf q (m * unit)
    rcases hm with rfl | rfl
    · exact ⟨hrounded, by nlinarith, by nlinarith⟩
    · push_cast at hrounded ⊢
      exact ⟨hrounded, by nlinarith, by nlinarith⟩
  split at h
  · next hback => exact hneighbour first (by simp only [first]; split <;> simp) hback h
  · split at h
    · next hback => exact hneighbour second (by simp only [second]; split <;> simp) hback h
    · cases h

/-- Seventeen digits are found: the nearest decimal of so many is rounded to `q`. -/
theorem isSome_withDigits?_seventeen (hq : 0 < q) (hbinary : toBinary q = q) :
    (withDigits? q 17).isSome := by
  unfold withDigits?
  extract_lets e unit low backs below above lowFirst first second
  obtain ⟨hunit, hsize, -, hlow, hhigh⟩ : 0 < unit ∧ unit * 10 ^ (17 - 1) ≤ q ∧ 1 ≤ low ∧
      low * unit ≤ q ∧ q < (low + 1) * unit := unit_spec hq (by norm_num)
  have hnearest : |(first : ℚ) * unit - q| * 2 ≤ unit := by
    simp only [first]
    split
    · next hfirst =>
      rw [abs_of_nonpos (by linarith)]
      simp only [lowFirst, below, above, Bool.or_eq_true, Bool.and_eq_true, decide_eq_true_eq,
        beq_iff_eq] at hfirst
      rcases hfirst with hless | ⟨hequal, -⟩ <;> linarith
    · next hfirst =>
      simp only [lowFirst, below, above, Bool.or_eq_true, decide_eq_true_eq, not_or,
        not_lt] at hfirst
      push_cast
      rw [abs_of_nonneg (by linarith)]
      linarith [hfirst.1]
  have hback : backs first = true := by
    apply beq_iff_eq.mpr
    apply toBinary_of_near hq hbinary
    norm_num at hsize ⊢
    linarith
  rw [if_pos hback]
  rfl

/-- If some count of digits is enough, the fewest digits are found. -/
theorem exists_withDigits?_eq_fewestFrom {left enough : ℕ} (hfrom : count ≤ enough)
    (hbelow : enough < count + left) (h : (withDigits? q enough).isSome) :
    ∃ c, count ≤ c ∧ withDigits? q c = some (fewestFrom q left count) := by
  induction left generalizing count with
  | zero => omega
  | succ left ih =>
    rw [fewestFrom]
    cases hfound : withDigits? q count with
    | some found => exact ⟨count, le_rfl, hfound⟩
    | none =>
      have hne : count ≠ enough := by
        rintro rfl
        rw [hfound] at h
        cases h
      obtain ⟨c, hc, hsome⟩ : ∃ c, count + 1 ≤ c ∧
          withDigits? q c = some (fewestFrom q left (count + 1)) := ih (by omega) (by omega)
      exact ⟨c, by omega, hsome⟩

/-- The fewest digits stand for `q`. -/
theorem isDecimalOf_fewestFrom (hq : 0 < q) (hbinary : toBinary q = q) :
    IsDecimalOf q ((fewestFrom q 17 1).1 * 10 ^ (fewestFrom q 17 1).2) := by
  obtain ⟨c, hc, hsome⟩ : ∃ c, 1 ≤ c ∧ withDigits? q c = some (fewestFrom q 17 1) :=
    exists_withDigits?_eq_fewestFrom (by norm_num) (by norm_num)
      (isSome_withDigits?_seventeen hq hbinary)
  exact isDecimalOf_withDigits? hq hc hsome

end Digits

/-! ## Reading -/

section Reading

variable {q : ℚ}

theorem two_pow_lt_ten_pow : (2 : ℚ) ^ 1075 < 10 ^ 400 := by
  calc (2 : ℚ) ^ 1075 = (2 ^ 43) ^ 25 := by rw [← pow_mul]
    _ < (10 ^ 16) ^ 25 := pow_lt_pow_left₀ (by norm_num) (by norm_num) (by norm_num)
    _ = 10 ^ 400 := by rw [← pow_mul]

/-- What is within range is far below the size that is taken for infinite unread. -/
theorem two_mul_limit_lt : 2 * Quantity.limit < 10 ^ (400 : ℤ) := by
  have hlimit : Quantity.limit = 2 ^ 1024 := by
    simp only [Quantity.limit, Nat.pow_eq, Nat.cast_pow, Nat.cast_ofNat]
  calc 2 * Quantity.limit = 2 ^ 1025 := by rw [hlimit, ← pow_succ']
    _ ≤ 2 ^ 1075 := pow_le_pow_right₀ (by norm_num) (by norm_num)
    _ < 10 ^ (400 : ℤ) := two_pow_lt_ten_pow

/-- Positive binary fractions are far above the size that is taken for zero unread. -/
theorem lt_of_binary (hq : 0 < q) (hbinary : toBinary q = q) : 2 * 10 ^ (-400 : ℤ) < q := by
  have hinverse : (10 : ℚ) ^ (-400 : ℤ) < 2 ^ (-1075 : ℤ) := by
    rw [zpow_neg, zpow_neg]
    exact inv_strictAnti₀ (by positivity) two_pow_lt_ten_pow
  calc (2 : ℚ) * 10 ^ (-400 : ℤ) < 2 * 2 ^ (-1075 : ℤ) := by linarith
    _ = 2 ^ (-1074 : ℤ) := by rw [← zpow_one_add₀ (by norm_num)]; norm_num
    _ ≤ 2 ^ binaryExponent q := zpow_le_zpow_right₀ (by norm_num) (le_binaryExponent hq hbinary)
    _ ≤ q := (binaryExponent_spec hq).1

/-- A decimal that stands for `q` is read as `q`. -/
theorem ofDecimal_eq (hq : 0 < q) (hlimit : q < Quantity.limit) (hbinary : toBinary q = q)
    {m : ℕ} {e : ℤ} (h : IsDecimalOf q (m * 10 ^ e)) (negative : Bool) :
    Quantity.ofDecimal negative m e = .finite (if negative then -q else q) := by
  have hten : (0 : ℚ) < 10 ^ e := by positivity
  have hm : 0 < m := by
    have hpos : (0 : ℚ) < m * 10 ^ e := by linarith [h.below]
    exact_mod_cast pos_of_mul_pos_left hpos hten.le
  obtain ⟨hlow, hhigh⟩ := length_toString_spec hm
  have hlength : 0 < (toString m).length := Nat.length_repr_pos
  rw [Nat.sub_add_cancel hlength] at hhigh
  -- The digits and the exponent tell the size of the decimal, and so that of `q`.
  have hsmall : ¬ 400 < ((toString m).length : ℤ) + e := by
    have hpower : (10 : ℚ) ^ (((toString m).length - 1 : ℕ) + e) < 10 ^ (400 : ℤ) := by
      calc (10 : ℚ) ^ (((toString m).length - 1 : ℕ) + e)
          = 10 ^ ((toString m).length - 1) * 10 ^ e := by
            rw [zpow_add₀ (by norm_num), zpow_natCast]
        _ ≤ m * 10 ^ e := by gcongr; exact_mod_cast hlow
        _ ≤ 2 * q := h.above
        _ < 10 ^ (400 : ℤ) := by linarith [two_mul_limit_lt]
    have := (zpow_lt_zpow_iff_right₀ (by norm_num)).mp hpower
    omega
  have hlarge : ¬ ((toString m).length : ℤ) + e < -400 := by
    have hpower : (10 : ℚ) ^ (-400 : ℤ) < 10 ^ (((toString m).length : ℤ) + e) := by
      calc (10 : ℚ) ^ (-400 : ℤ) < m * 10 ^ e := by linarith [lt_of_binary hq hbinary, h.below]
        _ ≤ 10 ^ (toString m).length * 10 ^ e := by gcongr; exact_mod_cast hhigh.le
        _ = 10 ^ (((toString m).length : ℤ) + e) := by rw [zpow_add₀ (by norm_num), zpow_natCast]
    have := (zpow_lt_zpow_iff_right₀ (by norm_num)).mp hpower
    omega
  have hrounded : toBinary ((m : ℚ) * tenTo e) = q := by
    rw [tenTo_eq_zpow]
    exact h.rounded
  simp only [Quantity.ofDecimal, beq_iff_eq, hm.ne', if_false, hsmall, hlarge, hrounded, hq.ne',
    hlimit.not_ge]

end Reading

/-! ## The text of a number -/

section Text

variable {q : ℚ}

/-- Digits are those kept and the zeros behind. -/
theorem exists_zeros (digits : Text) :
    ∃ k, digits = (digits.reverse.dropWhile (· == '0')).reverse ++ List.replicate k '0' := by
  refine ⟨(digits.reverse.takeWhile (· == '0')).length, ?_⟩
  have hzeros : digits.reverse.takeWhile (· == '0') =
      List.replicate (digits.reverse.takeWhile (· == '0')).length '0' :=
    List.eq_replicate_iff.mpr ⟨rfl, fun c hc => by simpa using List.mem_takeWhile_imp hc⟩
  rw [← List.reverse_replicate, ← hzeros, ← List.reverse_append, List.takeWhile_append_dropWhile,
    List.reverse_reverse]

/-- The shortest digits stand for `q` with their place. -/
theorem shortestDigits_spec (hq : 0 < q) (hbinary : toBinary q = q) :
    (shortestDigits q).1 ≠ [] ∧ AllDigits (shortestDigits q).1 ∧
      IsDecimalOf q (Nat.ofDigitChars 10 (shortestDigits q).1 0 *
        10 ^ ((shortestDigits q).2 - (shortestDigits q).1.length)) := by
  have hvalue := isDecimalOf_fewestFrom hq hbinary
  unfold shortestDigits
  generalize fewestFrom q 17 1 = found at hvalue
  obtain ⟨n, e⟩ := found
  dsimp only at hvalue ⊢
  obtain ⟨k, hzeros⟩ := exists_zeros (toString n).toList
  set kept := ((toString n).toList.reverse.dropWhile (· == '0')).reverse with hkept
  have hn : n = Nat.ofDigitChars 10 kept 0 * 10 ^ k := by
    rw [← ofDigitChars_zeros, ← Nat.ofDigitChars_append, ← hzeros, ofDigitChars_toString]
  have hne : kept ≠ [] := by
    intro hnil
    have hzero : n = 0 := by rw [hn, hnil]; exact Nat.zero_mul _
    have := hvalue.below
    rw [hzero] at this
    norm_num at this
    linarith
  have hdigits : AllDigits kept :=
    (allDigits_toString n).mono (hzeros ▸ List.subset_append_left _ _)
  rw [if_neg (by simpa using hne)]
  refine ⟨hne, hdigits, ?_⟩
  have hplace : ((toString n).toList.length : ℤ) + e - kept.length = k + e := by
    have hlength := congrArg List.length hzeros
    rw [List.length_append, List.length_replicate] at hlength
    omega
  have hsame : (n : ℚ) * 10 ^ e = Nat.ofDigitChars 10 kept 0 *
      10 ^ (((toString n).toList.length : ℤ) + e - kept.length) := by
    rw [hplace, zpow_add₀ (by norm_num), zpow_natCast, hn]
    push_cast
    ring
  rw [hsame] at hvalue
  exact hvalue

/-- The shortest text of a binary fraction is that of a decimal that stands for it. -/
theorem exists_parts (hq : q ≠ 0) (hbinary : toBinary q = q) :
    ∃ p : Parts, p.IsProper ∧ p.IsMarked ∧ IsDecimalOf |q| (p.mantissa * 10 ^ p.power) ∧
      (shortestText q).toList = if decide (q < 0) then '-' :: p.text else p.text := by
  obtain ⟨hne, hdigits, hvalue⟩ := shortestDigits_spec (abs_pos.mpr hq) (toBinary_abs hbinary)
  refine ⟨.ofLayOut (shortestDigits |q|).1 (shortestDigits |q|).2, Parts.isProper_ofLayOut hne hdigits _,
    Parts.isMarked_ofLayOut hne _, ?_, ?_⟩
  · rw [Parts.value_ofLayOut hne]
    exact hvalue
  · rw [← Parts.toList_layOut hne]
    by_cases hneg : q < 0
    · simp [shortestText, hq, hneg, abs_of_neg hneg]
    · simp [shortestText, hq, hneg, abs_of_nonneg (not_lt.mp hneg)]

end Text

end Number

namespace Quantity

open Number

/-- Whether the number format has a quantity: what is finite is a binary fraction within range. -/
def IsProper : Quantity → Prop
  | finite q => toBinary q = q ∧ -limit < q ∧ q < limit
  | _ => True

/-- A number that is written is read back. -/
theorem fraction?_number {q : Quantity} (h : q.IsProper) :
    fraction? (Json.number q).toList = some q := by
  cases q with
  | negativeZero => decide +kernel
  | infinite negative => cases negative <;> decide +kernel
  | undefined => decide +kernel
  | finite q =>
    obtain ⟨hbinary, hlow, hhigh⟩ := h
    change fraction? (shortestText q).toList = _
    rcases eq_or_ne q 0 with rfl | hne
    · decide +kernel
    · obtain ⟨p, hp, -, hvalue, htext⟩ := exists_parts hne hbinary
      have hsigned : (if decide (q < 0) then -|q| else |q|) = q := by
        by_cases hneg : q < 0
        · rw [if_pos (decide_eq_true hneg), abs_of_neg hneg, neg_neg]
        · rw [if_neg (by simpa using hneg), abs_of_nonneg (not_lt.mp hneg)]
      rw [htext, Parts.fraction?_text hp, Parts.decimal?_text hp,
        ofDecimal_eq (abs_pos.mpr hne) (abs_lt.mpr ⟨hlow, hhigh⟩) (toBinary_abs hbinary) hvalue,
        hsigned]

/-- Numbers that are written alike are the same. -/
theorem number_inj {q r : Quantity} (hq : q.IsProper) (hr : r.IsProper)
    (h : Json.number q = Json.number r) : q = r := by
  have hread := fraction?_number hq
  rw [h, fraction?_number hr] at hread
  exact (Option.some.inj hread).symm

end Quantity
end SourceAudit
