import Mathlib.Data.List.Basic
import Mathlib.Data.List.TakeWhile
import SourceAudit.Text.Basic

/-!
  Texts without the blanks at their ends, and joined texts.

  Trimming takes blanks away at both ends and nothing else (`exists_trim`). Further blanks at
  an end make no difference (`trim_append_left`, `trim_append_right`), and what is cut off
  behind may be cut off before or after trimming (`trim_takeWhile_trim`).
-/
namespace SourceAudit

namespace Text

variable {t u : Text}

theorem isBlank_append : (t ++ u).isBlank = (t.isBlank && u.isBlank) := List.all_append

theorem isBlank_reverse : Text.isBlank t.reverse = t.isBlank := List.all_reverse

theorem trimLeft_append_of_isBlank (ht : t.isBlank = true) (u : Text) :
    trimLeft (t ++ u) = trimLeft u :=
  List.dropWhile_append_of_pos fun c hc => List.all_eq_true.mp ht c hc

theorem trimRight_append_of_isBlank (t : Text) (hu : u.isBlank = true) :
    trimRight (t ++ u) = trimRight t := by
  have hback : Text.isBlank u.reverse = true := by rw [isBlank_reverse, hu]
  rw [trimRight, List.reverse_append]
  exact congrArg List.reverse (trimLeft_append_of_isBlank hback t.reverse)

theorem trim_append_left (ht : t.isBlank = true) (u : Text) : trim (t ++ u) = trim u :=
  congrArg trimRight (trimLeft_append_of_isBlank ht u)

/-- Trimming takes blanks away at both ends. -/
theorem exists_trim (t : Text) :
    ∃ left right : Text, left.isBlank = true ∧ right.isBlank = true ∧
      t = left ++ (trim t ++ right) := by
  have hleft := List.takeWhile_append_dropWhile (p := Unicode.isBlank) (l := t)
  have hright := List.takeWhile_append_dropWhile (p := Unicode.isBlank) (l := (trimLeft t).reverse)
  refine ⟨t.takeWhile Unicode.isBlank, ((trimLeft t).reverse.takeWhile Unicode.isBlank).reverse,
    List.all_takeWhile, ?_, ?_⟩
  · rw [isBlank_reverse]
    exact List.all_takeWhile
  · rw [trim, trimRight, ← List.reverse_append, hright, List.reverse_reverse]
    exact hleft.symm

theorem not_mem_of_isBlank (ht : t.isBlank = true) {c : Char} (hc : Unicode.isBlank c = false) :
    c ∉ t := by
  intro hmem
  rw [List.all_eq_true.mp ht c hmem] at hc
  cases hc

theorem count_of_isBlank (ht : t.isBlank = true) {c : Char} (hc : Unicode.isBlank c = false) :
    t.count c = 0 :=
  List.count_eq_zero.mpr (not_mem_of_isBlank ht hc)

theorem count_trim {c : Char} (hc : Unicode.isBlank c = false) (t : Text) :
    (trim t).count c = t.count c := by
  obtain ⟨left, right, hleft, hright, ht⟩ := exists_trim t
  conv_rhs => rw [ht, List.count_append, List.count_append, count_of_isBlank hleft hc,
    count_of_isBlank hright hc]
  omega

theorem trim_eq_nil_iff : trim t = [] ↔ t.isBlank = true := by
  constructor
  · intro hnil
    obtain ⟨left, right, hleft, hright, ht⟩ := exists_trim t
    rw [ht, hnil, List.nil_append, isBlank_append, hleft, hright]
    rfl
  · intro hblank
    rw [← List.append_nil t, trim_append_left hblank]
    rfl

theorem trim_append_right (t : Text) (hu : u.isBlank = true) : trim (t ++ u) = trim t := by
  cases ht : t.isBlank with
  | true =>
    rw [trim_append_left ht, trim_eq_nil_iff.mpr hu, trim_eq_nil_iff.mpr ht]
  | false =>
    have hleft : trimLeft (t ++ u) = trimLeft t ++ u := by
      have hne : (t.dropWhile Unicode.isBlank).isEmpty = false := by
        rw [List.isEmpty_eq_false_iff, Ne, List.dropWhile_eq_nil_iff, ← List.all_eq_true]
        exact Bool.eq_false_iff.mp ht
      rw [trimLeft, List.dropWhile_append, hne, if_neg Bool.false_ne_true]
      rfl
    rw [trim, hleft, trimRight_append_of_isBlank _ hu]
    rfl

/-- Behind something that is not blank nothing before it is taken away. -/
theorem trimRight_append (t : Text) (hu : u.isBlank = false) :
    trimRight (t ++ u) = t ++ trimRight u := by
  have hne : (u.reverse.dropWhile Unicode.isBlank).isEmpty = false := by
    rw [List.isEmpty_eq_false_iff, Ne, List.dropWhile_eq_nil_iff, ← List.all_eq_true,
      List.all_reverse]
    exact Bool.eq_false_iff.mp hu
  rw [trimRight, List.reverse_append, List.dropWhile_append, hne, if_neg Bool.false_ne_true,
    List.reverse_append, List.reverse_reverse]
  rfl

theorem trim_trimRight (t : Text) : trim (trimRight t) = trim t := by
  have hback := List.takeWhile_append_dropWhile (p := Unicode.isBlank) (l := t.reverse)
  have ht : t = trimRight t ++ (t.reverse.takeWhile Unicode.isBlank).reverse := by
    rw [trimRight, ← List.reverse_append, hback, List.reverse_reverse]
  have hblank : Text.isBlank (t.reverse.takeWhile Unicode.isBlank).reverse = true := by
    rw [isBlank_reverse]
    exact List.all_takeWhile
  conv_rhs => rw [ht, trim_append_right _ hblank]

/-- What is cut off behind may be cut off before or after trimming. -/
theorem trim_takeWhile_trim {p : Char → Bool} (hp : ∀ c, Unicode.isBlank c = true → p c = true)
    (t : Text) : trim ((trim t).takeWhile p) = trim (t.takeWhile p) := by
  obtain ⟨left, right, hleft, hright, ht⟩ := exists_trim t
  have hpass : ∀ {u : Text}, u.isBlank = true → ∀ c ∈ u, p c = true := fun hu c hc =>
    hp c (List.all_eq_true.mp hu c hc)
  conv_rhs => rw [ht, List.takeWhile_append_of_pos (hpass hleft), trim_append_left hleft,
    List.takeWhile_append]
  split
  · next hall =>
    have hwhole : (trim t).takeWhile p = trim t :=
      (List.takeWhile_prefix p).eq_of_length hall
    rw [List.takeWhile_eq_self_iff.mpr (hpass hright), trim_append_right _ hright, hwhole]
  · rfl

theorem trimLeft_eq_self (hhead : ∀ c, t.head? = some c → Unicode.isBlank c = false) :
    trimLeft t = t := by
  cases t with
  | nil => rfl
  | cons c rest => exact List.dropWhile_cons_of_neg (by rw [hhead c rfl]; decide)

/-- A text that starts and ends with other characters is trimmed already. -/
theorem trim_eq_self (hhead : ∀ c, t.head? = some c → Unicode.isBlank c = false)
    (hlast : ∀ c, t.getLast? = some c → Unicode.isBlank c = false) : trim t = t := by
  have hback : trimLeft t.reverse = t.reverse :=
    trimLeft_eq_self fun c hc => hlast c (by rwa [List.head?_reverse] at hc)
  rw [trim, trimLeft_eq_self hhead, trimRight]
  exact (congrArg List.reverse hback).trans (List.reverse_reverse t)

theorem trimRight_cons {c : Char} (hc : Unicode.isBlank c = false) (t : Text) :
    trimRight (c :: t) = c :: trimRight t := by
  have hone : trimRight [c] = [c] :=
    congrArg List.reverse (List.dropWhile_cons_of_neg (by rw [hc]; decide) : [c].dropWhile _ = [c])
  cases ht : t.isBlank with
  | true =>
    have hnil : trimRight t = [] := by
      rw [← List.nil_append t, trimRight_append_of_isBlank [] ht]
      rfl
    rw [← List.singleton_append, trimRight_append_of_isBlank [c] ht, hone, hnil]
  | false => exact trimRight_append [c] ht

theorem joinWith_cons_cons (sep t u : Text) (us : List Text) :
    joinWith sep (t :: u :: us) = t ++ (sep ++ joinWith sep (u :: us)) := by
  rw [joinWith, List.append_assoc]
  exact List.cons_ne_nil u us

/-- What stands before the first part stands before the joined parts. -/
theorem joinWith_append_head (sep pad t : Text) (ts : List Text) :
    joinWith sep ((pad ++ t) :: ts) = pad ++ joinWith sep (t :: ts) := by
  cases ts with
  | nil => rfl
  | cons u us => rw [joinWith_cons_cons, joinWith_cons_cons, List.append_assoc]

end Text
end SourceAudit
