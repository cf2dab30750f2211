import SourceAudit.Proofs.Text.JoinedLines
import SourceAudit.Text.Position

/-!
  Lines and columns of offsets.

  The table of a text holds the starts of its lines. A text that is cut in front of an offset
  has a table that is cut there as well: the starts of the front part are all at or before the
  offset, the others behind it. What is proved:
    1. `lineOf_length` — so the line of an offset is one more than the newlines before it.
    2. `start_length` — its line starts behind the last of these newlines, or at zero.
    3. `offset_of_position` — line and column give the offset back.
    4. `positions_exact` — lines and columns are what they should be at every offset: a
       character that is no newline is found at its column of its line, and two offsets never
       share line and column.
-/
namespace SourceAudit
namespace LineTable

/-- The position of the last newline before an offset, or -1 if none is before it. -/
structure IsBreakBefore (t : Text) (offset : Nat) (position : Int) : Prop where
  stands : position = -1 ∨ ∃ j : Nat, position = j ∧ j < offset ∧ t[j]? = some '\n'
  last : ∀ j : Nat, position < j → j < offset → t[j]? ≠ some '\n'

/-! ## The starts of lines -/

theorem startsFrom_append (offset : Nat) (u v : Text) :
    startsFrom offset (u ++ v) = startsFrom offset u ++ startsFrom (offset + u.length) v := by
  induction u generalizing offset with
  | nil => simp [startsFrom]
  | cons c u ih =>
    have hnext : offset + 1 + u.length = offset + (u.length + 1) := by omega
    by_cases hc : c = '\n'
    · simp [startsFrom, hc, ih, hnext]
    · simp [startsFrom, hc, ih, hnext]

theorem bounds_of_mem_startsFrom {offset s : Nat} {t : Text} (h : s ∈ startsFrom offset t) :
    offset < s ∧ s ≤ offset + t.length := by
  induction t generalizing offset with
  | nil => simp [startsFrom] at h
  | cons c t ih =>
    have hlater : s ∈ startsFrom (offset + 1) t → offset < s ∧ s ≤ offset + (c :: t).length := by
      intro hs
      have hbounds := ih hs
      simp only [List.length_cons]
      omega
    rw [startsFrom] at h
    split at h
    · rcases List.mem_cons.mp h with rfl | hs
      · simp only [List.length_cons]
        omega
      · exact hlater hs
    · exact hlater h

/-- Each line starts behind the one before it. -/
theorem pairwise_starts (t : Text) : (ofText t).starts.Pairwise (· < ·) := by
  have hrise : ∀ offset, (startsFrom offset t).Pairwise (· < ·) := by
    induction t with
    | nil => exact fun _ => List.Pairwise.nil
    | cons c t ih =>
      intro offset
      rw [startsFrom]
      split
      · exact List.pairwise_cons.mpr ⟨fun s hs => (bounds_of_mem_startsFrom hs).1, ih (offset + 1)⟩
      · exact ih (offset + 1)
  exact List.pairwise_cons.mpr ⟨fun s hs => (bounds_of_mem_startsFrom hs).1, hrise 0⟩

theorem length_startsFrom_eq_count (offset : Nat) (t : Text) :
    (startsFrom offset t).length = t.count '\n' := by
  induction t generalizing offset with
  | nil => rfl
  | cons c t ih =>
    by_cases hc : c = '\n'
    · simp [startsFrom, hc, ih]
    · simp [startsFrom, hc, ih]

/-- The starts at or before the end of the front part are its own. -/
theorem takeWhile_starts (u v : Text) :
    ((ofText (u ++ v)).starts.takeWhile fun s => decide (s ≤ u.length)) =
      0 :: startsFrom 0 u := by
  have hown : ∀ s ∈ 0 :: startsFrom 0 u, decide (s ≤ u.length) = true := by
    intro s hs
    rcases List.mem_cons.mp hs with rfl | hs
    · simp
    · have hbounds := bounds_of_mem_startsFrom hs
      exact decide_eq_true (by omega)
  have hother : (startsFrom (0 + u.length) v).takeWhile (fun s => decide (s ≤ u.length)) = [] := by
    cases hstarts : startsFrom (0 + u.length) v with
    | nil => rfl
    | cons s rest =>
      have hbounds := bounds_of_mem_startsFrom (hstarts ▸ List.mem_cons_self)
      exact List.takeWhile_cons_of_neg (by simp only [decide_eq_true_eq]; omega)
  show ((0 :: startsFrom 0 (u ++ v)).takeWhile _) = _
  rw [startsFrom_append, ← List.cons_append, List.takeWhile_append_of_pos hown, hother,
    List.append_nil]

/-- The line of an offset is one more than the newlines before it. -/
theorem lineOf_length (u v : Text) : (ofText (u ++ v)).lineOf u.length = u.count '\n' + 1 := by
  rw [lineOf, takeWhile_starts, List.length_cons, length_startsFrom_eq_count]

/-! ## The start of the line of an offset -/

/-- What stands before an offset is on the first line, or behind a last newline. -/
theorem break_cases (u : Text) :
    '\n' ∉ u ∨ ∃ above row, u = above ++ '\n' :: row ∧ '\n' ∉ row := by
  by_cases h : '\n' ∈ u
  · obtain ⟨back, front, hcut, hback⟩ := List.eq_append_cons_of_mem (List.mem_reverse.mpr h)
    refine .inr ⟨front.reverse, back.reverse, ?_, by simpa using hback⟩
    rw [← List.reverse_reverse u, hcut]
    simp
  · exact .inl h

/-- The start of the line in which an offset lies. -/
def startOf (t : Text) (offset : Nat) : Nat :=
  (ofText t).starts.getD ((ofText t).lineOf offset - 1) 0

theorem start_of_notMem {u : Text} (h : '\n' ∉ u) (v : Text) : startOf (u ++ v) u.length = 0 := by
  rw [startOf, lineOf_length, List.count_eq_zero.mpr h]
  rfl

/-- Behind a newline a line starts. -/
theorem start_of_break {row : Text} (h : '\n' ∉ row) (above v : Text) :
    startOf (above ++ '\n' :: row ++ v) (above ++ '\n' :: row).length = above.length + 1 := by
  have hcount : (above ++ '\n' :: row).count '\n' = above.count '\n' + 1 := by
    rw [List.count_append, List.count_cons_self, List.count_eq_zero.mpr h]
  have hstarts : (ofText (above ++ '\n' :: row ++ v)).starts =
      (0 :: startsFrom 0 above) ++
        (above.length + 1) :: startsFrom (above.length + 1) (row ++ v) := by
    rw [List.append_assoc, ofText, startsFrom_append, List.cons_append, startsFrom]
    simp
  have hindex : (0 :: startsFrom 0 above).length = above.count '\n' + 1 := by
    rw [List.length_cons, length_startsFrom_eq_count]
  rw [startOf, lineOf_length, hcount, hstarts, Nat.add_sub_cancel, ← hindex, List.getD_eq_getElem?_getD,
    List.getElem?_append_right (Nat.le_refl _), Nat.sub_self]
  rfl

/-- A line starts at or before each of its offsets. -/
theorem start_le (u v : Text) : startOf (u ++ v) u.length ≤ u.length := by
  rcases break_cases u with h | ⟨above, row, rfl, h⟩
  · rw [start_of_notMem h]
    omega
  · rw [start_of_break h, List.length_append, List.length_cons]
    omega

/-- An offset is found again from its line and its column. -/
theorem offset_of_position (u v : Text) :
    startOf (u ++ v) u.length + (ofText (u ++ v)).columnOf u.length = u.length + 1 := by
  have hle := start_le u v
  rw [columnOf, ← startOf]
  omega

/-- The column counts from the last newline before the offset. -/
theorem isBreakBefore_columnOf (u v : Text) :
    IsBreakBefore (u ++ v) u.length ((u.length : Int) - (ofText (u ++ v)).columnOf u.length) := by
  have hoffset := offset_of_position u v
  have hfront : ∀ j < u.length, (u ++ v)[j]? = u[j]? := fun j hj => List.getElem?_append_left hj
  rcases break_cases u with h | ⟨above, row, rfl, h⟩
  · rw [start_of_notMem h] at hoffset
    refine ⟨.inl (by omega), fun j _ hj heq => h ?_⟩
    rw [hfront j hj] at heq
    exact List.mem_of_getElem? heq
  · rw [start_of_break h] at hoffset
    refine ⟨.inr ⟨above.length, by omega, by simp, ?_⟩, fun j hbehind hj heq => h ?_⟩
    · rw [hfront above.length (by simp)]
      simp
    · obtain ⟨k, rfl⟩ : ∃ k, j = above.length + 1 + k := ⟨j - (above.length + 1), by omega⟩
      rw [hfront _ hj, List.getElem?_append_right (by omega)] at heq
      have hindex : above.length + 1 + k - above.length = k + 1 := by omega
      rw [hindex, List.getElem?_cons_succ] at heq
      exact List.mem_of_getElem? heq

/-! ## Characters in their lines -/

/-- A character that is no newline stands at its column of its line. -/
theorem getElem?_position {u v : Text} {c : Char} (hc : c ≠ '\n') :
    ∃ row, (u ++ c :: v).lines[(ofText (u ++ c :: v)).lineOf u.length - 1]? = some row ∧
      row[(ofText (u ++ c :: v)).columnOf u.length - 1]? = some c := by
  obtain ⟨inner, left, right, more, hlines, hu, hinner⟩ :=
    Text.joinLines_cut (fun _ hrow => Text.newline_not_mem_of_mem_lines hrow) hc
      (Text.joinLines_lines (u ++ c :: v))
  have hleft : '\n' ∉ left := by
    have hrow : left ++ c :: right ∈ (u ++ c :: v).lines := by
      rw [hlines]
      simp
    intro hmem
    exact Text.newline_not_mem_of_mem_lines hrow (List.mem_append_left _ hmem)
  refine ⟨left ++ c :: right, ?_, ?_⟩
  · rw [lineOf_length, hlines, ← hinner, Nat.add_sub_cancel, List.getElem?_append_right
      (Nat.le_refl _), Nat.sub_self]
    rfl
  · have hcolumn : (ofText (u ++ c :: v)).columnOf u.length = left.length + 1 := by
      have hoffset := offset_of_position u (c :: v)
      by_cases hnil : inner = []
      · -- the character is on the first line
        obtain rfl : u = left := by rw [hu, hnil]; rfl
        rw [start_of_notMem hleft] at hoffset
        omega
      · have hcut : u = Text.joinLines inner ++ '\n' :: left :=
          hu.trans (Text.joinLines_append hnil (by simp))
        have hstart := start_of_break hleft (Text.joinLines inner) (c :: v)
        rw [← hcut] at hstart
        rw [hstart] at hoffset
        have hlength := congrArg List.length hcut
        simp only [List.length_append, List.length_cons] at hlength
        omega
    rw [hcolumn, Nat.add_sub_cancel, List.getElem?_append_right (Nat.le_refl _), Nat.sub_self]
    rfl

/-- The lines of a text start in rising order. At every offset, the line is one more than the newlines
before it, the column counts from the last of them, or from the position before the text, and a
character that is no newline is the one at that column of that line. Offsets with the same line and
column are the same. -/
theorem positions_exact (t : Text) :
    (ofText t).starts.Pairwise (· < ·) ∧
    (∀ i ≤ t.length,
      (ofText t).lineOf i = (t.take i).count '\n' + 1 ∧
      1 ≤ (ofText t).columnOf i ∧
      IsBreakBefore t i ((i : Int) - (ofText t).columnOf i) ∧
      ∀ c, t[i]? = some c → c ≠ '\n' → ∃ row,
        t.lines[(ofText t).lineOf i - 1]? = some row ∧
          row[(ofText t).columnOf i - 1]? = some c) ∧
    ∀ i ≤ t.length, ∀ j ≤ t.length,
      (ofText t).lineOf i = (ofText t).lineOf j → (ofText t).columnOf i = (ofText t).columnOf j →
        i = j := by
  have hcut : ∀ i ≤ t.length, t.take i ++ t.drop i = t ∧ (t.take i).length = i :=
    fun i hi => ⟨List.take_append_drop i t, List.length_take_of_le hi⟩
  refine ⟨pairwise_starts t, fun i hi => ⟨?_, ?_, ?_, fun c hget hc => ?_⟩, fun i hi j hj hline hcolumn => ?_⟩
  · obtain ⟨happend, hlength⟩ := hcut i hi
    have hcount := lineOf_length (t.take i) (t.drop i)
    rwa [happend, hlength] at hcount
  · rw [columnOf]
    omega
  · obtain ⟨happend, hlength⟩ := hcut i hi
    have hbreak := isBreakBefore_columnOf (t.take i) (t.drop i)
    rwa [happend, hlength] at hbreak
  · obtain ⟨happend, hlength⟩ := hcut i hi
    have hdrop : t.drop i = c :: t.drop (i + 1) := by
      rw [List.drop_eq_getElem?_toList_append, hget]
      rfl
    have hrow := getElem?_position (u := t.take i) (v := t.drop (i + 1)) hc
    rwa [← hdrop, happend, hlength] at hrow
  · -- both offsets are counted from the start of the same line
    have hoffset : ∀ k ≤ t.length, startOf t k + (ofText t).columnOf k = k + 1 := by
      intro k hk
      obtain ⟨happend, hlength⟩ := hcut k hk
      have hback := offset_of_position (t.take k) (t.drop k)
      rwa [happend, hlength] at hback
    have hstart : startOf t i = startOf t j := by rw [startOf, startOf, hline]
    have hfirst := hoffset i hi
    have hsecond := hoffset j hj
    omega

/-- The character behind an empty line, and the end of the text behind a last newline. -/
theorem positions_exact_lines :
    let t : Text := "ab\n\ncd\n".toList
    (ofText t).lineOf 5 = 3 ∧ (ofText t).columnOf 5 = 2 ∧
      (∃ row, t.lines[2]? = some row ∧ row[1]? = some 'd') ∧
      (ofText t).lineOf 7 = 4 ∧ IsBreakBefore t 7 6 := by
  obtain ⟨-, hplaces, -⟩ := positions_exact "ab\n\ncd\n".toList
  obtain ⟨hline, -, -, hrow⟩ := hplaces 5 (by decide)
  obtain ⟨hend, -, hbreak, -⟩ := hplaces 7 (by decide)
  exact ⟨hline, by decide, hrow 'd' (by decide) (by decide), hend, hbreak⟩

end LineTable
end SourceAudit
