import Mathlib.Data.Finset.Card
import Mathlib.Data.Finset.Dedup
import SourceAudit.Proofs.Source.PreparedLines

/-!
  The depths of indented lines as a formula over all lines.

  The scan keeps the widths of the blocks that are open, innermost first. A line closes
  those that are wider than it is, and opens one if it is wider than all that are left;
  blank lines leave them as they are. What is proved, for any lines:
    1. `mem_openAt` — what one line makes of widths that fall (`Falls`), and
       `Falls.openAt` — they go on falling.
    2. `isOpen_succ_iff`, `mem_blocksBehind` — so the blocks that are open behind some
       lines are those of which a line has the width and no later line a smaller one.
    3. `getElem?_indentedFrom` — the depth of a line is the number of these blocks, and
       one more if the line ends in a colon.
    4. `level_le_one`, `level_le` — a line opens one block at most, and none if it is no
       wider than the line before it, blank ones aside.
    5. `indented_eq_levels` — all depths of any lines, as one equation.
-/
namespace SourceAudit

/-- Of widths that fall, dropping the first ones that are not below a bound drops all of them. -/
theorem dropWhile_eq_filter {ws : List Nat} (h : ws.Pairwise (· > ·)) (width : Nat) :
    ws.dropWhile (fun w => decide (width ≤ w)) = ws.filter fun w => decide (w < width) := by
  induction ws with
  | nil => rfl
  | cons w ws ih =>
    obtain ⟨hw, hws⟩ := List.pairwise_cons.mp h
    by_cases hle : width ≤ w
    · rw [List.dropWhile_cons_of_pos (by simpa using hle),
        List.filter_cons_of_neg (by simpa using hle), ih hws]
    · have hall : ∀ v ∈ w :: ws, decide (v < width) = true := by
        intro v hv
        rcases List.mem_cons.mp hv with rfl | hv
        · simpa using hle
        · have hlt := hw v hv
          simp only [decide_eq_true_eq]
          omega
      rw [List.dropWhile_cons_of_neg (by simpa using hle), List.filter_eq_self.mpr hall]

namespace Text

/-- Whether a line ends in a colon, blanks behind it aside. -/
def EndsInColon (line : Text) : Prop :=
  ∃ lead tail : Text, line = lead ++ ':' :: tail ∧ tail.isBlank = true

theorem endsInColon_iff (line : Text) :
    line.EndsInColon ↔ line.trimRight.getLast? = some ':' := by
  have hcolon : ¬ Unicode.isBlank ':' = true := by decide
  rw [trimRight, List.getLast?_reverse]
  constructor
  · rintro ⟨lead, tail, rfl, htail⟩
    have hall : ∀ c ∈ tail.reverse, Unicode.isBlank c = true := fun c hc =>
      List.all_eq_true.mp htail c (List.mem_reverse.mp hc)
    rw [List.reverse_append, List.reverse_cons, List.append_assoc,
      List.dropWhile_append_of_pos hall, List.singleton_append,
      List.dropWhile_cons_of_neg hcolon, List.head?_cons]
  · intro h
    obtain ⟨rest, hrest⟩ := List.head?_eq_some_iff.mp h
    refine ⟨rest.reverse, (line.reverse.takeWhile Unicode.isBlank).reverse, ?_, ?_⟩
    · have hcut := List.takeWhile_append_dropWhile (p := Unicode.isBlank) (l := line.reverse)
      rw [hrest] at hcut
      have hline := congrArg List.reverse hcut.symm
      simpa using hline
    · rw [isBlank, List.all_eq_true]
      exact fun c hc => List.all_eq_true.mp List.all_takeWhile c (List.mem_reverse.mp hc)

instance (line : Text) : Decidable line.EndsInColon :=
  decidable_of_iff _ (endsInColon_iff line).symm

end Text

namespace Depth

/-! ## Blocks that are open -/

/-- The width of the line with an index, counted from zero; a blank line has none. -/
def widthAt (ls : List Text) (i : Nat) : Option Nat :=
  (ls[i]?.filter fun line => !line.isBlank).map Text.indentWidth

/-- Whether the first lines, `n` of them, leave a block of some width open: one of them has this
width, and none behind it a smaller one. -/
def IsOpen (ls : List Text) (n v : Nat) : Prop :=
  0 < v ∧ ∃ j < n, widthAt ls j = some v ∧ ∀ k < n, j < k → ∀ w ∈ widthAt ls k, v ≤ w

instance (ls : List Text) (n v : Nat) : Decidable (IsOpen ls n v) :=
  inferInstanceAs (Decidable (_ ∧ _))

/-- The widths of the blocks that the first `n` lines leave open. -/
def openWidths (ls : List Text) (n : Nat) : Finset Nat :=
  ((List.range n).filterMap (widthAt ls)).toFinset.filter (IsOpen ls n)

/-- The level of the line with an index: the number of blocks that are open behind it. -/
def level (ls : List Text) (i : Nat) : Nat := (openWidths ls (i + 1)).card

theorem mem_openWidths {ls : List Text} {n v : Nat} : v ∈ openWidths ls n ↔ IsOpen ls n v := by
  simp only [openWidths, Finset.mem_filter, List.mem_toFinset, List.mem_filterMap, List.mem_range,
    and_iff_right_iff_imp]
  rintro ⟨-, j, hj, hwidth, -⟩
  exact ⟨j, hj, hwidth⟩

/-- A further line leaves those blocks open that are no wider than it is, and opens one of its own
width. -/
theorem isOpen_succ_iff {ls : List Text} {n v : Nat} :
    IsOpen ls (n + 1) v ↔
      (0 < v ∧ widthAt ls n = some v) ∨ (IsOpen ls n v ∧ ∀ w ∈ widthAt ls n, v ≤ w) := by
  constructor
  · rintro ⟨hv, j, hj, hwidth, hall⟩
    rcases Nat.lt_succ_iff_lt_or_eq.mp hj with hj | rfl
    · exact .inr ⟨⟨hv, j, hj, hwidth, fun k hk => hall k (by omega)⟩, hall n (by omega) hj⟩
    · exact .inl ⟨hv, hwidth⟩
  · rintro (⟨hv, hwidth⟩ | ⟨⟨hv, j, hj, hwidth, hall⟩, hlast⟩)
    · exact ⟨hv, n, by omega, hwidth, fun k hk hlt => by omega⟩
    · refine ⟨hv, j, by omega, hwidth, fun k hk hlt => ?_⟩
      rcases Nat.lt_succ_iff_lt_or_eq.mp hk with hk | rfl
      · exact hall k hk hlt
      · exact hlast

/-! ## One line -/

/-- Widths of blocks, innermost first: they fall, and none is zero. -/
structure Falls (blocks : List Nat) : Prop where
  pairwise : blocks.Pairwise (· > ·)
  positive : ∀ b ∈ blocks, 0 < b

theorem falls_nil : Falls [] := ⟨List.Pairwise.nil, fun _ hb => absurd hb List.not_mem_nil⟩

section
variable {blocks : List Nat} {width v : Nat}

/-- The first of some widths that fall is the greatest. -/
theorem Falls.le_headD (h : Falls blocks) : ∀ b ∈ blocks, b ≤ blocks.headD 0 := by
  cases blocks with
  | nil => exact fun b hb => absurd hb List.not_mem_nil
  | cons first rest =>
    intro b hb
    rcases List.mem_cons.mp hb with rfl | hb
    · exact Nat.le_refl _
    · exact Nat.le_of_lt ((List.pairwise_cons.mp h.pairwise).1 b hb)

/-- The blocks that a line does not close. -/
theorem Falls.dropWhile_eq (h : Falls blocks) (width : Nat) :
    blocks.dropWhile (fun w => decide (width < w)) = blocks.filter fun w => decide (w ≤ width) := by
  simpa only [Nat.succ_le_iff, Nat.lt_succ_iff] using dropWhile_eq_filter h.pairwise (width + 1)

theorem Falls.filter (h : Falls blocks) (p : Nat → Bool) : Falls (blocks.filter p) :=
  ⟨h.pairwise.filter p, fun b hb => h.positive b (List.mem_of_mem_filter hb)⟩

/-- What is open behind a line: the blocks before it that are no wider, and one of its own width. -/
theorem mem_openAt (h : Falls blocks) :
    v ∈ openAt width blocks ↔ (0 < v ∧ v = width) ∨ (v ∈ blocks ∧ v ≤ width) := by
  have hkept : v ∈ blocks.filter (fun w => decide (w ≤ width)) ↔ v ∈ blocks ∧ v ≤ width := by
    rw [List.mem_filter, decide_eq_true_eq]
  rw [openAt, h.dropWhile_eq]
  split
  · next hwider =>
    have hpositive : 0 < width := Nat.zero_lt_of_lt hwider
    rw [List.mem_cons, hkept]
    refine or_congr_left ⟨?_, And.right⟩
    rintro rfl
    exact ⟨hpositive, rfl⟩
  · next hnarrow =>
    rw [hkept]
    refine ⟨.inr, ?_⟩
    rintro (⟨hv, rfl⟩ | hmem)
    · -- the innermost block that is left has the width of the line
      cases hfirst : blocks.filter (fun w => decide (w ≤ v)) with
      | nil =>
        rw [hfirst] at hnarrow
        exact absurd hv hnarrow
      | cons first rest =>
        rw [hfirst] at hnarrow
        have hmem : first ∈ blocks ∧ first ≤ v := by
          have hin : first ∈ blocks.filter (fun w => decide (w ≤ v)) := hfirst ▸ List.mem_cons_self
          rwa [List.mem_filter, decide_eq_true_eq] at hin
        obtain rfl : first = v := Nat.le_antisymm hmem.2 (Nat.le_of_not_lt hnarrow)
        exact hmem
    · exact hmem

/-- Behind a line the widths of the open blocks still fall. -/
theorem Falls.openAt (h : Falls blocks) : Falls (openAt width blocks) := by
  have hkept : Falls (blocks.filter fun w => decide (w ≤ width)) := h.filter _
  rw [Depth.openAt, h.dropWhile_eq]
  split
  · next hwider =>
    refine ⟨List.Pairwise.cons (fun b hb => ?_) hkept.pairwise, ?_⟩
    · exact Nat.lt_of_le_of_lt (hkept.le_headD b hb) hwider
    · exact List.forall_mem_cons.mpr ⟨Nat.zero_lt_of_lt hwider, hkept.positive⟩
  · exact hkept

end

/-! ## Lines one after the other -/

/-- The blocks that lines leave open, from those that are open before them. -/
def blocksAfter (blocks : List Nat) (ls : List Text) : List Nat :=
  ls.foldl (fun bs line => if line.isBlank then bs else openAt line.indentWidth bs) blocks

/-- The depth of a line behind which some blocks are open, from the depth before it. -/
def lineDepth (before : Nat) (blocks : List Nat) (line : Text) : Depth :=
  if line.isBlank then ⟨before, 0⟩
  else if line.EndsInColon then ⟨blocks.length + 1, blocks.length + 1⟩
  else ⟨blocks.length, 0⟩

theorem indentedFrom_cons (before : Nat) (blocks : List Nat) (line : Text) (ls : List Text) :
    indentedFrom before blocks (line :: ls) =
      lineDepth before (blocksAfter blocks [line]) line ::
        indentedFrom (lineDepth before (blocksAfter blocks [line]) line).after
          (blocksAfter blocks [line]) ls := by
  have hcolon : (line.trimRight.getLast? == some ':') = decide line.EndsInColon := by
    rw [Bool.eq_iff_iff, beq_iff_eq, decide_eq_true_eq, Text.endsInColon_iff]
  rw [indentedFrom, hcolon]
  cases hblank : line.isBlank with
  | true => simp [lineDepth, blocksAfter, hblank]
  | false =>
    by_cases hheader : line.EndsInColon
    · simp [lineDepth, blocksAfter, hblank, hheader]
    · simp [lineDepth, blocksAfter, hblank, hheader]

/-- The depth of each line comes from the depth before it and the blocks that the lines up to it
leave open. -/
theorem getElem?_indentedFrom (before : Nat) (blocks : List Nat) (ls : List Text) (i : Nat) :
    (indentedFrom before blocks ls)[i]? =
      ls[i]?.map (lineDepth ((before :: (indentedFrom before blocks ls).map (·.after)).getD i 0)
        (blocksAfter blocks (ls.take (i + 1)))) := by
  induction ls generalizing before blocks i with
  | nil => rfl
  | cons line ls ih =>
    rw [indentedFrom_cons]
    cases i with
    | zero => rfl
    | succ i =>
      rw [List.getElem?_cons_succ, List.getElem?_cons_succ, ih]
      rfl

/-- The blocks that the first lines of some leave open. -/
def blocksBehind (ls : List Text) (n : Nat) : List Nat := blocksAfter [] (ls.take n)

theorem blocksBehind_succ (ls : List Text) (n : Nat) :
    blocksBehind ls (n + 1) =
      (widthAt ls n).elim (blocksBehind ls n) fun w => openAt w (blocksBehind ls n) := by
  rw [blocksBehind, List.take_add_one, blocksAfter, List.foldl_append, widthAt]
  cases ls[n]? with
  | none => rfl
  | some line =>
    cases hblank : line.isBlank with
    | true => simp [Option.filter, hblank, blocksBehind, blocksAfter]
    | false => simp [Option.filter, hblank, blocksBehind, blocksAfter]

theorem falls_blocksBehind (ls : List Text) (n : Nat) : Falls (blocksBehind ls n) := by
  induction n with
  | zero => exact falls_nil
  | succ n ih =>
    rw [blocksBehind_succ]
    cases widthAt ls n with
    | none => exact ih
    | some w => exact ih.openAt

theorem mem_blocksBehind {ls : List Text} {n v : Nat} :
    v ∈ blocksBehind ls n ↔ IsOpen ls n v := by
  induction n with
  | zero => simp [blocksBehind, blocksAfter, IsOpen]
  | succ n ih =>
    rw [blocksBehind_succ, isOpen_succ_iff]
    cases widthAt ls n with
    | none => simpa using ih
    | some w => simp [mem_openAt (falls_blocksBehind ls n), ih, eq_comm (a := w)]

theorem length_blocksBehind (ls : List Text) (i : Nat) :
    (blocksBehind ls (i + 1)).length = level ls i := by
  have hnodup : (blocksBehind ls (i + 1)).Nodup :=
    (falls_blocksBehind ls (i + 1)).pairwise.imp fun h => Nat.ne_of_gt h
  have hsame : openWidths ls (i + 1) = (blocksBehind ls (i + 1)).toFinset := by
    ext v
    rw [mem_openWidths, List.mem_toFinset, mem_blocksBehind]
  rw [level, hsame, List.toFinset_card_of_nodup hnodup]

/-! ## From one line to the next -/

section
variable {blocks : List Nat} {width : Nat}

theorem length_openAt_le (width : Nat) (blocks : List Nat) :
    (openAt width blocks).length ≤ blocks.length + 1 := by
  have hkept := (List.dropWhile_sublist (l := blocks) fun w => decide (width < w)).length_le
  rw [openAt]
  split
  · exact Nat.succ_le_succ hkept
  · exact Nat.le_succ_of_le hkept

/-- A line that is no wider than the innermost block closes it, or goes on with it. -/
theorem length_openAt_le_of_le (h : width ≤ blocks.headD 0) :
    (openAt width blocks).length ≤ blocks.length := by
  cases blocks with
  | nil =>
    obtain rfl : width = 0 := Nat.le_zero.mp h
    exact Nat.le_refl 0
  | cons first rest =>
    rcases Nat.lt_or_eq_of_le h with hlt | rfl
    · have hdrop : openAt width (first :: rest) = openAt width rest := by
        rw [openAt, List.dropWhile_cons_of_pos (by simpa using hlt)]
        rfl
      rw [hdrop]
      exact length_openAt_le width rest
    · simp [openAt]

/-- Behind a line the innermost block has its width. -/
theorem Falls.headD_openAt (h : Falls blocks) : (Depth.openAt width blocks).headD 0 = width := by
  have hle : (Depth.openAt width blocks).headD 0 ≤ width := by
    cases hopen : Depth.openAt width blocks with
    | nil => exact Nat.zero_le _
    | cons first rest =>
      have hfirst : first ∈ Depth.openAt width blocks := hopen ▸ List.mem_cons_self
      rcases (mem_openAt h).mp hfirst with ⟨-, rfl⟩ | ⟨-, hle⟩
      · exact Nat.le_refl _
      · exact hle
  rcases Nat.eq_zero_or_pos width with rfl | hpos
  · exact Nat.le_zero.mp hle
  · exact Nat.le_antisymm hle (h.openAt.le_headD width ((mem_openAt h).mpr (.inl ⟨hpos, rfl⟩)))

end

section
variable {ls : List Text} {i j v w : Nat}

/-- Blank lines leave the blocks as they are. -/
theorem blocksBehind_eq (hle : i ≤ j) (h : ∀ k, i ≤ k → k < j → widthAt ls k = none) :
    blocksBehind ls j = blocksBehind ls i := by
  induction j, hle using Nat.le_induction with
  | base => rfl
  | succ j hle ih =>
    rw [blocksBehind_succ, h j hle (Nat.lt_succ_self j)]
    exact ih fun k hik hkj => h k hik (Nat.lt_succ_of_lt hkj)

theorem level_eq (h : widthAt ls i = some w) :
    level ls i = (openAt w (blocksBehind ls i)).length := by
  rw [← length_blocksBehind, blocksBehind_succ, h]
  rfl

/-- The first line that is not blank opens one block at most. -/
theorem level_le_one (h : widthAt ls i = some w) (hfirst : ∀ k < i, widthAt ls k = none) :
    level ls i ≤ 1 := by
  rw [level_eq h, blocksBehind_eq (Nat.zero_le i) fun k _ => hfirst k]
  exact length_openAt_le w []

/-- So does any other, and none if it is no wider than the line before it that is not blank. -/
theorem level_le (hj : widthAt ls j = some v) (hi : widthAt ls i = some w) (hlt : j < i)
    (hbetween : ∀ k, j < k → k < i → widthAt ls k = none) :
    level ls i ≤ level ls j + 1 ∧ (w ≤ v → level ls i ≤ level ls j) := by
  have hbefore : blocksBehind ls i = blocksBehind ls (j + 1) := blocksBehind_eq hlt hbetween
  rw [level_eq hi, hbefore, ← length_blocksBehind ls j]
  refine ⟨length_openAt_le w _, fun hle => length_openAt_le_of_le ?_⟩
  rw [blocksBehind_succ, hj]
  exact hle.trans_eq (falls_blocksBehind ls j).headD_openAt.symm

end

/-! ## The depths of lines -/

/-- The depths of any indented lines. A line that is not blank has as many blocks open as there are
widths above zero that one of the lines up to it has and no later one goes below, blank lines
aside. That is its depth, and one more, which is also its peak, if it ends in a colon. A blank line
repeats the depth of the line before it. -/
theorem indented_eq_levels (ls : List Text) :
    indented ls = ls.mapIdx (fun i line =>
        if line.isBlank then ⟨(0 :: (indented ls).map (·.after)).getD i 0, 0⟩
        else if line.EndsInColon then ⟨level ls i + 1, level ls i + 1⟩
        else ⟨level ls i, 0⟩) ∧
      ∀ n v, v ∈ openWidths ls n ↔
        0 < v ∧ ∃ j < n, widthAt ls j = some v ∧ ∀ k < n, j < k → ∀ w ∈ widthAt ls k, v ≤ w := by
  refine ⟨List.ext_getElem? fun i => ?_, fun n v => mem_openWidths⟩
  have hlevel : (blocksAfter [] (ls.take (i + 1))).length = level ls i := length_blocksBehind ls i
  rw [indented, getElem?_indentedFrom, List.getElem?_mapIdx]
  refine congrArg (Option.map · ls[i]?) (funext fun line => ?_)
  rw [lineDepth, hlevel]

/-- A line that goes back to a width between those of two open blocks opens one of its own. -/
example : indented (["a:", "        b:", "    c", "  d", "", "      e"].map String.toList) =
    [⟨1, 1⟩, ⟨2, 2⟩, ⟨1, 0⟩, ⟨1, 0⟩, ⟨1, 0⟩, ⟨2, 0⟩] := by decide

end Depth
end SourceAudit
