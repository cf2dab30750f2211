import Mathlib.Data.Finset.Lattice.Fold
import Mathlib.Data.List.GetD
import Mathlib.Data.List.Induction
import Mathlib.Order.Lattice.Nat
import SourceAudit.Complexity.LoopDepth
import SourceAudit.Language.Python
import SourceAudit.Proofs.Source.IndentDepths

/-!
  The depth of loops among indented lines.

  A line stands in a loop if every line behind the loop's own, up to that line, is
  indented deeper (`Encloses`). A line is as deep as the loops that it stands in, its
  own included, with its further clauses (`nesting`). The scan sees each line once and
  keeps the widths of some loops. What is proved:
    1. `openWidths_append` — a line drops the widths that are not below its own from
       those that are kept, and a loop adds its own: so these are the widths of the
       loops that the last line stands in.
    2. `ofLinesFrom_append` — the scan over further lines goes on from these widths and
       the deepest nesting so far, and keeps both.
    3. `depth_of_indented` — so the depth of a source is that of its deepest line.
-/
namespace SourceAudit.Indented

open LoopDepth

variable (head : Pattern)

/-- The line with an index, counted from zero; an empty one where there is none. -/
def row (ls : List Text) (i : Nat) : Text := ls.getD i []

/-- Whether a line begins with the head of a loop. -/
def IsLoop (line : Text) : Prop := line.isBlank = false ∧ (head.matchStart? line).isSome = true

/-- Whether line `j` begins a loop in which line `i` stands: every line after `j` up to `i` that
is not blank is indented deeper than `j`. A loop stands in itself. -/
def Encloses (ls : List Text) (j i : Nat) : Prop :=
  j ≤ i ∧ IsLoop head (row ls j) ∧
    ∀ k ≤ i, j < k → (row ls k).isBlank = false →
      (row ls j).indentWidth < (row ls k).indentWidth

instance (line : Text) : Decidable (IsLoop head line) :=
  inferInstanceAs (Decidable (_ ∧ _))

instance (ls : List Text) (j i : Nat) : Decidable (Encloses head ls j i) :=
  inferInstanceAs (Decidable (_ ∧ _ ∧ _))

/-- The loops that a line begins in expressions: one clause is that of its own head. -/
def inlined (line : Text) : Nat :=
  if IsLoop head line then inlineForm.count line - 1 else inlineForm.count line

/-- The number of loops in which a line stands, and of those that it begins in expressions. -/
def nesting (ls : List Text) (i : Nat) : Nat :=
  (List.range (i + 1)).countP (fun j => Encloses head ls j i) + inlined head (row ls i)

/-- The nesting of the deepest line that is not blank; zero if there is none. -/
def deepest (ls : List Text) : Nat :=
  ((Finset.range ls.length).filter fun i => (row ls i).isBlank = false).sup (nesting head ls)

/-! ## The loops of the last line -/

/-- Whether a line begins a loop in which the last line stands. -/
def IsOpen (ls : List Text) (j : Nat) : Prop :=
  IsLoop head (row ls j) ∧
    ∀ k < ls.length, j < k → (row ls k).isBlank = false →
      (row ls j).indentWidth < (row ls k).indentWidth

instance (ls : List Text) (j : Nat) : Decidable (IsOpen head ls j) :=
  inferInstanceAs (Decidable (_ ∧ _))

/-- The widths of the loops in which the last line stands, innermost first. -/
def openWidths (ls : List Text) : List Nat :=
  ((List.range ls.length).filter fun j => IsOpen head ls j).reverse.map
    fun j => (row ls j).indentWidth

section
variable (ls : List Text) (line : Text)

theorem row_append_of_lt {i : Nat} (h : i < ls.length) : row (ls ++ [line]) i = row ls i :=
  List.getD_append _ _ _ _ h

theorem row_append_self : row (ls ++ [line]) ls.length = line := by
  simp [row]

/-- A loop stays open behind one more line if the line is blank or indented deeper. -/
theorem isOpen_append_iff {j : Nat} (h : j < ls.length) :
    IsOpen head (ls ++ [line]) j ↔
      IsOpen head ls j ∧ (line.isBlank = false → (row ls j).indentWidth < line.indentWidth) := by
  unfold IsOpen
  rw [row_append_of_lt ls line h, and_assoc, List.length_append, List.length_singleton]
  refine and_congr_right fun _ => ⟨fun hall => ⟨fun k hk hjk hblank => ?_, fun hblank => ?_⟩,
    fun ⟨hall, hlast⟩ k hk hjk hblank => ?_⟩
  · have hdeeper := hall k (by omega) hjk
    rw [row_append_of_lt ls line hk] at hdeeper
    exact hdeeper hblank
  · have hdeeper := hall ls.length (by omega) h
    rw [row_append_self] at hdeeper
    exact hdeeper hblank
  · rcases Nat.lt_succ_iff_lt_or_eq.mp hk with hk | rfl
    · rw [row_append_of_lt ls line hk] at hblank ⊢
      exact hall k hk hjk hblank
    · rw [row_append_self] at hblank ⊢
      exact hlast hblank

/-- A line is open at itself if it begins a loop. -/
theorem isOpen_append_self : IsOpen head (ls ++ [line]) ls.length ↔ IsLoop head line := by
  unfold IsOpen
  rw [row_append_self, List.length_append, List.length_singleton]
  exact and_iff_left fun k hk hlt => by omega

/-- The widths of open loops behind one more line: those of the loops that stay open, and in front
of them the line's own if it begins one. -/
theorem openWidths_append :
    openWidths head (ls ++ [line]) =
      (if IsLoop head line then [line.indentWidth] else []) ++
        (openWidths head ls).filter fun w => line.isBlank || decide (w < line.indentWidth) := by
  have hkept : (List.range ls.length).filter (fun j => IsOpen head (ls ++ [line]) j) =
      ((List.range ls.length).filter fun j => IsOpen head ls j).filter
        fun j => line.isBlank || decide ((row ls j).indentWidth < line.indentWidth) := by
    rw [List.filter_filter]
    refine List.filter_congr fun j hj => ?_
    rw [Bool.eq_iff_iff, Bool.and_eq_true, Bool.or_eq_true, decide_eq_true_eq, decide_eq_true_eq,
      decide_eq_true_eq, isOpen_append_iff head ls line (List.mem_range.mp hj), and_comm,
      ← Bool.not_eq_true, ← or_iff_not_imp_left]
  have hself : [ls.length].filter (fun j => IsOpen head (ls ++ [line]) j) =
      if IsLoop head line then [ls.length] else [] := by
    simp only [List.filter_singleton, isOpen_append_self, Bool.cond_decide]
  have hwidths : ∀ j ∈ ((List.range ls.length).filter fun j => IsOpen head ls j).filter
      (fun j => line.isBlank || decide ((row ls j).indentWidth < line.indentWidth)),
      (row (ls ++ [line]) j).indentWidth = (row ls j).indentWidth := by
    intro j hj
    have hlt := List.mem_range.mp (List.mem_of_mem_filter (List.mem_of_mem_filter hj))
    rw [row_append_of_lt ls line hlt]
  rw [openWidths, openWidths, List.length_append, List.length_singleton, List.range_succ,
    List.filter_append, List.reverse_append, List.map_append, hself, hkept]
  congr 1
  · split
    · simp [row_append_self]
    · rfl
  · rw [List.map_reverse, List.map_congr_left hwidths, List.map_reverse, List.filter_reverse,
      List.filter_map]
    rfl

end

/-- Inner loops are wider. -/
theorem pairwise_openWidths (ls : List Text) : (openWidths head ls).Pairwise (· > ·) := by
  induction ls using List.reverseRecOn with
  | nil => exact List.Pairwise.nil
  | append_singleton ls line ih =>
    rw [openWidths_append]
    split
    · next hloop =>
      -- what stays open is below the width of the new loop
      refine List.Pairwise.cons (fun w hw => ?_) (ih.filter _)
      simpa [hloop.1] using (List.mem_filter.mp hw).2
    · exact ih.filter _

/-! ## The deepest line -/

section
variable (ls : List Text) (line : Text)

/-- What comes behind a line has no part in its nesting. -/
theorem nesting_append_of_lt {i : Nat} (h : i < ls.length) :
    nesting head (ls ++ [line]) i = nesting head ls i := by
  have hcount : ∀ j ∈ List.range (i + 1),
      (Encloses head (ls ++ [line]) j i ↔ Encloses head ls j i) := by
    intro j hj
    have hle := Nat.lt_succ_iff.mp (List.mem_range.mp hj)
    unfold Encloses
    rw [row_append_of_lt ls line (by omega)]
    refine and_congr_right fun _ => and_congr_right fun _ => ?_
    refine forall_congr' fun k => forall_congr' fun hk => ?_
    rw [row_append_of_lt ls line (by omega)]
  rw [nesting, nesting, row_append_of_lt ls line h]
  congr 1
  refine List.countP_congr fun j hj => ?_
  simpa using hcount j hj

/-- The last line stands in the loops that are open. -/
theorem nesting_append_self :
    nesting head (ls ++ [line]) ls.length =
      (openWidths head (ls ++ [line])).length + inlined head line := by
  have hcount : ∀ j ∈ List.range (ls.length + 1),
      (Encloses head (ls ++ [line]) j ls.length ↔ IsOpen head (ls ++ [line]) j) := by
    intro j hj
    have hle := Nat.lt_succ_iff.mp (List.mem_range.mp hj)
    unfold Encloses IsOpen
    rw [List.length_append, List.length_singleton, and_iff_right hle]
    simp only [Nat.lt_succ_iff]
  rw [nesting, row_append_self, openWidths, List.length_map, List.length_reverse,
    List.length_append, List.length_singleton, ← List.countP_eq_length_filter]
  congr 1
  refine List.countP_congr fun j hj => ?_
  simpa using hcount j hj

theorem deepest_append :
    deepest head (ls ++ [line]) =
      if line.isBlank then deepest head ls
      else max (deepest head ls) ((openWidths head (ls ++ [line])).length + inlined head line) := by
  have hbefore : ((Finset.range ls.length).filter fun i => (row (ls ++ [line]) i).isBlank = false) =
      (Finset.range ls.length).filter fun i => (row ls i).isBlank = false := by
    refine Finset.filter_congr fun i hi => ?_
    rw [row_append_of_lt ls line (Finset.mem_range.mp hi)]
  have hsame : ((Finset.range ls.length).filter fun i => (row ls i).isBlank = false).sup
      (nesting head (ls ++ [line])) = deepest head ls := by
    refine Finset.sup_congr rfl fun i hi => ?_
    exact nesting_append_of_lt head ls line (Finset.mem_range.mp (Finset.mem_filter.mp hi).1)
  rw [deepest, List.length_append, List.length_singleton, Finset.range_add_one,
    Finset.filter_insert, row_append_self, hbefore]
  cases line.isBlank with
  | true => simpa using hsame
  | false =>
    rw [if_pos rfl, Finset.sup_insert, hsame, nesting_append_self, if_neg (by simp)]
    exact max_comm _ _

end

/-- No more loops are open than the deepest line so far stands in. -/
theorem length_openWidths_le (ls : List Text) :
    (openWidths head ls).length ≤ deepest head ls := by
  induction ls using List.reverseRecOn with
  | nil => exact Nat.le_refl 0
  | append_singleton ls line ih =>
    rw [deepest_append]
    split
    · next hblank =>
      have hloop : ¬ IsLoop head line := fun h => by simp [h.1] at hblank
      simpa [openWidths_append, hloop, hblank] using ih
    · omega

/-! ## The scan -/

/-- The scan goes on from the open loops and the deepest line of what is behind it. -/
theorem ofLinesFrom_append (done rest : List Text) :
    ofLinesFrom head (openWidths head done) (deepest head done) rest =
      deepest head (done ++ rest) := by
  induction rest generalizing done with
  | nil => rw [ofLinesFrom, List.append_nil]
  | cons line rest ih =>
    have hnext := ih (done ++ [line])
    rw [List.append_assoc, List.singleton_append] at hnext
    rw [← hnext, ofLinesFrom, deepest_append, openWidths_append]
    cases hblank : line.isBlank with
    | true =>
      have hloop : ¬ IsLoop head line := fun h => by simp [h.1] at hblank
      simp [hloop]
    | false =>
      have hdrop := dropWhile_eq_filter (pairwise_openWidths head done) line.indentWidth
      have hiff : IsLoop head line ↔ (head.matchStart? line).isSome = true :=
        and_iff_right hblank
      have hopen := length_openWidths_le head done
      have hkept : ((openWidths head done).filter fun w => decide (w < line.indentWidth)).length ≤
          (openWidths head done).length := List.length_filter_le _ _
      simp only [hdrop, inlined, hiff, Bool.false_or, Bool.false_eq_true, if_false]
      by_cases hloop : (head.matchStart? line).isSome = true
      · simp only [hloop, if_true, List.singleton_append]
      · simp only [hloop, Bool.false_eq_true, if_false, List.nil_append, beq_iff_eq]
        split
        · next hnone =>
          -- a line without a loop of its own is no deeper than one before it
          rw [hnone, Nat.add_zero, Nat.max_eq_left (Nat.le_trans hkept hopen)]
        · rfl

/-- The depth of the loops of a source in Python is the nesting of its deepest line. -/
theorem depth_of_indented (t : Text) :
    LoopDepth.ofSource (prepare Language.python t) =
      deepest (headForm Language.python.loopWords) (prepare Language.python t).maskedLines := by
  have hscan := ofLinesFrom_append (headForm Language.python.loopWords) []
    (prepare Language.python t).maskedLines
  exact hscan

end SourceAudit.Indented
