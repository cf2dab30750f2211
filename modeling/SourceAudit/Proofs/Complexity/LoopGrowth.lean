import SourceAudit.Complexity.Estimate
import SourceAudit.Language.Python
import SourceAudit.Proofs.Complexity.LoopRun
import SourceAudit.Proofs.Complexity.QuietText
import SourceAudit.Proofs.Source.PreparedLines
import SourceAudit.Proofs.Text.JoinedLines

/-!
  The order of growth of a source and the depth of its loops.

  What is proved:
    1. `time_growth_of_loopsOnly` — if no function calls itself and none of the forms that
       change an estimate occurs (`Prepared.LoopsOnly`), every rule after the first leaves
       the growth as it is, and the depth of the loops decides.
    2. `bySorting_of_nested`, `bySearch_of_nested`, `byMerging_of_nested` — an estimate at
       least as high as that of two nested loops is left as it is by these rules, if no
       function calls itself more than once. Work on matrices only raises an estimate
       (`byMatrices_growth`).
    3. `time_growth_of_branching` — an estimate from branching recursion has taken the
       place of that from the loops, and a search or a merge takes its place in turn.
    4. `time_lt_ofLoopDepth_iff` — so nested loops are estimated below their depth in this
       one way; `search_below_loops` is a source of this kind.
-/
namespace SourceAudit

/-- The order of growth of loops that are nested so deep. -/
def Growth.ofLoopDepth : Nat → Growth
  | 0 => .constant
  | 1 => .linear
  | 2 => .quadratic
  | 3 => .cubic
  | _ + 4 => .quartic

theorem Growth.ofLoopDepth_eq_constant_iff (n : Nat) : ofLoopDepth n = .constant ↔ n = 0 := by
  match n with
  | 0 | 1 | 2 | 3 | n + 4 => simp [ofLoopDepth]

/-- The forms that may change an estimate of time: of sorting, of searching, of dividing, of
merging, and of work on matrices. -/
def Estimate.timeForms : List (List Pattern) :=
  [sortForms, binarySearchForms, divideForms, mergeForms, matrixForms]

/-- Nothing but its loops bears on the time of a source. -/
structure Prepared.LoopsOnly (p : Prepared) : Prop where
  noRecursion : (Recursion.ofSource p).recursive = []
  noForms : ∀ forms ∈ Estimate.timeForms, Pattern.anyOccurs forms p.masked = false

namespace Estimate

theorem byLoops_growth (depth : Nat) (names : List Text) :
    (byLoops depth names {}).growth = Growth.ofLoopDepth depth := by
  unfold byLoops
  match depth with
  | 0 | 1 | 3 => rfl
  | 2 =>
    simp only [Nat.reduceLeDiff, if_false, Nat.reduceBEq, Bool.false_eq_true, if_true]
    split <;> rfl
  | n + 4 => simp [because, Growth.ofLoopDepth]

/-- Where no function calls itself, none does so more than once. -/
theorem branching_eq_nil {p : Prepared} (h : (Recursion.ofSource p).recursive = []) :
    (Recursion.ofSource p).branching = [] := by
  simp only [Recursion.ofSource, List.map_eq_nil_iff, List.filter_eq_nil_iff,
    decide_eq_true_eq] at h ⊢
  intro c hc hlt
  exact h c hc (by omega)

/-- The loops decide where nothing else bears on the time. -/
theorem time_growth {p : Prepared} (h : p.LoopsOnly) :
    (time p (Recursion.ofSource p)).growth = Growth.ofLoopDepth (LoopDepth.ofSource p) := by
  have hbranching := branching_eq_nil h.noRecursion
  have hforms := h.noForms
  simp only [timeForms, List.forall_mem_cons, List.not_mem_nil, false_imp_iff, implies_true,
    and_true] at hforms
  obtain ⟨hsort, hsearch, hdivide, hmerge, hmatrix⟩ := hforms
  simp only [time, byRecursion, bySorting, bySearch, byMerging, byMatrices, hbranching,
    h.noRecursion, hsort, hsearch, hdivide, hmerge, hmatrix, List.isEmpty_nil, Bool.not_true,
    Bool.and_false, Bool.false_eq_true, if_false, byLoops_growth]

end Estimate

namespace LoopDepth

/-- Blanks hold no loop. -/
theorem ofSource_of_isBlank {l : Language} {t : Text} (hbraces : l.usesBraces = true)
    (h : t.isBlank = true) : ofSource (prepare l t) = 0 := by
  have hblank : (prepare l t).masked.isBlank = true := mask_isBlank h
  have htokens : LoopToken.all (l.loopWords.map String.toList) ((prepare l t).masked ++ []) = [] :=
    LoopToken.all_blank_append hblank []
  rw [List.append_nil] at htokens
  have hlanguage : (prepare l t).language = l := rfl
  rw [ofSource, hlanguage, if_pos hbraces, htokens]
  rfl

end LoopDepth

/-- The order of growth of a source whose loops alone bear on its time. -/
theorem Complexity.time_growth_of_loopsOnly {l : Language} {t : Text} (hbraces : l.usesBraces = true)
    (h : (prepare l t).LoopsOnly) :
    (Complexity.ofSource (prepare l t)).time.growth =
      Growth.ofLoopDepth (LoopDepth.ofSource (prepare l t)) := by
  unfold Complexity.ofSource
  split
  · rename_i hblank
    rw [LoopDepth.ofSource_of_isBlank (t := t) hbraces hblank]
    rfl
  · exact Estimate.time_growth h

/-! ## Nested loops among other signs -/

theorem Growth.rank_ofLoopDepth {n : Nat} (h : 2 ≤ n) : (ofLoopDepth n).rank = min (n + 2) 6 := by
  match n with
  | 2 | 3 => rfl
  | n + 4 =>
    have hmin : min (n + 4 + 2) 6 = 6 := Nat.min_eq_right (by omega)
    rw [hmin]
    rfl

namespace LoopDepth

/-- Blank lines hold no loop. -/
theorem ofLinesFrom_of_isBlank (head : Pattern) (widths : List Nat) (deepest : Nat)
    {ls : List Text} (h : ∀ row ∈ ls, row.isBlank = true) :
    ofLinesFrom head widths deepest ls = deepest := by
  induction ls with
  | nil => rfl
  | cons row ls ih =>
    obtain ⟨hrow, hls⟩ := List.forall_mem_cons.mp h
    rw [ofLinesFrom, if_pos hrow]
    exact ih hls

/-- A source with loops is not blank. -/
theorem isBlank_of_pos {l : Language} {t : Text} (h : 0 < ofSource (prepare l t)) :
    (prepare l t).isBlank = false := by
  by_contra hblank
  rw [Bool.not_eq_false] at hblank
  cases hbraces : l.usesBraces with
  | true =>
    rw [ofSource_of_isBlank (t := t) hbraces hblank] at h
    cases h
  | false =>
    have hlines : ∀ row ∈ (prepare l t).maskedLines, row.isBlank = true := by
      intro row hrow
      apply List.all_eq_true.mpr
      intro c hc
      have hmasked : (prepare l t).masked.isBlank = true := mask_isBlank hblank
      exact List.all_eq_true.mp hmasked c (Text.mem_of_mem_lines hrow hc)
    have hlanguage : (prepare l t).language.usesBraces = false := hbraces
    rw [ofSource, hlanguage, if_neg Bool.false_ne_true, ofLinesFrom_of_isBlank _ _ _ hlines] at h
    cases h

end LoopDepth

namespace Estimate

variable {e : Estimate} {r : Recursion} (t : Text)

/-- Whether a text has a sign of a search that halves its range, or of a merge of halves. -/
def halves (t : Text) : Bool :=
  Pattern.anyOccurs binarySearchForms t || Pattern.anyOccurs mergeForms t

/-- Whether a text has a sign of work on matrices. -/
def onMatrices (t : Text) : Bool := Pattern.anyOccurs matrixForms t

/-- The order of growth of nested loops in a text, without branching recursion. -/
def ofNested (depth : Nat) (t : Text) : Growth :=
  if onMatrices t && depth == 2 then .cubic else .ofLoopDepth depth

/-- The order of growth of branching recursion in a text. -/
def ofBranching (t : Text) : Growth :=
  if halves t then
    if onMatrices t then .cubic
    else if Pattern.anyOccurs mergeForms t then .linearithmic
    else .logarithmic
  else .exponential

/-- Whether an estimate is at least that of two nested loops. -/
def IsNested (e : Estimate) : Prop := Growth.quadratic.rank ≤ e.growth.rank

theorem IsNested.ne_of_lt (h : e.IsNested) {g : Growth} (hg : g.rank < Growth.quadratic.rank) :
    e.growth ≠ g := by
  rintro rfl
  exact absurd h (Nat.not_le_of_lt hg)

theorem IsNested.not_lt (h : e.IsNested) {g : Growth} (hg : g.rank ≤ Growth.quadratic.rank) :
    ¬ e.growth.rank < g.rank :=
  Nat.not_lt_of_le (Nat.le_trans hg h)

theorem IsNested.isSimple (h : e.IsNested) : e.isSimple = false := by
  have hconstant : e.growth ≠ .constant := h.ne_of_lt (by decide)
  have hlinear : e.growth ≠ .linear := h.ne_of_lt (by decide)
  simp [Estimate.isSimple, hconstant, hlinear]

/-- Recursion that does not branch leaves the growth of nested loops as it is. -/
theorem byRecursion_of_nested (h : e.IsNested) (hr : r.branching = []) :
    (byRecursion r e).growth = e.growth := by
  have hlinear : ¬ e.growth.rank < Growth.linear.rank := h.not_lt (by decide)
  unfold byRecursion
  rw [hr]
  show (if (!r.recursive.isEmpty) = true then _ else e).growth = e.growth
  split
  · rw [raiseTo, if_neg hlinear]
    rfl
  · rfl

theorem bySorting_of_nested (h : e.IsNested) : bySorting t e = e := by
  rw [bySorting, h.isSimple]
  rfl

theorem bySearch_of_nested (h : e.IsNested) (hr : r.branching = []) : bySearch t r e = e := by
  have hconstant : (e.growth == .constant) = false := beq_false_of_ne (h.ne_of_lt (by decide))
  rw [bySearch, h.isSimple, hr, hconstant]
  rfl

theorem byMerging_of_nested (h : e.IsNested) (hr : r.branching = []) : byMerging t r e = e := by
  have hlow : ¬ e.growth.rank < Growth.linearithmic.rank := h.not_lt (by decide)
  rw [byMerging, hr, decide_eq_false hlow]
  rfl

/-- Work on matrices raises what is lower. -/
theorem byMatrices_growth (e : Estimate) :
    (byMatrices t e).growth =
      if onMatrices t && decide (e.growth.rank < Growth.cubic.rank) then .cubic else e.growth := by
  rw [byMatrices, onMatrices, Bool.and_comm]
  split <;> rfl

/-- Without branching recursion nested loops have the growth of their depth; two of them that work
on matrices count as three. -/
theorem time_growth_of_nested {p : Prepared} (hdepth : 2 ≤ LoopDepth.ofSource p)
    (hr : r.branching = []) : (time p r).growth = ofNested (LoopDepth.ofSource p) p.masked := by
  let first := byLoops (LoopDepth.ofSource p) (LoopDepth.loopNames p.masked) {}
  have hfirst : first.growth = Growth.ofLoopDepth (LoopDepth.ofSource p) := byLoops_growth _ _
  have hrank := Growth.rank_ofLoopDepth hdepth
  have hnested : first.IsNested := by
    have hquadratic : Growth.quadratic.rank = 4 := rfl
    rw [IsNested, hfirst, hrank, hquadratic]
    omega
  have hgrowth : (byRecursion r first).growth = Growth.ofLoopDepth (LoopDepth.ofSource p) :=
    (byRecursion_of_nested hnested hr).trans hfirst
  have hkept : (byRecursion r first).IsNested := by rwa [IsNested, hgrowth, ← hfirst]
  -- of the later rules only the last one can change the estimate, and only if it is quadratic
  have hlow : decide ((Growth.ofLoopDepth (LoopDepth.ofSource p)).rank < Growth.cubic.rank) =
      (LoopDepth.ofSource p == 2) := by
    have hcubic : Growth.cubic.rank = 5 := rfl
    rw [hrank, hcubic, Bool.eq_iff_iff, decide_eq_true_eq, beq_iff_eq]
    omega
  calc (time p r).growth
      = (byMatrices p.masked (byMerging p.masked r
          (bySearch p.masked r (bySorting p.masked (byRecursion r first))))).growth := rfl
    _ = (byMatrices p.masked (byRecursion r first)).growth := by
        rw [bySorting_of_nested _ hkept, bySearch_of_nested _ hkept hr,
          byMerging_of_nested _ hkept hr]
    _ = ofNested (LoopDepth.ofSource p) p.masked := by
        rw [byMatrices_growth, hgrowth, hlow, ofNested]

/-! ### Branching recursion -/

theorem byRecursion_of_branching (hr : r.branching ≠ []) (e : Estimate) :
    (byRecursion r e).growth = .exponential := by
  have hbranches : (!r.branching.isEmpty) = true := by simpa using hr
  rw [byRecursion, if_pos hbranches]
  rfl

/-- A search takes the place of what stands for branching recursion. -/
theorem bySearch_of_branching (hr : r.branching ≠ []) (he : e.growth = .exponential) :
    (bySearch t r e).growth =
      if Pattern.anyOccurs binarySearchForms t then .logarithmic else .exponential := by
  have hbranches : (e.isSimple || !r.branching.isEmpty) = true := by simp [hr]
  have hconstant : (e.growth == .constant) = false := by rw [he]; rfl
  rw [bySearch, hbranches, hconstant, Bool.true_and, Bool.false_and, if_neg Bool.false_ne_true]
  split
  · rfl
  · exact he

/-- So does a merge. -/
theorem byMerging_of_branching (hr : r.branching ≠ []) (e : Estimate) :
    (byMerging t r e).growth =
      if Pattern.anyOccurs mergeForms t then .linearithmic else e.growth := by
  have hbranches : (!r.branching.isEmpty || decide (e.growth.rank < Growth.linearithmic.rank)) =
      true := by simp [hr]
  rw [byMerging, hbranches, Bool.true_and]
  split <;> rfl

/-- With branching recursion the loops do not bear on the growth. -/
theorem time_growth_of_branching (p : Prepared) (hr : r.branching ≠ []) :
    (time p r).growth = ofBranching p.masked := by
  let second := byRecursion r (byLoops (LoopDepth.ofSource p) (LoopDepth.loopNames p.masked) {})
  have hsecond : second.growth = .exponential := byRecursion_of_branching hr _
  have hnested : second.IsNested := by
    rw [IsNested, hsecond]
    decide
  calc (time p r).growth
      = (byMatrices p.masked (byMerging p.masked r
          (bySearch p.masked r (bySorting p.masked second)))).growth := rfl
    _ = (byMatrices p.masked (byMerging p.masked r (bySearch p.masked r second))).growth := by
        rw [bySorting_of_nested _ hnested]
    _ = ofBranching p.masked := by
        rw [byMatrices_growth, byMerging_of_branching _ hr, bySearch_of_branching _ hr hsecond,
          ofBranching, halves]
        cases Pattern.anyOccurs binarySearchForms p.masked <;>
          cases Pattern.anyOccurs mergeForms p.masked <;> cases onMatrices p.masked <;> rfl

theorem ofLoopDepth_le_ofNested {depth : Nat} (h : 2 ≤ depth) :
    (Growth.ofLoopDepth depth).rank ≤ (ofNested depth t).rank := by
  rw [ofNested]
  split
  · next htwo =>
    obtain rfl : depth = 2 := by simpa using (Bool.and_eq_true_iff.mp htwo).2
    decide
  · exact Nat.le_refl _

/-- Branching recursion ranks below nested loops if a search or a merge has taken its place, unless
the loops are at most three and work on matrices. -/
theorem ofBranching_lt_ofLoopDepth_iff {depth : Nat} (h : 2 ≤ depth) :
    (ofBranching t).rank < (Growth.ofLoopDepth depth).rank ↔
      halves t = true ∧ (onMatrices t = true → 3 < depth) := by
  rw [Growth.rank_ofLoopDepth h, ofBranching]
  cases halves t with
  | false =>
    refine iff_of_false ?_ (fun hbelow => Bool.false_ne_true hbelow.1)
    show ¬ 7 < min (depth + 2) 6
    omega
  | true =>
    cases onMatrices t with
    | true =>
      show 5 < min (depth + 2) 6 ↔ true = true ∧ (true = true → 3 < depth)
      simp only [forall_const, true_and]
      omega
    | false =>
      refine iff_of_true ?_ ⟨rfl, fun hfalse => absurd hfalse Bool.false_ne_true⟩
      cases Pattern.anyOccurs mergeForms t with
      | true => show 3 < min (depth + 2) 6; omega
      | false => show 1 < min (depth + 2) 6; omega

end Estimate

/-- Of a source with nested loops. Without branching recursion its time has the growth of the depth
of the loops, at least; with branching recursion it is exponential whatever the depth, unless a search
or a merge takes its place. So the time ranks below the loops in this case alone: there is branching
recursion and a sign of a search or a merge, and if there is one of matrices, the loops are more than
three. -/
theorem Complexity.time_lt_ofLoopDepth_iff (l : Language) (t : Text)
    (h : 2 ≤ LoopDepth.ofSource (prepare l t)) :
    ((Recursion.ofSource (prepare l t)).branching = [] →
        (Complexity.ofSource (prepare l t)).time.growth =
          Estimate.ofNested (LoopDepth.ofSource (prepare l t)) (prepare l t).masked) ∧
      ((Recursion.ofSource (prepare l t)).branching ≠ [] →
        (Complexity.ofSource (prepare l t)).time.growth =
          Estimate.ofBranching (prepare l t).masked) ∧
      ((Complexity.ofSource (prepare l t)).time.growth.rank <
          (Growth.ofLoopDepth (LoopDepth.ofSource (prepare l t))).rank ↔
        (Recursion.ofSource (prepare l t)).branching ≠ [] ∧
          Estimate.halves (prepare l t).masked = true ∧
          (Estimate.onMatrices (prepare l t).masked = true →
            3 < LoopDepth.ofSource (prepare l t))) := by
  have hblank : (prepare l t).isBlank = false := LoopDepth.isBlank_of_pos (by omega)
  have htime : (Complexity.ofSource (prepare l t)).time =
      Estimate.time (prepare l t) (Recursion.ofSource (prepare l t)) := by
    rw [Complexity.ofSource, hblank]
    rfl
  rw [htime]
  refine ⟨Estimate.time_growth_of_nested h, Estimate.time_growth_of_branching _, ?_⟩
  by_cases hr : (Recursion.ofSource (prepare l t)).branching = []
  · rw [Estimate.time_growth_of_nested h hr]
    exact iff_of_false (Nat.not_lt_of_le (Estimate.ofLoopDepth_le_ofNested _ h))
      (fun hbelow => hbelow.1 hr)
  · rw [Estimate.time_growth_of_branching _ hr, Estimate.ofBranching_lt_ofLoopDepth_iff _ h]
    exact (and_iff_right hr).symm

/-- Branching recursion in two loops, with a middle of two bounds and an element in three
dimensions. -/
def searchOnMatrices : Text :=
  "def f(a):\n for b in a:\n  for c in b:\n   mid = lo + hi\n   f(b) + f(c) + a[b][c][mid]".toList

/-- The matrices lift the time above the loops again. -/
theorem Complexity.time_of_searchOnMatrices :
    2 ≤ LoopDepth.ofSource (prepare Language.python searchOnMatrices) ∧
      (Recursion.ofSource (prepare Language.python searchOnMatrices)).branching ≠ [] ∧
      ¬ (Complexity.ofSource (prepare Language.python searchOnMatrices)).time.growth.rank <
        (Growth.ofLoopDepth
          (LoopDepth.ofSource (prepare Language.python searchOnMatrices))).rank := by
  have hdepth : LoopDepth.ofSource (prepare Language.python searchOnMatrices) = 2 := by
    decide +kernel
  have hbranching : (Recursion.ofSource (prepare Language.python searchOnMatrices)).branching ≠
      [] := by decide +kernel
  have hmatrices : Estimate.onMatrices (prepare Language.python searchOnMatrices).masked =
      true := by decide +kernel
  obtain ⟨-, -, hiff⟩ := Complexity.time_lt_ofLoopDepth_iff Language.python searchOnMatrices
    hdepth.ge
  refine ⟨hdepth.ge, hbranching, fun hbelow => ?_⟩
  have hmore := (hiff.mp hbelow).2.2 hmatrices
  omega

/-- Without matrices, a search takes the place of the recursion, which had taken that of the loops: two
nested loops get a logarithmic estimate. -/
theorem Complexity.search_below_loops :
    let t := "def f(a):\n for b in a:\n  for c in b:\n   mid = lo + hi\n   f(b) + f(c)".toList
    LoopDepth.ofSource (prepare Language.python t) = 2 ∧
      (Complexity.ofSource (prepare Language.python t)).time.growth = .logarithmic ∧
      ¬ (Growth.ofLoopDepth (LoopDepth.ofSource (prepare Language.python t))).rank ≤
        (Complexity.ofSource (prepare Language.python t)).time.growth.rank := by
  intro t
  have hdepth : LoopDepth.ofSource (prepare Language.python t) = 2 := by decide +kernel
  have hgrowth : (Complexity.ofSource (prepare Language.python t)).time.growth = .logarithmic := by
    decide +kernel
  refine ⟨hdepth, hgrowth, ?_⟩
  rw [hdepth, hgrowth]
  decide

end SourceAudit
