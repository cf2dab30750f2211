import SourceAudit.Language.JavaScript
import SourceAudit.Metrics.Basic
import SourceAudit.Metrics.FunctionSpan
import SourceAudit.Proofs.Context.BraceLevel
import SourceAudit.Proofs.Source.PreparedLines

/-!
  Where functions begin and end.

  Whichever way its end is found, a function lies on lines of its source. Between braces, a
  declaration opens a block on its line (`Opening`), and the function should end on the
  line of the brace that closes it (`Opening.IsBody`). The scan looks at the depth after
  each line and at the deepest block opened on it, and compares both with the depth
  before the line of the declaration. What is proved:
    1. `braceReach_lt`, `indentReach_le` — a function reaches no further than the lines
       that are left, so it begins and ends on lines of its source, and does not end before
       it begins (`lies_of_mem_all`).
    2. `braceReach_eq_iff` — the line where the scan between braces ends, in terms of the
       depths.
    3. `lt_depthBefore`, `lt_peak` — the depths on the lines of a body.
    4. `endLine_eq_iff` — so the end is found exactly if the line that closes the block
       ends no deeper than the depth before the declaration's line, and either no
       earlier block is closed in front of the declaration, or the scan happens on a
       deeper block in time; `endLine_behind_block` is a source where it fails.
-/
namespace SourceAudit

/-! ## The lines of functions -/

namespace FunctionSpan

/-- Whether a function begins and ends on lines of a text, in this order. -/
structure Lies (t : Text) (f : FunctionSpan) : Prop where
  first : 1 ≤ f.startLine
  ordered : f.startLine ≤ f.endLine
  last : f.endLine ≤ t.lines.length

theorem Lies.isLine {t : Text} {f : FunctionSpan} (h : f.Lies t) : t.IsLine f.startLine :=
  ⟨Int.ofNat_le.mpr h.first, Int.ofNat_le.mpr (Nat.le_trans h.ordered h.last)⟩

/-- A function between braces ends among the lines that are gone through. -/
theorem braceReach_lt (before : Nat) (patience : Int) (passed : Nat) (opened : Bool)
    (ds : List Depth) (h : 0 < passed + ds.length) :
    braceReach before patience passed opened ds < passed + ds.length := by
  induction ds generalizing passed opened with
  | nil =>
    rw [braceReach]
    split
    · exact Nat.sub_lt h Nat.one_pos
    · exact h
  | cons d rest ih =>
    rw [braceReach, List.length_cons]
    split
    · omega
    · split
      · omega
      · have hlater := ih (passed + 1) (opened || decide (before < d.peak)) (by omega)
        omega

/-- An indented function ends among the lines that are gone through. -/
theorem indentReach_le (width passed last : Nat) (ls : List Text) (h : last ≤ passed) :
    indentReach width passed last ls ≤ passed + ls.length := by
  induction ls generalizing passed last with
  | nil => exact h
  | cons line rest ih =>
    rw [indentReach, List.length_cons]
    split
    · have hlater := ih (passed + 1) last (by omega)
      omega
    · split
      · omega
      · have hlater := ih (passed + 1) (passed + 1) (Nat.le_refl _)
        omega

theorem add_reach_lt (l : Language) (t : Text) (patience : Int) {i : Nat}
    (h : i < t.lines.length) : i + reach (prepare l t) patience i < t.lines.length := by
  unfold reach
  split
  · have hdepths : ((prepare l t).depths.drop i).length = t.lines.length - i := by
      rw [List.length_drop, length_depths]
    have hreach := braceReach_lt ((prepare l t).depthBefore i) patience 0 false
      ((prepare l t).depths.drop i) (by omega)
    omega
  · have hlines : ((prepare l t).maskedLines.drop (i + 1)).length = t.lines.length - (i + 1) := by
      rw [List.length_drop, length_maskedLines]
    have hreach := indentReach_le (Text.indentWidth ((prepare l t).maskedLines.getD i [])) 0 0
      ((prepare l t).maskedLines.drop (i + 1)) (Nat.le_refl _)
    omega

/-- A function starts on a line that declares it. -/
theorem exists_of_mem_all {p : Prepared} {patience : Int} {f : FunctionSpan}
    (h : f ∈ all p patience) :
    ∃ i line name, p.maskedLines[i]? = some line ∧ nameOn p.language line = some name ∧
      f = ⟨String.ofList name, i + 1, i + reach p patience i + 1⟩ := by
  obtain ⟨⟨line, i⟩, hline, hf⟩ := List.mem_filterMap.mp h
  obtain ⟨name, hname, rfl⟩ := Option.map_eq_some_iff.mp hf
  exact ⟨i, line, name, List.mk_mem_zipIdx_iff_getElem?.mp hline, hname, rfl⟩

/-- The functions of a source lie within it. -/
theorem lies_of_mem_all {l : Language} {t : Text} {patience : Int} {f : FunctionSpan}
    (h : f ∈ all (prepare l t) patience) : f.Lies t := by
  obtain ⟨i, line, name, hline, -, rfl⟩ := exists_of_mem_all h
  have hi : i < t.lines.length := by
    rw [← length_maskedLines l t]
    exact (List.getElem?_eq_some_iff.mp hline).1
  have hlast := add_reach_lt l t patience hi
  exact ⟨by simp, by dsimp only; omega, by dsimp only; omega⟩

end FunctionSpan

/-- The functions that are counted lie within the source. -/
theorem Metrics.lies_of_mem_functions {l : Language} {t : Text} {patience : Int} {f : FunctionSpan}
    (h : f ∈ (Metrics.ofSource (prepare l t) patience).functions) : f.Lies t := by
  unfold Metrics.ofSource at h
  split at h
  · cases h
  · exact FunctionSpan.lies_of_mem_all h

namespace FunctionSpan

/-! ## The scan -/

section
variable {before : Nat} {patience : Int} {ds : List Depth}

/-- Once the block has opened, the scan ends at the first line that is no deeper than before. -/
theorem braceReach_opened (h : ∃ d ∈ ds, d.after ≤ before) (passed : Nat) :
    braceReach before patience passed true ds =
      passed + ds.findIdx fun d => decide (d.after ≤ before) := by
  induction ds generalizing passed with
  | nil => simp at h
  | cons d ds ih =>
    by_cases hd : d.after ≤ before
    · simp [braceReach, List.findIdx_cons, hd]
    · have hrest : ∃ d ∈ ds, d.after ≤ before := by simpa [hd] using h
      simp only [braceReach, List.findIdx_cons, hd, Bool.true_or, decide_false, Bool.and_false,
        Bool.not_true, Bool.false_and, Bool.false_eq_true, if_false, cond_false, ih hrest]
      omega

/-- The block opens on the first line with a deeper block, unless that comes too late. -/
theorem braceReach_closed (h : ∃ d ∈ ds, before < d.peak) (passed : Nat) {j : Nat}
    (hj : ds.findIdx (fun d => decide (before < d.peak)) = j) :
    braceReach before patience passed false ds =
      if j = 0 ∨ (passed : Int) + j ≤ patience then
        braceReach before patience (passed + j) true (ds.drop j)
      else 0 := by
  induction ds generalizing passed j with
  | nil => simp at h
  | cons d ds ih =>
    by_cases hd : before < d.peak
    · obtain rfl : 0 = j := by simpa [List.findIdx_cons, hd] using hj
      simp [braceReach, hd]
    · have hrest : ∃ d ∈ ds, before < d.peak := by simpa [hd] using h
      obtain ⟨j, rfl⟩ : ∃ k, j = k + 1 := ⟨_, by simpa [List.findIdx_cons, hd] using hj.symm⟩
      have hj : ds.findIdx (fun d => decide (before < d.peak)) = j := by
        simpa [List.findIdx_cons, hd] using hj
      have hpassed : passed + 1 + j = passed + (j + 1) := by omega
      simp only [braceReach, hd, Bool.false_or, decide_false, Bool.false_and, Bool.not_false,
        Bool.true_and, Bool.false_eq_true, if_false, decide_eq_true_eq, ih hrest (passed + 1) hj,
        List.drop_succ_cons, hpassed]
      by_cases hlate : patience ≤ passed
      · rw [if_pos hlate, if_neg (by omega)]
      · rw [if_neg hlate]
        exact ite_congr (propext (by omega)) (fun _ => rfl) (fun _ => rfl)

/-- Where no line has a deeper block, the scan gives up. -/
theorem braceReach_never (h : ∀ d ∈ ds, d.peak ≤ before) (passed : Nat) :
    braceReach before patience passed false ds = 0 := by
  induction ds generalizing passed with
  | nil => rfl
  | cons d ds ih =>
    obtain ⟨hd, hds⟩ := List.forall_mem_cons.mp h
    have hshut : ¬ before < d.peak := by omega
    simp [braceReach, hshut, ih hds]

/-- The lines of a scan: at index `j` the first deeper block opens, in time, and at index `n` the
depth is back for the first time since. -/
structure Scanned (before : Nat) (patience : Int) (ds : List Depth) (j n : Nat) : Prop where
  inTime : j = 0 ∨ (j : Int) ≤ patience
  ordered : j ≤ n
  shut : ∀ k < j, (ds.getD k default).peak ≤ before
  opens : before < (ds.getD j default).peak
  deeper : ∀ k, j ≤ k → k < n → before < (ds.getD k default).after
  back : (ds.getD n default).after ≤ before

/-- These lines are the first deeper block, and behind it the first depth that is back. -/
theorem scanned_iff {j n : Nat} (hordered : j ≤ n) (hlen : n < ds.length) :
    Scanned before patience ds j n ↔
      (j = 0 ∨ (j : Int) ≤ patience) ∧
        ds.findIdx (fun d => decide (before < d.peak)) = j ∧
        (ds.drop j).findIdx (fun d => decide (d.after ≤ before)) = n - j := by
  have hat : ∀ (k : Nat) (hk : k < ds.length), ds.getD k default = ds[k] := fun k hk =>
    (List.getD_eq_getElem?_getD ..).trans (by rw [List.getElem?_eq_getElem hk, Option.getD_some])
  have hrest : n - j < (ds.drop j).length := by rw [List.length_drop]; omega
  rw [List.findIdx_eq (by omega), List.findIdx_eq hrest]
  simp only [decide_eq_true_eq, decide_eq_false_iff_not, Nat.not_lt, Nat.not_le,
    List.getElem_drop, Nat.add_sub_of_le hordered]
  constructor
  · intro h
    refine ⟨h.inTime, ⟨?_, fun k hk => ?_⟩, ?_, fun k hk => ?_⟩
    · exact hat j (by omega) ▸ h.opens
    · exact hat k (by omega) ▸ h.shut k hk
    · exact hat n hlen ▸ h.back
    · exact hat (j + k) (by omega) ▸ h.deeper (j + k) (by omega) (by omega)
  · rintro ⟨htime, ⟨hopens, hshut⟩, hback, hdeeper⟩
    refine ⟨htime, hordered, fun k hk => ?_, ?_, fun k hjk hk => ?_, ?_⟩
    · exact hat k (by omega) ▸ hshut k hk
    · exact hat j (by omega) ▸ hopens
    · have hdeep := hdeeper (k - j) (by omega)
      simp only [Nat.add_sub_of_le hjk] at hdeep
      exact hat k (by omega) ▸ hdeep
    · exact hat n hlen ▸ hback

/-- A scan over depths that come back at last ends at a later line exactly if the block opens in time
and the depth is back there for the first time since. -/
theorem braceReach_eq_iff {n : Nat} (hn : 0 < n) (hlen : n < ds.length)
    (hlast : ∃ d ∈ ds.getLast?, d.after ≤ before) :
    braceReach before patience 0 false ds = n ↔ ∃ j, Scanned before patience ds j n := by
  by_cases hopens : ∃ d ∈ ds, before < d.peak
  · obtain ⟨j, hj⟩ : ∃ j, ds.findIdx (fun d => decide (before < d.peak)) = j := ⟨_, rfl⟩
    have hjlen : j < ds.length := hj ▸ List.findIdx_lt_length_of_exists (by simpa using hopens)
    -- the last depth is back, and it does not stand in front of the line where the block opens
    have hfalls : ∃ d ∈ ds.drop j, d.after ≤ before := by
      obtain ⟨d, hd, hback⟩ := hlast
      refine ⟨d, List.mem_of_getLast? ?_, hback⟩
      rw [List.getLast?_drop, if_neg (by omega)]
      exact hd
    rw [braceReach_closed hopens 0 hj, Nat.zero_add, braceReach_opened hfalls]
    constructor
    · intro hreach
      split at hreach
      · next htime =>
        exact ⟨j, (scanned_iff (by omega) hlen).mpr ⟨by simpa using htime, hj, by omega⟩⟩
      · omega
    · rintro ⟨i, hscan⟩
      have hordered := hscan.ordered
      obtain ⟨htime, hi, hr⟩ := (scanned_iff hordered hlen).mp hscan
      obtain rfl : j = i := hj.symm.trans hi
      rw [if_pos (by simpa using htime), hr]
      omega
  · have hshut : ∀ d ∈ ds, d.peak ≤ before := by simpa using hopens
    rw [braceReach_never hshut]
    refine iff_of_false (by omega) ?_
    rintro ⟨j, hscan⟩
    have hordered := hscan.ordered
    have hj := ((scanned_iff hordered hlen).mp hscan).2.1
    have hnone : ds.findIdx (fun d => decide (before < d.peak)) = ds.length := by
      simpa using hshut
    omega

end

/-! ## The line of a declaration -/

/-- The match from which the name of the function on a line is taken: that of the first form which
matches with a name. -/
def declaration? (l : Language) (line : Text) : Option Match :=
  l.functionForms.findSome? fun form =>
    (form.find? line).filter fun m => decide (String.ofList (m.part 1) ∉ neverNames)

theorem nameOn_eq_map (l : Language) (line : Text) :
    nameOn l line = (declaration? l line).map fun m => m.part 1 := by
  unfold nameOn declaration?
  induction l.functionForms with
  | nil => rfl
  | cons form forms ih =>
    simp only [List.findSome?_cons, ih]
    cases form.find? line with
    | none => rfl
    | some m =>
      by_cases hname : String.ofList (m.part 1) ∈ neverNames
      · simp [Option.filter, hname]
      · simp [Option.filter, hname]

/-- A line with index `i` on which a function is declared and one block opens and stays open: from
the declaration on there is one opening brace, between `lead` and `rest`, and no closing brace
behind it. -/
structure Opening (p : Prepared) (i : Nat) where
  line : Text
  declaration : Match
  lead : Text
  rest : Text
  isLine : p.maskedLines[i]? = some line
  declares : declaration? p.language line = some declaration
  opens : line = lead ++ '\x7b' :: rest
  starts : declaration.start ≤ lead.length
  only : '\x7b' ∉ lead.drop declaration.start ∧ '\x7b' ∉ rest
  stays : '\x7d' ∉ rest

namespace Opening
variable {l : Language} {t : Text} {i : Nat} (o : Opening (prepare l t) i)

/-- What stands behind the brace that opens the block. -/
def behind : Text := Text.joinLines (o.rest :: (prepare l t).maskedLines.drop (i + 1))

/-- What stands between the two braces of the block. -/
def IsBody (body : Text) : Prop := BalancedBraces body ∧ body ++ ['\x7d'] <+: o.behind

instance (body : Text) : Decidable (o.IsBody body) :=
  inferInstanceAs (Decidable (BalancedBraces body ∧ body ++ ['\x7d'] <+: o.behind))

/-- The function that is declared on the line. -/
def span (patience : Int) : FunctionSpan :=
  ⟨String.ofList (o.declaration.part 1), i + 1, i + reach (prepare l t) patience i + 1⟩

theorem span_mem (patience : Int) : o.span patience ∈ all (prepare l t) patience := by
  refine List.mem_filterMap.mpr ⟨(o.line, i), List.mk_mem_zipIdx_iff_getElem?.mpr o.isLine, ?_⟩
  change (nameOn (prepare l t).language o.line).map _ = _
  rw [nameOn_eq_map, o.declares]
  rfl

theorem eq_span {patience : Int} {f : FunctionSpan} (h : f ∈ all (prepare l t) patience)
    (hstart : f.startLine = i + 1) : f = o.span patience := by
  obtain ⟨⟨line, j⟩, hline, hf⟩ := List.mem_filterMap.mp h
  obtain ⟨name, hname, rfl⟩ := Option.map_eq_some_iff.mp hf
  obtain rfl : j = i := Nat.succ.inj hstart
  obtain rfl : o.line = line :=
    Option.some.inj (o.isLine.symm.trans (List.mk_mem_zipIdx_iff_getElem?.mp hline))
  rw [nameOn_eq_map, o.declares] at hname
  obtain rfl : o.declaration.part 1 = name := Option.some.inj hname
  rfl

theorem masked_line : (prepare l t).masked.lines[i]? = some (o.lead ++ '\x7b' :: o.rest) :=
  o.isLine.trans (congrArg some o.opens)

/-- Between balanced braces the block is closed. -/
theorem exists_isBody (h : BalancedBraces (prepare l t).masked) : ∃ body, o.IsBody body :=
  exists_body h o.masked_line

/-- The lines of a body: it ends in front of the closing brace on one of the lines behind the
declaration's. -/
theorem IsBody.exists_lines {body : Text} (h : o.IsBody body) :
    ∃ inner left right more,
      (prepare l t).maskedLines.drop (i + 1) = inner ++ (left ++ '\x7d' :: right) :: more ∧
        body = Text.joinLines (o.rest :: inner ++ [left]) ∧ body.count '\n' = inner.length + 1 := by
  obtain ⟨inner, left, right, more, hcut, hbody, hcount⟩ := exists_lines_of_body o.masked_line h.2
  cases inner with
  | nil =>
    -- the brace would be on the line of the declaration
    obtain ⟨hrest, -⟩ := List.cons.inj hcut
    exact absurd (by rw [hrest]; simp) o.stays
  | cons first inner =>
    obtain ⟨rfl, hdrop⟩ := List.cons.inj hcut
    exact ⟨inner, left, right, more, hdrop, hbody, hcount.symm⟩

include o in
theorem index_lt : i < (prepare l t).maskedLines.length :=
  (List.getElem?_eq_some_iff.mp o.isLine).1

/-! ## Depths on the lines of a block -/

section
variable (hbraces : l.usesBraces = true) (hbalanced : BalancedBraces (prepare l t).masked)
include hbraces hbalanced

/-- The line of the declaration opens a block above what is in front of the brace. -/
theorem lt_peak :
    ((prepare l t).depthBefore i : Int) + braceLevel o.lead <
      ((prepare l t).depths.getD i default).peak := by
  have hsane : ∀ u, u <+: o.lead → 0 ≤ ((prepare l t).depthBefore i : Int) + braceLevel u :=
    fun u hu => zero_le_depthBefore_add hbraces hbalanced o.isLine
      (hu.trans ⟨_, o.opens.symm⟩)
  have hline : (prepare l t).depths[i]? =
      some (Depth.braceLine ((prepare l t).depthBefore i) (o.lead ++ '\x7b' :: o.rest)) := by
    rw [depths_getElem? hbraces, o.isLine, depthBefore_eq_behind hbraces o.index_lt.le, ← o.opens]
    rfl
  rw [List.getD_eq_getElem?_getD, hline]
  exact Depth.lt_peak_braceLine hsane

/-- The line of the declaration ends in the block. -/
theorem depthBefore_succ :
    ((prepare l t).depthBefore (i + 1) : Int) =
      (prepare l t).depthBefore i + braceLevel o.lead + 1 := by
  have htake : (prepare l t).maskedLines.take (i + 1) =
      (prepare l t).maskedLines.take i ++ [o.lead ++ '\x7b' :: o.rest] := by
    rw [List.take_add_one, o.isLine, o.opens, Option.toList_some]
  have hone := braceLevel_open
  have hrest : braceLevel o.rest = 0 := by
    simp [braceLevel, List.count_eq_zero.mpr o.only.2, List.count_eq_zero.mpr o.stays]
  rw [depthBefore_eq_braceLevel hbraces hbalanced o.index_lt.le,
    depthBefore_eq_braceLevel hbraces hbalanced o.index_lt, htake, List.flatten_append,
    List.flatten_singleton, braceLevel_append, braceLevel_append, braceLevel_cons]
  omega

/-- Every line in front of that of the closing brace ends in the block. -/
theorem lt_depthBefore {body : Text} (h : o.IsBody body) {k : Nat} (hik : i ≤ k)
    (hk : k < i + body.count '\n') :
    ((prepare l t).depthBefore i : Int) + braceLevel o.lead < (prepare l t).depthBefore (k + 1) := by
  obtain ⟨inner, left, right, more, hdrop, hbody, hcount⟩ := h.exists_lines
  obtain ⟨m, rfl⟩ := Nat.exists_eq_add_of_le hik
  have hlines : (prepare l t).maskedLines.length = i + (1 + (inner.length + (more.length + 1))) := by
    have hlength := congrArg List.length hdrop
    have hlt := o.index_lt
    simp only [List.length_drop, List.length_append, List.length_cons] at hlength
    omega
  have htake : (prepare l t).maskedLines.take (i + m + 1) =
      (prepare l t).maskedLines.take i ++ (o.lead ++ '\x7b' :: o.rest) :: inner.take m := by
    have hline := List.drop_eq_getElem?_toList_append (l := (prepare l t).maskedLines) (i := i)
    rw [o.isLine, Option.toList_some, List.singleton_append, hdrop, o.opens] at hline
    rw [Nat.add_assoc, List.take_add, hline, List.take_succ_cons,
      List.take_append_of_le_length (by omega)]
  -- what stands in the block up to the end of the line is a part of its body
  have hpart : Text.joinLines (o.rest :: inner.take m) <+: body := by
    have hcut := @Text.joinLines_isPrefix (o.rest :: inner.take m) (inner.drop m ++ [left])
      (List.cons_ne_nil _ _)
    rwa [List.cons_append, ← List.append_assoc, List.take_append_drop, ← List.cons_append,
      ← hbody] at hcut
  have hsane := h.1.sane _ hpart
  have hone := braceLevel_open
  have hlt := o.index_lt
  rw [braceLevel_joinLines, List.flatten_cons, braceLevel_append] at hsane
  rw [depthBefore_eq_braceLevel hbraces hbalanced hlt.le,
    depthBefore_eq_braceLevel hbraces hbalanced (by omega), htake, List.flatten_append,
    List.flatten_cons, braceLevel_append, braceLevel_append, braceLevel_append, braceLevel_cons]
  omega

end

end Opening

/-! ## The end of a function -/

/-- A scan from line `i` ends on line `e` because of a block behind line `i`, with lines counted from
zero: line `j` is the first that opens a block deeper than the depth before line `i`, it comes in
time, and from there on line `e` is the first that does not end deeper. -/
structure EndsByLater (p : Prepared) (patience : Int) (i j e : Nat) : Prop where
  later : i < j
  inTime : (j : Int) ≤ i + patience
  ordered : j ≤ e
  shut : ∀ k, i ≤ k → k < j → (p.depths.getD k default).peak ≤ p.depthBefore i
  opens : p.depthBefore i < (p.depths.getD j default).peak
  deeper : ∀ k, j ≤ k → k < e → p.depthBefore i < p.depthBefore (k + 1)
  back : p.depthBefore (e + 1) ≤ p.depthBefore i

theorem getD_drop_depths (p : Prepared) (i k : Nat) :
    (p.depths.drop i).getD k default = p.depths.getD (i + k) default := by
  rw [List.getD_eq_getElem?_getD, List.getD_eq_getElem?_getD, List.getElem?_drop]

theorem scanned_drop_iff {p : Prepared} {patience : Int} {i j n : Nat} (hj : 0 < j) :
    Scanned (p.depthBefore i) patience (p.depths.drop i) j n ↔
      EndsByLater p patience i (i + j) (i + n) := by
  constructor
  · intro h
    have htime := h.inTime
    refine ⟨by omega, by omega, Nat.add_le_add_left h.ordered i, fun k hik hk => ?_, ?_,
      fun k hjk hk => ?_, ?_⟩
    · have hshut := h.shut (k - i) (by omega)
      rwa [getD_drop_depths, Nat.add_sub_of_le hik] at hshut
    · exact getD_drop_depths p i j ▸ h.opens
    · have hdeeper := h.deeper (k - i) (by omega) (by omega)
      rwa [getD_drop_depths, Nat.add_sub_of_le (by omega)] at hdeeper
    · have hback := h.back
      rwa [getD_drop_depths] at hback
  · intro h
    have htime := h.inTime
    have hordered := h.ordered
    refine ⟨.inr (by omega), by omega, fun k hk => ?_, ?_, fun k hjk hk => ?_, ?_⟩
    · exact getD_drop_depths p i k ▸ h.shut (i + k) (by omega) (by omega)
    · exact getD_drop_depths p i j ▸ h.opens
    · rw [getD_drop_depths]
      exact h.deeper (i + k) (by omega) (by omega)
    · rw [getD_drop_depths]
      exact h.back

/-- A scan finds the block on the line of the declaration, and its end, if no block is closed in
front of it there and the closing line ends no deeper than the depth before. -/
theorem scanned_start_iff {l : Language} {t : Text} {patience : Int} {i n : Nat}
    (o : Opening (prepare l t) i) (hbraces : l.usesBraces = true)
    (hbalanced : BalancedBraces (prepare l t).masked) {body : Text} (hbody : o.IsBody body)
    (hn : body.count '\n' = n) (hpos : 0 < n) :
    Scanned ((prepare l t).depthBefore i) patience ((prepare l t).depths.drop i) 0 n ↔
      0 ≤ braceLevel o.lead ∧
        (prepare l t).depthBefore (i + n + 1) ≤ (prepare l t).depthBefore i := by
  have hpeak := o.lt_peak hbraces hbalanced
  constructor
  · intro h
    -- the declaration's line ends deeper, so the block opens above the depth before it
    have hdeeper := h.deeper 0 (Nat.le_refl 0) hpos
    have hback := h.back
    have hsucc := o.depthBefore_succ hbraces hbalanced
    rw [getD_drop_depths] at hdeeper hback
    change (prepare l t).depthBefore i < (prepare l t).depthBefore (i + 1) at hdeeper
    exact ⟨by omega, hback⟩
  · rintro ⟨hlead, hback⟩
    refine ⟨.inl rfl, Nat.zero_le n, fun k hk => absurd hk (Nat.not_lt_zero k), ?_, ?_, ?_⟩
    · rw [getD_drop_depths, Nat.add_zero]
      omega
    · intro k _ hk
      have hdeeper := o.lt_depthBefore hbraces hbalanced hbody (k := i + k) (by omega) (by omega)
      rw [getD_drop_depths]
      change (prepare l t).depthBefore i < (prepare l t).depthBefore (i + k + 1)
      omega
    · rw [getD_drop_depths]
      exact hback

/-- The last line of a source with balanced braces ends outside of all blocks. -/
theorem exists_last_le {l : Language} {t : Text} (hbraces : l.usesBraces = true)
    (hbalanced : BalancedBraces (prepare l t).masked) {i : Nat}
    (hi : i < (prepare l t).maskedLines.length) (n : Nat) :
    ∃ d ∈ ((prepare l t).depths.drop i).getLast?, d.after ≤ n := by
  have hlength := length_depths_prepare l t
  obtain ⟨last, hlast⟩ := Nat.exists_eq_add_of_lt (Nat.zero_lt_of_lt hi)
  have hclosed := depthBefore_length hbraces hbalanced
  rw [hlast, Nat.zero_add, Prepared.depthBefore] at hclosed
  refine ⟨(prepare l t).depths.getD last default, ?_, by omega⟩
  rw [List.getLast?_drop, if_neg (by omega), List.getLast?_eq_getElem?, hlength, hlast,
    List.getD_eq_getElem?_getD, Nat.zero_add, Nat.add_sub_cancel,
    List.getElem?_eq_getElem (by omega)]
  rfl

/-- Of a declaration in a source with balanced braces, on a line with one opening brace from the
declaration on that is not closed there. One function starts on the line, and the brace is closed.
The function ends on the line of the closing brace exactly if that line ends no deeper than the depth
before the declaration's line, and either no more braces are closed than opened in front of
the block, or a block behind the line makes the scan end there. -/
theorem endLine_eq_iff {l : Language} {t : Text} (patience : Int) {i : Nat}
    (o : Opening (prepare l t) i) (hbraces : l.usesBraces = true)
    (hbalanced : BalancedBraces (prepare l t).masked) :
    ∃ f ∈ all (prepare l t) patience, f.startLine = i + 1 ∧
      (∀ other ∈ all (prepare l t) patience, other.startLine = i + 1 → other = f) ∧
      (∃ body, o.IsBody body) ∧
      ∀ body, o.IsBody body →
        (f.endLine = i + body.count '\n' + 1 ↔
          (0 ≤ braceLevel o.lead ∧
            (prepare l t).depthBefore (i + body.count '\n' + 1) ≤ (prepare l t).depthBefore i) ∨
          ∃ j, EndsByLater (prepare l t) patience i j (i + body.count '\n')) := by
  refine ⟨o.span patience, o.span_mem patience, rfl, fun other h => o.eq_span h,
    o.exists_isBody hbalanced, fun body hbody => ?_⟩
  obtain ⟨inner, left, right, more, hdrop, -, hcount⟩ := hbody.exists_lines
  obtain ⟨n, hn⟩ : ∃ n, body.count '\n' = n := ⟨_, rfl⟩
  rw [hn] at hcount ⊢
  have hlength : (prepare l t).depths.length = i + 1 + (inner.length + (more.length + 1)) := by
    have hlines := congrArg List.length hdrop
    have hlt := o.index_lt
    simp only [List.length_drop, List.length_append, List.length_cons] at hlines
    rw [length_depths_prepare]
    omega
  have hend : (o.span patience).endLine = i + n + 1 ↔ reach (prepare l t) patience i = n := by
    change i + reach (prepare l t) patience i + 1 = i + n + 1 ↔ _
    omega
  have hlanguage : (prepare l t).language.usesBraces = true := hbraces
  rw [hend, reach, if_pos hlanguage, braceReach_eq_iff (by omega)
    (by rw [List.length_drop]; omega) (exists_last_le hbraces hbalanced o.index_lt _),
    ← scanned_start_iff o hbraces hbalanced hbody hn (by omega)]
  constructor
  · rintro ⟨j, hscan⟩
    rcases Nat.eq_zero_or_pos j with rfl | hj
    · exact .inl hscan
    · exact .inr ⟨i + j, (scanned_drop_iff hj).mp hscan⟩
  · rintro (hscan | ⟨j, hends⟩)
    · exact ⟨0, hscan⟩
    · have hlater := hends.later
      obtain ⟨k, rfl⟩ := Nat.exists_eq_add_of_le hlater.le
      exact ⟨k, (scanned_drop_iff (by omega)).mpr hends⟩

/-- The second line of a source in JavaScript, which closes a block and declares a function. -/
def secondOpening {t : Text}
    (h : (prepare Language.javaScript t).maskedLines[1]? = some "\x7d function f() \x7b".toList) :
    Opening (prepare Language.javaScript t) 1 where
  line := "\x7d function f() \x7b".toList
  declaration := ⟨2, 13, "function f(".toList, [(.place 1, ⟨11, "f".toList⟩)]⟩
  lead := "\x7d function f() ".toList
  rest := []
  isLine := h
  declares := by
    change declaration? Language.javaScript "\x7d function f() \x7b".toList = _
    decide +kernel
  opens := rfl
  starts := by decide
  only := by decide
  stays := by decide

/-- Behind an earlier block the end is found if deeper blocks open on the next line. -/
theorem endLine_by_later :
    let t := "\x7b\n\x7d function f() \x7b\n\x7b \x7b\n\x7d \x7d \x7d".toList
    Language.javaScript.usesBraces = true ∧
      BalancedBraces (prepare Language.javaScript t).masked ∧
      EndsByLater (prepare Language.javaScript t) 1 1 2 3 ∧
      ∃ f ∈ usual (prepare Language.javaScript t), f.startLine = 2 ∧ f.endLine = 4 := by
  intro t
  have hbalanced : BalancedBraces (prepare Language.javaScript t).masked := by decide +kernel
  have hends : EndsByLater (prepare Language.javaScript t) 1 1 2 3 := by
    constructor <;> decide +kernel
  let o : Opening (prepare Language.javaScript t) 1 := secondOpening (by decide +kernel)
  have hbody : o.IsBody "\n\x7b \x7b\n\x7d \x7d ".toList := by decide +kernel
  obtain ⟨f, hf, hstart, -, -, hiff⟩ := endLine_eq_iff 1 o rfl hbalanced
  exact ⟨rfl, hbalanced, hends, f, hf, hstart, (hiff _ hbody).mpr (.inr ⟨2, hends⟩)⟩

/-- Behind an earlier block the end of a function is not found: its closing brace stands two lines
below. -/
theorem endLine_behind_block :
    let t := "\x7b\n\x7d function f() \x7b\n  x();\n\x7d".toList
    Language.javaScript.usesBraces = true ∧
      BalancedBraces (prepare Language.javaScript t).masked ∧
      ∃ (o : Opening (prepare Language.javaScript t) 1) (body : Text),
        o.IsBody body ∧ body.count '\n' = 2 ∧
        usual (prepare Language.javaScript t) = [⟨"f", 2, 2⟩] := by
  intro t
  exact ⟨rfl, by decide +kernel, secondOpening (by decide +kernel), "\n  x();\n".toList,
    by decide +kernel, by decide, by decide +kernel⟩

end FunctionSpan
end SourceAudit
