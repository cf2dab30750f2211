import SourceAudit.Detector.Battery
import SourceAudit.Language.Python
import SourceAudit.Proofs.Number.RoundingOrder
import SourceAudit.Proofs.Source.BraceDepths
import SourceAudit.Proofs.Source.IndentDepths
import SourceAudit.Proofs.Source.PreparedLines

/-!
  The findings about depths and comments, next to the sizes that are measured.

  Depth is measured from the depths of all lines, and reported on lines that open a block.
  Comments are measured in per cent of the lines that are not blank, and reported by their
  share of all lines. What is proved:
    1. `passedBy_maxDepth_iff`, `deepNesting_ne_nil_iff` — a limit is passed by the depth
       that is measured if it is by a depth or a peak, and there is a finding if it is by
       a peak.
    2. `exists_peak_indented_iff`, `passes_indented_iff` — by indentation the peaks are those
       that colons open, and the depths those at which lines stand, besides.
    3. `deepNesting_agrees_iff` — so between braces the two sides agree, and by indentation
       they do unless a line stands beyond the limit where no colon opens a block. That does
       not happen if only lines behind a colon are indented deeper (`opensBeyond_of_stands`).
    4. `commentShareOfAll_le` — the share of all lines is no greater than what is measured.
    5. `fewComments_agrees_iff` — so too few comments are reported whenever few are
       measured, and what is reported agrees with the exact share of the lines that are not
       blank unless the limit lies between the two shares.
-/
namespace SourceAudit

namespace Metrics

variable {limit : Quantity}

/-- A limit is passed by the depth that is measured if it is by some depth or peak. -/
theorem passedBy_maxDepth_iff (hzero : ¬ limit.PassedBy 0) (ds : List Depth) :
    limit.PassedBy (maxDepth ds) ↔
      (∃ d ∈ ds, limit.PassedBy d.after) ∨ ∃ d ∈ ds, limit.PassedBy d.peak := by
  have hrun : ∀ n, limit.PassedBy (ds.foldl (fun n d => max n (max d.after d.peak)) n) ↔
      limit.PassedBy n ∨ ∃ d ∈ ds, limit.PassedBy d.after ∨ limit.PassedBy d.peak := by
    induction ds with
    | nil => simp
    | cons d ds ih =>
      intro n
      rw [List.foldl_cons, ih, Quantity.passedBy_max_iff, Quantity.passedBy_max_iff,
        List.exists_mem_cons_iff, or_assoc]
  rw [maxDepth, hrun, or_iff_right hzero]
  simp only [and_or_left, exists_or]

theorem maxNestingDepth_ofSource {p : Prepared} (h : p.isBlank = false) (patience : Int) :
    (ofSource p patience).maxNestingDepth = maxDepth p.depths := by
  rw [ofSource, h]
  rfl

end Metrics

/-! ## Depths and peaks -/

namespace Detector

theorem deepNesting_ne_nil_iff (limit : Quantity) (p : Prepared) :
    deepNesting limit p ≠ [] ↔ ∃ d ∈ p.depths, limit.PassedBy d.peak := by
  rw [deepNesting, ne_eq, List.filterMap_eq_nil_iff]
  constructor
  · intro h
    by_contra hnone
    refine h fun ⟨d, i⟩ hd => if_neg fun hpassed => hnone ⟨d, ?_, hpassed⟩
    exact List.mem_of_getElem? (List.mk_mem_zipIdx_iff_getElem?.mp hd)
  · rintro ⟨d, hd, hpassed⟩ hall
    obtain ⟨i, hi⟩ := List.mem_iff_getElem?.mp hd
    have hnothing := hall (d, i) (List.mk_mem_zipIdx_iff_getElem?.mpr hi)
    exact absurd ((if_pos hpassed).symm.trans hnothing) (Option.some_ne_none _)

end Detector

namespace Depth

variable {limit : Quantity} {ls : List Text}

/-- Between braces a depth beyond a limit was opened by a brace. -/
theorem exists_peak_of_after_braces (hzero : ¬ limit.PassedBy 0)
    (h : ∃ d ∈ braces ls, limit.PassedBy d.after) : ∃ d ∈ braces ls, limit.PassedBy d.peak := by
  obtain ⟨d, hd, hpassed⟩ := h
  have hle := after_le_bracesFrom hd
  rw [Nat.zero_max] at hle
  obtain ⟨n, hn, hpeak⟩ :=
    (Quantity.passedBy_foldr_max_iff.mp (hpassed.mono hle)).resolve_left hzero
  obtain ⟨e, he, rfl⟩ := List.mem_map.mp hn
  exact ⟨e, he, hpeak⟩

/-- Whether a line that is not blank stands beyond a limit. -/
def StandsBeyond (limit : Quantity) (ls : List Text) : Prop :=
  ∃ i < ls.length, (widthAt ls i).isSome = true ∧ limit.PassedBy (level ls i)

/-- Whether a line that ends in a colon opens a block beyond a limit. -/
def OpensBeyond (limit : Quantity) (ls : List Text) : Prop :=
  ∃ i < ls.length, (ls.getD i []).EndsInColon ∧ limit.PassedBy (level ls i + 1)

/-- Whether only lines behind a line that ends in a colon are indented deeper than the line before
them, blank lines aside. -/
def IndentsInBlocks (ls : List Text) : Prop :=
  ∀ i < ls.length, ∀ j < i, ∀ v ∈ widthAt ls j, ∀ w ∈ widthAt ls i,
    (∀ k < i, j < k → widthAt ls k = none) → v < w → (ls.getD j []).EndsInColon

instance (limit : Quantity) (ls : List Text) : Decidable (StandsBeyond limit ls) :=
  inferInstanceAs (Decidable (∃ i, i < ls.length ∧ _))

instance (limit : Quantity) (ls : List Text) : Decidable (OpensBeyond limit ls) :=
  inferInstanceAs (Decidable (∃ i, i < ls.length ∧ _))

instance (ls : List Text) : Decidable (IndentsInBlocks ls) :=
  inferInstanceAs (Decidable (∀ i, i < ls.length → _))

theorem isBlank_of_endsInColon {line : Text} (h : line.EndsInColon) : line.isBlank = false := by
  obtain ⟨lead, tail, rfl, -⟩ := h
  rw [Text.isBlank, List.all_eq_false]
  exact ⟨':', by simp, by decide⟩

/-! ## Lines beyond a limit -/

theorem widthAt_isSome_iff {i : Nat} :
    (widthAt ls i).isSome = true ↔ ∃ line, ls[i]? = some line ∧ line.isBlank = false := by
  rw [widthAt, Option.isSome_map]
  cases ls[i]? with
  | none => simp
  | some line => simp [Option.filter, ← Bool.not_eq_true]

/-- The depth of a line, by the formula for all lines. -/
theorem getElem?_indented (ls : List Text) (i : Nat) :
    (indented ls)[i]? = ls[i]?.map (fun line =>
      if line.isBlank then ⟨(0 :: (indented ls).map (·.after)).getD i 0, 0⟩
      else if line.EndsInColon then ⟨level ls i + 1, level ls i + 1⟩
      else ⟨level ls i, 0⟩) := by
  conv_lhs => rw [(indented_eq_levels ls).1]
  rw [List.getElem?_mapIdx]

theorem exists_peak_indented_iff (hzero : ¬ limit.PassedBy 0) :
    (∃ d ∈ indented ls, limit.PassedBy d.peak) ↔ OpensBeyond limit ls := by
  constructor
  · rintro ⟨d, hd, hpassed⟩
    obtain ⟨i, hi⟩ := List.mem_iff_getElem?.mp hd
    rw [getElem?_indented] at hi
    obtain ⟨line, hline, rfl⟩ := Option.map_eq_some_iff.mp hi
    split at hpassed
    · exact absurd hpassed hzero
    · split at hpassed
      · next hcolon =>
        refine ⟨i, (List.getElem?_eq_some_iff.mp hline).1, ?_, hpassed⟩
        rwa [List.getD_eq_getElem?_getD, hline, Option.getD_some]
      · exact absurd hpassed hzero
  · rintro ⟨i, hi, hcolon, hpassed⟩
    have hline := List.getElem?_eq_getElem hi
    rw [List.getD_eq_getElem?_getD, hline, Option.getD_some] at hcolon
    have hdepth := getElem?_indented ls i
    rw [hline, Option.map_some, if_neg (by simp [isBlank_of_endsInColon hcolon]),
      if_pos hcolon] at hdepth
    exact ⟨_, List.mem_of_getElem? hdepth, hpassed⟩

/-- A blank line repeats a depth, so a depth beyond a limit is that of a line that is not blank. -/
theorem stands_or_opens_of_getElem? (hzero : ¬ limit.PassedBy 0) {i : Nat} {d : Depth}
    (h : (indented ls)[i]? = some d) (hpassed : limit.PassedBy d.after) :
    StandsBeyond limit ls ∨ OpensBeyond limit ls := by
  induction i using Nat.strong_induction_on generalizing d with
  | _ i ih =>
    rw [getElem?_indented] at h
    obtain ⟨line, hline, rfl⟩ := Option.map_eq_some_iff.mp h
    have hi := (List.getElem?_eq_some_iff.mp hline).1
    split at hpassed
    · cases i with
      | zero => exact absurd hpassed hzero
      | succ i =>
        have hlength : i < (indented ls).length := by
          rw [indented, length_indentedFrom]
          omega
        refine ih i (Nat.lt_succ_self i) (List.getElem?_eq_getElem hlength) ?_
        simpa [hlength] using hpassed
    · next hblank =>
      split at hpassed
      · next hcolon =>
        refine .inr ⟨i, hi, ?_, hpassed⟩
        rwa [List.getD_eq_getElem?_getD, hline, Option.getD_some]
      · exact .inl ⟨i, hi, widthAt_isSome_iff.mpr ⟨line, hline, by simpa using hblank⟩, hpassed⟩

theorem exists_after_of_stands (h : StandsBeyond limit ls) :
    ∃ d ∈ indented ls, limit.PassedBy d.after := by
  obtain ⟨i, -, hsome, hpassed⟩ := h
  obtain ⟨line, hline, hblank⟩ := widthAt_isSome_iff.mp hsome
  have hdepth := getElem?_indented ls i
  rw [hline, Option.map_some, if_neg (by simp [hblank])] at hdepth
  refine ⟨_, List.mem_of_getElem? hdepth, ?_⟩
  split
  · exact hpassed.mono (Nat.le_succ _)
  · exact hpassed

/-- By indentation a limit is passed by a depth or a peak if a line stands beyond it, or a colon opens
a block there. -/
theorem passes_indented_iff (hzero : ¬ limit.PassedBy 0) :
    ((∃ d ∈ indented ls, limit.PassedBy d.after) ∨ ∃ d ∈ indented ls, limit.PassedBy d.peak) ↔
      StandsBeyond limit ls ∨ OpensBeyond limit ls := by
  rw [exists_peak_indented_iff hzero]
  constructor
  · rintro (⟨d, hd, hpassed⟩ | hopens)
    · obtain ⟨i, hi⟩ := List.mem_iff_getElem?.mp hd
      exact stands_or_opens_of_getElem? hzero hi hpassed
    · exact .inr hopens
  · exact Or.imp_left exists_after_of_stands

/-- A line has no line before it that is not blank, or a last one. -/
theorem exists_last_width (ls : List Text) (i : Nat) :
    (∀ k < i, widthAt ls k = none) ∨
      ∃ j < i, ∃ v, widthAt ls j = some v ∧ ∀ k, j < k → k < i → widthAt ls k = none := by
  induction i with
  | zero => exact .inl fun k hk => absurd hk (Nat.not_lt_zero k)
  | succ i ih =>
    cases hwidth : widthAt ls i with
    | some v => exact .inr ⟨i, Nat.lt_succ_self i, v, hwidth, fun k hik hki => by omega⟩
    | none =>
      have hstep : ∀ {k : Nat}, k < i + 1 → (k < i → widthAt ls k = none) → widthAt ls k = none := by
        intro k hk hbefore
        rcases Nat.lt_succ_iff_lt_or_eq.mp hk with hk | rfl
        · exact hbefore hk
        · exact hwidth
      rcases ih with hnone | ⟨j, hj, v, hv, hbetween⟩
      · exact .inl fun k hk => hstep hk (hnone k)
      · exact .inr ⟨j, Nat.lt_succ_of_lt hj, v, hv, fun k hjk hk => hstep hk (hbetween k hjk)⟩

/-- If only lines behind a colon are indented deeper, a line beyond a limit stands in a block that a
colon opens there. -/
theorem opensBeyond_of_stands (hone : ¬ limit.PassedBy 1) (hlayout : IndentsInBlocks ls)
    (h : StandsBeyond limit ls) : OpensBeyond limit ls := by
  obtain ⟨i, hi, hsome, hpassed⟩ := h
  induction i using Nat.strong_induction_on with
  | _ i ih =>
    obtain ⟨w, hw⟩ := Option.isSome_iff_exists.mp hsome
    rcases exists_last_width ls i with hfirst | ⟨j, hj, v, hv, hbetween⟩
    · exact absurd (hpassed.mono (level_le_one hw hfirst)) hone
    · obtain ⟨hsucc, hnarrow⟩ := level_le hv hw hj hbetween
      by_cases hwv : w ≤ v
      · -- the line before it, blank ones aside, stands no lower
        exact ih j hj (hj.trans hi) (by rw [hv]; rfl) (hpassed.mono (hnarrow hwv))
      · have hcolon := hlayout i hi j hj v hv w hw (fun k hk hjk => hbetween k hjk hk)
          (Nat.lt_of_not_le hwv)
        exact ⟨j, hj.trans hi, hcolon, hpassed.mono hsucc⟩

end Depth

/-! ## Findings about depths -/

namespace Detector

open Depth (StandsBeyond OpensBeyond IndentsInBlocks)

/-- Whether the depth that is measured lies beyond a limit, and whether a block is reported. What is
reported is always measured, and between braces the other way round too. By indentation the two
agree exactly if no line stands beyond the limit or a line that ends in a colon opens a block
there, so they do wherever only lines behind a colon are indented deeper. -/
theorem deepNesting_agrees_iff (l : Language) (t : Text) (patience : Int) (limit : Quantity)
    (hsome : t.isBlank = false) (hlimit : limit.lt (.ofInt 1) = false) :
    let p := prepare l t
    let reports := deepNesting limit p ≠ []
    let exceeds := limit.lt (.ofInt (Metrics.ofSource p patience).maxNestingDepth) = true
    (reports → exceeds) ∧
      (l.usesBraces = true → (reports ↔ exceeds)) ∧
      (l.usesBraces = false →
        ((reports ↔ exceeds) ↔
          (StandsBeyond limit p.maskedLines → OpensBeyond limit p.maskedLines)) ∧
        (IndentsInBlocks p.maskedLines → (reports ↔ exceeds))) := by
  intro p reports exceeds
  have hone : ¬ limit.PassedBy 1 := by
    rw [Quantity.PassedBy]
    simp [hlimit]
  have hzero : ¬ limit.PassedBy 0 := fun hpassed => hone (hpassed.mono (Nat.zero_le 1))
  have hreports : reports ↔ ∃ d ∈ p.depths, limit.PassedBy d.peak := deepNesting_ne_nil_iff limit p
  have hexceeds : exceeds ↔
      (∃ d ∈ p.depths, limit.PassedBy d.after) ∨ ∃ d ∈ p.depths, limit.PassedBy d.peak := by
    rw [← Metrics.passedBy_maxDepth_iff hzero, Quantity.PassedBy,
      ← Metrics.maxNestingDepth_ofSource (p := p) hsome patience]
  refine ⟨fun h => hexceeds.mpr (.inr (hreports.mp h)), fun hbraces => ?_, fun hindented => ?_⟩
  · have hdepths : p.depths = Depth.braces p.maskedLines := if_pos hbraces
    rw [hreports, hexceeds, hdepths, iff_or_self]
    exact Depth.exists_peak_of_after_braces hzero
  · have hdepths : p.depths = Depth.indented p.maskedLines := if_neg (by simp [hindented])
    rw [hdepths, Depth.exists_peak_indented_iff hzero] at hreports
    rw [hdepths, Depth.passes_indented_iff hzero] at hexceeds
    rw [hreports, hexceeds, iff_or_self]
    exact ⟨Iff.rfl, Depth.opensBeyond_of_stands hone⟩

/-- A function with a loop in it, and a blank line between the two. -/
def loopInFunction : Text := "def f(a):\n\n    for b in a:\n        g(b)\n".toList

/-- A block within another one is measured and reported. -/
theorem deepNesting_agrees_loopInFunction :
    let p := prepare Language.python loopInFunction
    loopInFunction.isBlank = false ∧ Quantity.lt (.ofInt 1) (.ofInt 1) = false ∧
      Language.python.usesBraces = false ∧ IndentsInBlocks p.maskedLines ∧
      deepNesting (.ofInt 1) p ≠ [] ∧
      Quantity.lt (.ofInt 1) (.ofInt (Metrics.ofSource p 1).maxNestingDepth) = true := by
  intro p
  have hlayout : IndentsInBlocks p.maskedLines := by decide +kernel
  have hreports : deepNesting (.ofInt 1) p ≠ [] := by decide +kernel
  obtain ⟨-, -, hindented⟩ := deepNesting_agrees_iff Language.python loopInFunction 1 (.ofInt 1)
    (by decide) (by decide)
  exact ⟨by decide, by decide, rfl, hlayout, hreports, ((hindented rfl).2 hlayout).mp hreports⟩

/-- A function whose result is a call that goes on over a second line, behind its parenthesis. -/
def continuedCall : Text := "def f(a):\n    return g(a,\n             a)".toList

/-- Not every depth beyond a limit is reported: a call goes on at the second level, and no block is
opened there. -/
theorem continuedCall_not_reported :
    ¬ ∀ (t : Text) (limit : Quantity), t.isBlank = false → limit.lt (.ofInt 1) = false →
      (deepNesting limit (prepare Language.python t) ≠ [] ↔
        limit.lt (.ofInt (Metrics.ofSource (prepare Language.python t) 1).maxNestingDepth) =
          true) := by
  intro hagree
  have hmeasured : Quantity.lt (.ofInt 1)
      (.ofInt (Metrics.ofSource (prepare Language.python continuedCall) 1).maxNestingDepth) =
        true := by
    decide +kernel
  exact (hagree continuedCall (.ofInt 1) (by decide) (by decide)).mpr hmeasured (by decide +kernel)

end Detector

/-! ## Shares of comments -/

namespace Metrics

/-- Comment lines in per cent of the lines that are not blank, as an exact fraction. -/
def exactShare (p : Prepared) : Rat := (p.commentLineCount : Rat) / p.codeLineCount * 100

/-- Where there are no lines to divide by, the quotient is zero. -/
theorem commentShare_eq (p : Prepared) :
    commentShare p = Number.toBinary (Number.ratio p.commentLineCount p.codeLineCount * 100) := by
  rw [commentShare]
  split
  · next hnone =>
    rw [beq_iff_eq.mp hnone, Number.ratio, Nat.cast_zero, div_zero, Number.toBinary_zero, zero_mul,
      Number.toBinary_zero]
  · rfl

end Metrics

/-- Every comment line is among the lines that are not blank. -/
theorem commentLineCount_le (l : Language) (t : Text) :
    (prepare l t).commentLineCount ≤ (prepare l t).codeLineCount := by
  have hlength : (prepare l t).lines.length ≤ (prepare l t).codeLines.length :=
    (length_codeLines l t).ge
  calc (prepare l t).commentLineCount
      ≤ ((prepare l t).lines.zip (prepare l t).codeLines).countP fun x => !x.1.isBlank := by
        refine List.countP_mono_left fun x _ hcomment => ?_
        exact (Bool.and_eq_true_iff.mp hcomment).1
    _ = (((prepare l t).lines.zip (prepare l t).codeLines).map Prod.fst).countP fun line =>
          !line.isBlank := by rw [List.countP_map]; rfl
    _ = (prepare l t).codeLineCount := by rw [List.map_fst_zip hlength]; rfl

namespace Detector

/-- Comments are no greater a part of all lines than of those that are not blank. -/
theorem commentShareOfAll_le (l : Language) (t : Text) :
    commentShareOfAll (prepare l t) ≤ Metrics.commentShare (prepare l t) := by
  have hcode : (prepare l t).codeLineCount ≤ (prepare l t).lines.length := List.countP_le_length
  have hcomment := commentLineCount_le l t
  have hshare : ((prepare l t).commentLineCount : Rat) / (prepare l t).lines.length ≤
      (prepare l t).commentLineCount / (prepare l t).codeLineCount := by
    rcases Nat.eq_zero_or_pos (prepare l t).codeLineCount with hzero | hpos
    · have hnone : (prepare l t).commentLineCount = 0 := Nat.le_zero.mp (hcomment.trans_eq hzero)
      rw [hnone, Nat.cast_zero, zero_div, zero_div]
    · gcongr
  rw [Metrics.commentShare_eq, commentShareOfAll]
  refine Number.toBinary_mono (mul_le_mul_of_nonneg_right ?_ (by norm_num))
  exact Number.toBinary_mono hshare

/-- Without blank lines the two shares are one. -/
theorem commentShareOfAll_eq (p : Prepared) (hfull : ∀ line ∈ p.lines, line.isBlank = false) :
    commentShareOfAll p = Metrics.commentShare p := by
  have hall : p.codeLineCount = p.lines.length :=
    List.countP_eq_length.mpr fun line hline => by simp [hfull line hline]
  rw [Metrics.commentShare_eq, commentShareOfAll, hall]

/-- There is a finding in a source of more lines than the minimum exactly if the share of all lines
is below the limit. -/
theorem commentDensity_ne_nil_iff {minLines limit : Quantity} {p : Prepared}
    (hlong : minLines.lt (.ofInt p.lines.length) = true) (hlimit : limit ≠ .undefined) :
    commentDensity minLines limit p ≠ [] ↔
      (Quantity.finite (commentShareOfAll p)).lt limit = true := by
  have hmin : minLines ≠ .undefined := (Quantity.ne_undefined_of_lt hlong).1
  have hmore : ¬ Quantity.le (.ofInt p.lines.length) minLines = true := by
    rw [Quantity.le_iff_not_lt (by simp [Quantity.ofInt]) hmin]
    exact not_not_intro hlong
  have hbelow := Quantity.le_iff_not_lt hlimit (b := .finite (commentShareOfAll p)) (by simp)
  rw [commentDensity, if_neg hmore]
  split
  · next habove => simpa using hbelow.mp habove
  · next hnot => simpa using not_not.mp (hbelow.not.mp hnot)

/-! ## Findings about comments -/

/-- Whether too few comments are reported in a source of more lines than the minimum, and whether
their share is below the limit. What is reported is the share of all lines; few comments by the
share that is measured are always reported. The two agree unless the limit lies between the shares,
so they do if no line is blank. What is reported agrees with the exact fraction of the lines that
are not blank unless the limit lies between it and the share of all lines. -/
theorem fewComments_agrees_iff (l : Language) (t : Text) (th : Thresholds) (minLines : Quantity)
    (hmin : th.commentDensityMinLines = .ok minLines)
    (hlong : minLines.lt (.ofInt t.lines.length) = true)
    (hvalid : Quantity.le (.ofInt 0) th.commentDensityFail = true) :
    let p := prepare l t
    let limit := th.commentDensityFail
    ∃ found, fewComments th p = .ok found ∧
      (found ≠ [] ↔ (Quantity.finite (commentShareOfAll p)).lt limit = true) ∧
      ((Quantity.finite (Metrics.commentShare p)).lt limit = true → found ≠ []) ∧
      ((found ≠ [] ↔ (Quantity.finite (Metrics.commentShare p)).lt limit = true) ↔
        ¬ limit.Between (commentShareOfAll p) (Metrics.commentShare p)) ∧
      ((∀ line ∈ p.lines, line.isBlank = false) →
        (found ≠ [] ↔ (Quantity.finite (Metrics.commentShare p)).lt limit = true)) ∧
      ((found ≠ [] ↔ (Quantity.finite (Metrics.exactShare p)).lt limit = true) ↔
        ¬ limit.Between (commentShareOfAll p) (Metrics.exactShare p) ∧
        ¬ limit.Between (Metrics.exactShare p) (commentShareOfAll p)) := by
  intro p limit
  have hlimit : limit ≠ .undefined := (Quantity.ne_undefined_of_le hvalid).2
  have hreports := commentDensity_ne_nil_iff (p := p) hlong hlimit
  have hfew : (Quantity.finite (Metrics.commentShare p)).lt limit = true →
      (Quantity.finite (commentShareOfAll p)).lt limit = true :=
    fun hmeasured => Quantity.finite_lt_of_le hmeasured (commentShareOfAll_le l t)
  refine ⟨commentDensity minLines limit p, ?_, hreports, fun h => hreports.mpr (hfew h), ?_, ?_, ?_⟩
  · rw [fewComments, hmin]
    rfl
  · rw [hreports, Quantity.lt_finite_iff_iff hlimit, and_iff_left_iff_imp]
    intro _ hbetween
    exact (Quantity.le_iff_not_lt hlimit (by simp)).mp hbetween.2 (hfew hbetween.1)
  · intro hfull
    rw [hreports, commentShareOfAll_eq p hfull]
  · rw [hreports, Quantity.lt_finite_iff_iff hlimit]

/-- A line of comment and twenty lines of code. -/
def rarelyExplained : Text := "# c".toList ++ (List.replicate 20 "\nx = 1".toList).flatten

/-- One line of comment in twenty-one is below five per cent, and is reported. -/
theorem fewComments_agrees_rarelyExplained :
    let p := prepare Language.python rarelyExplained
    Quantity.lt (.ofInt 20) (.ofInt rarelyExplained.lines.length) = true ∧
      Quantity.le (.ofInt 0) (.ofInt 5) = true ∧ (∀ line ∈ p.lines, line.isBlank = false) ∧
      (Quantity.finite (Metrics.commentShare p)).lt (.ofInt 5) = true ∧
      ∃ found, fewComments {} p = .ok found ∧ found ≠ [] := by
  intro p
  have hlong : Quantity.lt (.ofInt 20) (.ofInt rarelyExplained.lines.length) = true := by
    decide +kernel
  have hfew : (Quantity.finite (Metrics.commentShare p)).lt (.ofInt 5) = true := by decide +kernel
  obtain ⟨found, hfound, -, hreports, -⟩ :=
    fewComments_agrees_iff Language.python rarelyExplained {} (.ofInt 20) rfl hlong (by decide)
  exact ⟨hlong, by decide, by decide +kernel, hfew, found, hfound, hreports hfew⟩

/-- A line of comment and a line of code before nineteen blank lines. -/
def wellSpaced : Text := "# c\nx = 1".toList ++ List.replicate 19 '\n'

/-- A source that is half comments is reported for its blank lines. -/
theorem wellSpaced_reported :
    ¬ ∀ (t : Text) (th : Thresholds) (minLines : Quantity), t.isBlank = false →
      th.commentDensityMinLines = .ok minLines →
      minLines.lt (.ofInt t.lines.length) = true →
      Quantity.le (.ofInt 0) th.commentDensityFail = true →
      ((∃ found, fewComments th (prepare Language.python t) = .ok found ∧ found ≠ []) ↔
        (Quantity.finite (Metrics.exactShare (prepare Language.python t))).lt
          th.commentDensityFail = true) := by
  intro hagree
  have hreported :
      ∃ found, fewComments {} (prepare Language.python wellSpaced) = .ok found ∧ found ≠ [] :=
    ⟨_, rfl, by decide +kernel⟩
  have hfew := (hagree wellSpaced {} (.ofInt 20) (by decide) rfl (by decide +kernel)
    (by decide)).mp hreported
  exact absurd hfew (by decide +kernel)

end Detector
end SourceAudit
