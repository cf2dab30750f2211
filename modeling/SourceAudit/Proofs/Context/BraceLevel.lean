import Mathlib.Data.List.Infix
import SourceAudit.Proofs.Source.PreparedLines
import SourceAudit.Proofs.Text.JoinedLines

/-!
  Braces of a text.

  `braceLevel` counts the braces that a text leaves open. A text has balanced braces
  if no prefix closes more than it opens and nothing is left open. A text that closes
  more than it opens has a first brace that does so, behind a balanced text
  (`exists_closing`); so in a balanced text every opening brace is closed
  (`exists_closing_of_balanced`), on its own line or on one below (`exists_body`,
  `exists_lines_of_body`).

  The depths of lines never go below zero. Where no prefix closes more than it opens
  they count the braces that are open (`depthBefore_eq_braceLevel`).
-/
namespace SourceAudit

/-- The braces that a text opens less those that it closes. -/
def braceLevel (t : Text) : Int := (t.count '\x7b' : Int) - t.count '\x7d'

/-- No prefix of a text closes more braces than it opens, and the text closes all that it opens. -/
structure BalancedBraces (t : Text) : Prop where
  sane : ∀ u, u <+: t → 0 ≤ braceLevel u
  closed : braceLevel t = 0

theorem balancedBraces_iff (t : Text) :
    BalancedBraces t ↔ (∀ u ∈ t.inits, 0 ≤ braceLevel u) ∧ braceLevel t = 0 :=
  ⟨fun h => ⟨fun u hu => h.sane u ((List.mem_inits u t).mp hu), h.closed⟩,
    fun h => ⟨fun u hu => h.1 u ((List.mem_inits u t).mpr hu), h.2⟩⟩

instance (t : Text) : Decidable (BalancedBraces t) := decidable_of_iff _ (balancedBraces_iff t).symm

theorem braceLevel_nil : braceLevel [] = 0 := rfl

theorem braceLevel_open : braceLevel ['\x7b'] = 1 := by decide

theorem braceLevel_close : braceLevel ['\x7d'] = -1 := by decide

theorem braceLevel_append (t u : Text) : braceLevel (t ++ u) = braceLevel t + braceLevel u := by
  simp only [braceLevel, List.count_append]
  omega

theorem braceLevel_cons (c : Char) (t : Text) :
    braceLevel (c :: t) = braceLevel [c] + braceLevel t :=
  braceLevel_append [c] t

theorem braceLevel_singleton {c : Char} (h : c ≠ '\x7d') : 0 ≤ braceLevel [c] := by
  have hclose : [c].count '\x7d' = 0 := List.count_eq_zero.mpr (by simpa using h.symm)
  simp only [braceLevel, hclose]
  omega

theorem BalancedBraces.of_cons {c : Char} {t : Text} (h : BalancedBraces (c :: t))
    (hopen : c ≠ '\x7b') (hclose : c ≠ '\x7d') : BalancedBraces t := by
  have hlevel : ∀ v, braceLevel (c :: v) = braceLevel v := fun v => by
    simp [braceLevel, hopen, hclose]
  exact ⟨fun v hv => hlevel v ▸ h.sane (c :: v) (List.cons_prefix_cons.mpr ⟨rfl, hv⟩),
    hlevel t ▸ h.closed⟩

/-- A text without braces has balanced ones. -/
theorem BalancedBraces.of_not_mem {t : Text} (hopen : '\x7b' ∉ t) (hclose : '\x7d' ∉ t) :
    BalancedBraces t := by
  have hlevel : ∀ v, v <+: t → braceLevel v = 0 := fun v hv => by
    rw [braceLevel, List.count_eq_zero.mpr fun h => hopen (hv.subset h),
      List.count_eq_zero.mpr fun h => hclose (hv.subset h)]
    rfl
  exact ⟨fun v hv => Int.le_of_eq (hlevel v hv).symm, hlevel t (List.prefix_refl t)⟩

theorem BalancedBraces.append {t u : Text} (ht : BalancedBraces t) (hu : BalancedBraces u) :
    BalancedBraces (t ++ u) := by
  refine ⟨fun v hv => ?_, by rw [braceLevel_append, ht.closed, hu.closed, Int.add_zero]⟩
  rcases List.prefix_or_prefix_of_prefix hv (List.prefix_append t u) with hshort | ⟨w, rfl⟩
  · exact ht.sane v hshort
  · rw [braceLevel_append, ht.closed, Int.zero_add]
    exact hu.sane w ((List.prefix_append_right_inj t).mp hv)

/-- A balanced text in braces is balanced. -/
theorem BalancedBraces.enclose {t : Text} (h : BalancedBraces t) :
    BalancedBraces ('\x7b' :: t ++ ['\x7d']) := by
  have hwhole : braceLevel ('\x7b' :: t ++ ['\x7d']) = 0 := by
    rw [braceLevel_append, braceLevel_cons, braceLevel_open, braceLevel_close, h.closed]
    rfl
  refine ⟨fun v hv => ?_, hwhole⟩
  rcases List.prefix_concat_iff.mp hv with rfl | hv
  · exact Int.le_of_eq hwhole.symm
  · rcases List.prefix_cons_iff.mp hv with rfl | ⟨w, rfl, hw⟩
    · exact Int.le_refl 0
    · have hgo := h.sane w hw
      rw [braceLevel_cons, braceLevel_open]
      omega

/-- The first brace that closes more than `n` braces, which are open before the text. -/
theorem exists_closing {n : Int} {t : Text} (hn : 0 ≤ n) (h : n + braceLevel t < 0) :
    ∃ body rest, t = body ++ '\x7d' :: rest ∧ (∀ u, u <+: body → 0 ≤ n + braceLevel u) ∧
      n + braceLevel body = 0 := by
  induction t generalizing n with
  | nil =>
    rw [braceLevel_nil] at h
    omega
  | cons c t ih =>
    by_cases hhere : c = '\x7d' ∧ n = 0
    · obtain ⟨rfl, rfl⟩ := hhere
      refine ⟨[], t, rfl, fun u hu => ?_, rfl⟩
      rw [List.prefix_nil.mp hu]
      decide
    · -- the character is passed: as many or more braces are open, or one of several is closed
      have hnext : 0 ≤ n + braceLevel [c] := by
        by_cases hc : c = '\x7d'
        · have hone : braceLevel [c] = -1 := hc ▸ braceLevel_close
          have hsome : n ≠ 0 := fun hzero => hhere ⟨hc, hzero⟩
          omega
        · have hup := braceLevel_singleton hc
          omega
      rw [braceLevel_cons] at h
      obtain ⟨body, rest, rfl, hsane, hclosed⟩ := ih hnext (by omega)
      refine ⟨c :: body, rest, rfl, fun u hu => ?_, ?_⟩
      · rcases List.prefix_cons_iff.mp hu with rfl | ⟨v, rfl, hv⟩
        · rw [braceLevel_nil]
          omega
        · have hgo := hsane v hv
          rw [braceLevel_cons]
          omega
      · rw [braceLevel_cons]
        omega

/-- In a balanced text an opening brace is closed behind a balanced text. -/
theorem exists_closing_of_balanced {before behind : Text}
    (h : BalancedBraces (before ++ '\x7b' :: behind)) :
    ∃ body rest, behind = body ++ '\x7d' :: rest ∧ BalancedBraces body := by
  have hbefore : 0 ≤ braceLevel before := h.sane before (List.prefix_append ..)
  have htotal : braceLevel before + (1 + braceLevel behind) = 0 := by
    have hclosed := h.closed
    rwa [braceLevel_append, braceLevel_cons] at hclosed
  obtain ⟨body, rest, hcut, hsane, hclosed⟩ := exists_closing (Int.le_refl 0)
    (show 0 + braceLevel behind < 0 by omega)
  refine ⟨body, rest, hcut, fun u hu => ?_, ?_⟩
  · have hgo := hsane u hu
    omega
  · omega

/-- Newlines are no braces. -/
theorem braceLevel_joinLines (ls : List Text) :
    braceLevel (Text.joinLines ls) = braceLevel ls.flatten := by
  induction ls with
  | nil => rfl
  | cons row ls ih =>
    by_cases hnil : ls = []
    · rw [hnil]
      simp [Text.joinLines, Text.joinWith]
    · have hnewline : braceLevel ['\n'] = 0 := by decide
      rw [Text.joinLines_cons hnil, braceLevel_append, braceLevel_cons, hnewline, ih,
        List.flatten_cons, braceLevel_append]
      omega

/-! ## Blocks on lines -/

section
variable {t lead rest : Text} {i : Nat}

/-- In a balanced text the block that a brace opens on a line is closed on it or below. -/
theorem exists_body (h : BalancedBraces t) (hline : t.lines[i]? = some (lead ++ '\x7b' :: rest)) :
    ∃ body, BalancedBraces body ∧
      body ++ ['\x7d'] <+: Text.joinLines (rest :: t.lines.drop (i + 1)) := by
  obtain ⟨before, hjoined⟩ := Text.exists_joinLines_eq hline
  rw [Text.joinLines_lines] at hjoined
  rw [hjoined] at h
  obtain ⟨body, after, hbehind, hbalanced⟩ := exists_closing_of_balanced h
  exact ⟨body, hbalanced, after, by rw [hbehind, List.append_assoc, List.singleton_append]⟩

/-- The body of the block ends in front of the closing brace on one of these lines. -/
theorem exists_lines_of_body (hline : t.lines[i]? = some (lead ++ '\x7b' :: rest)) {body : Text}
    (h : body ++ ['\x7d'] <+: Text.joinLines (rest :: t.lines.drop (i + 1))) :
    ∃ inner left right more,
      rest :: t.lines.drop (i + 1) = inner ++ (left ++ '\x7d' :: right) :: more ∧
        body = Text.joinLines (inner ++ [left]) ∧ inner.length = body.count '\n' := by
  have hrows : ∀ row ∈ rest :: t.lines.drop (i + 1), '\n' ∉ row := by
    refine List.forall_mem_cons.mpr ⟨fun hrest => ?_, fun row hrow => ?_⟩
    · exact Text.newline_not_mem_of_mem_lines (List.mem_of_getElem? hline) (by simp [hrest])
    · exact Text.newline_not_mem_of_mem_lines (List.mem_of_mem_drop hrow)
  obtain ⟨after, hafter⟩ := h
  rw [List.append_assoc, List.singleton_append] at hafter
  exact Text.joinLines_cut hrows (by decide) hafter.symm

end

/-! ## Depths of lines -/

namespace Depth

/-- A character changes the depth by its own level, unless that would be below zero. -/
theorem after_braceStep (d : Depth) {c : Char} (h : 0 ≤ (d.after : Int) + braceLevel [c]) :
    ((braceStep d c).after : Int) = d.after + braceLevel [c] := by
  by_cases hopen : c = '\x7b'
  · subst hopen
    rfl
  · by_cases hclose : c = '\x7d'
    · subst hclose
      have hone := braceLevel_close
      have hstep : (braceStep d '\x7d').after = d.after - 1 := rfl
      omega
    · have hzero : braceLevel [c] = 0 := by simp [braceLevel, hopen, hclose]
      simp [braceStep, hopen, hclose, hzero]

/-- The depth after some characters, none of which closes a brace too many. -/
theorem after_foldl_braceStep {d : Depth} {line : Text}
    (h : ∀ u, u <+: line → 0 ≤ (d.after : Int) + braceLevel u) :
    ((line.foldl braceStep d).after : Int) = d.after + braceLevel line := by
  induction line generalizing d with
  | nil => simp [braceLevel_nil]
  | cons c line ih =>
    have hstep := after_braceStep d (h [c] (by simp [List.cons_prefix_cons]))
    have hnext : ∀ u, u <+: line → 0 ≤ ((braceStep d c).after : Int) + braceLevel u := by
      intro u hu
      have hgo := h (c :: u) (List.cons_prefix_cons.mpr ⟨rfl, hu⟩)
      rw [braceLevel_cons] at hgo
      omega
    rw [List.foldl_cons, ih hnext, hstep, braceLevel_cons c line]
    omega

theorem peak_le_foldl (d : Depth) (line : Text) : d.peak ≤ (line.foldl braceStep d).peak := by
  induction line generalizing d with
  | nil => exact Nat.le_refl _
  | cons c line ih =>
    have hstep : d.peak ≤ (braceStep d c).peak := by
      unfold braceStep
      split
      · exact Nat.le_max_left ..
      · split <;> exact Nat.le_refl _
    exact Nat.le_trans hstep (ih _)

/-- The peak of a line is no lower than what any of its opening braces opens. -/
theorem lt_peak_braceLine {before : Nat} {lead rest : Text}
    (h : ∀ u, u <+: lead → 0 ≤ (before : Int) + braceLevel u) :
    (before : Int) + braceLevel lead < (braceLine before (lead ++ '\x7b' :: rest)).peak := by
  have hlead : ((lead.foldl braceStep ⟨before, 0⟩).after : Int) = before + braceLevel lead :=
    after_foldl_braceStep (d := ⟨before, 0⟩) h
  have hpeak := peak_le_foldl (braceStep (lead.foldl braceStep ⟨before, 0⟩) '\x7b') rest
  have hstep : (lead.foldl braceStep ⟨before, 0⟩).after + 1 ≤
      (braceStep (lead.foldl braceStep ⟨before, 0⟩) '\x7b').peak :=
    Nat.le_max_right (lead.foldl braceStep ⟨before, 0⟩).peak _
  rw [braceLine, List.foldl_append, List.foldl_cons]
  omega

/-- The depth behind some lines, from the depth before them. -/
def behind (before : Nat) (ls : List Text) : Nat :=
  ls.foldl (fun n line => (braceLine n line).after) before

/-- The depths of lines, each from the depth behind those before it. -/
theorem bracesFrom_getElem? (before : Nat) (ls : List Text) (i : Nat) :
    (bracesFrom before ls)[i]? = ls[i]?.map (braceLine (behind before (ls.take i))) := by
  induction ls generalizing before i with
  | nil => rfl
  | cons line ls ih =>
    cases i with
    | zero => rfl
    | succ i =>
      rw [bracesFrom, List.getElem?_cons_succ, ih]
      rfl

/-- The depth behind lines that close no brace too many. -/
theorem behind_eq_braceLevel {before : Nat} {ls : List Text}
    (h : ∀ u, u <+: Text.joinLines ls → 0 ≤ (before : Int) + braceLevel u) :
    (behind before ls : Int) = before + braceLevel ls.flatten := by
  induction ls generalizing before with
  | nil => simp [behind, braceLevel_nil]
  | cons line ls ih =>
    have hfirst : line <+: Text.joinLines (line :: ls) :=
      @Text.joinLines_isPrefix [line] ls (List.cons_ne_nil _ _)
    have hline : ((braceLine before line).after : Int) = before + braceLevel line :=
      after_foldl_braceStep (d := ⟨before, 0⟩) fun u hu => h u (hu.trans hfirst)
    have hrest : ∀ u, u <+: Text.joinLines ls →
        0 ≤ ((braceLine before line).after : Int) + braceLevel u := by
      intro u hu
      by_cases hnil : ls = []
      · subst hnil
        rw [List.prefix_nil.mp hu, hline, braceLevel_nil, Int.add_zero]
        exact h line hfirst
      · have hnewline : braceLevel ['\n'] = 0 := by decide
        have hgo := h (line ++ '\n' :: u) (by
          rw [Text.joinLines_cons hnil, List.prefix_append_right_inj]
          exact List.cons_prefix_cons.mpr ⟨rfl, hu⟩)
        rw [braceLevel_append, braceLevel_cons, hnewline] at hgo
        omega
    have hbehind : behind before (line :: ls) = behind (braceLine before line).after ls := rfl
    rw [hbehind, ih hrest, hline, List.flatten_cons, braceLevel_append]
    omega

end Depth

section
variable {l : Language} {t : Text} (hbraces : l.usesBraces = true)
include hbraces

/-- The depth of a line goes on from the depth before it. -/
theorem depths_getElem? (i : Nat) :
    (prepare l t).depths[i]? =
      (prepare l t).maskedLines[i]?.map
        (Depth.braceLine (Depth.behind 0 ((prepare l t).maskedLines.take i))) := by
  have hdepths : (prepare l t).depths = Depth.braces (prepare l t).maskedLines := if_pos hbraces
  rw [hdepths]
  exact Depth.bracesFrom_getElem? 0 _ i

theorem depthBefore_eq_behind {i : Nat} (hi : i ≤ (prepare l t).maskedLines.length) :
    (prepare l t).depthBefore i = Depth.behind 0 ((prepare l t).maskedLines.take i) := by
  cases i with
  | zero => rfl
  | succ i =>
    have hline := List.getElem?_eq_getElem (show i < (prepare l t).maskedLines.length from hi)
    rw [Prepared.depthBefore, List.getD_eq_getElem?_getD, depths_getElem? hbraces, hline,
      Option.map_some, Option.getD_some, List.take_add_one, hline, Option.toList_some,
      Depth.behind, Depth.behind, List.foldl_append]
    rfl

/-- Between balanced braces the depth before a line is the number of braces that are open there. -/
theorem depthBefore_eq_braceLevel (hbalanced : BalancedBraces (prepare l t).masked) {i : Nat}
    (hi : i ≤ (prepare l t).maskedLines.length) :
    ((prepare l t).depthBefore i : Int) =
      braceLevel ((prepare l t).maskedLines.take i).flatten := by
  have hsane : ∀ u, u <+: Text.joinLines ((prepare l t).maskedLines.take i) →
      0 ≤ ((0 : Nat) : Int) + braceLevel u := by
    intro u hu
    by_cases hnil : (prepare l t).maskedLines.take i = []
    · rw [hnil] at hu
      rw [List.prefix_nil.mp hu]
      decide
    · have hmasked : Text.joinLines ((prepare l t).maskedLines.take i) <+: (prepare l t).masked := by
        have happend := @Text.joinLines_isPrefix _ ((prepare l t).maskedLines.drop i) hnil
        rwa [List.take_append_drop, show Text.joinLines (prepare l t).maskedLines =
          (prepare l t).masked from Text.joinLines_lines _] at happend
      have hgo := hbalanced.sane u (hu.trans hmasked)
      omega
  rw [depthBefore_eq_behind hbraces hi, Depth.behind_eq_braceLevel hsane]
  omega

/-- As far as a line goes, no brace is closed that is not open. -/
theorem zero_le_depthBefore_add (hbalanced : BalancedBraces (prepare l t).masked) {i : Nat}
    {line u : Text} (hline : (prepare l t).maskedLines[i]? = some line) (hu : u <+: line) :
    0 ≤ ((prepare l t).depthBefore i : Int) + braceLevel u := by
  obtain ⟨v, rfl⟩ := hu
  have hi : i < (prepare l t).maskedLines.length := (List.getElem?_eq_some_iff.mp hline).1
  have hdrop := List.drop_eq_getElem?_toList_append (l := (prepare l t).maskedLines) (i := i)
  rw [hline, Option.toList_some, List.singleton_append] at hdrop
  have hmasked : Text.joinLines ((prepare l t).maskedLines.take i ++ [u]) <+:
      (prepare l t).masked := by
    have hcut := Text.joinLines_isPrefix_append ((prepare l t).maskedLines.take i)
      ((prepare l t).maskedLines.drop (i + 1)) u v
    rwa [← hdrop, List.take_append_drop, show Text.joinLines (prepare l t).maskedLines =
      (prepare l t).masked from Text.joinLines_lines _] at hcut
  have hgo := hbalanced.sane _ hmasked
  rw [braceLevel_joinLines, List.flatten_append, braceLevel_append] at hgo
  rw [depthBefore_eq_braceLevel hbraces hbalanced hi.le]
  simpa using hgo

/-- Behind the last line no brace is open. -/
theorem depthBefore_length (hbalanced : BalancedBraces (prepare l t).masked) :
    (prepare l t).depthBefore (prepare l t).maskedLines.length = 0 := by
  have hlevel := depthBefore_eq_braceLevel hbraces hbalanced (Nat.le_refl _)
  rw [List.take_length, ← braceLevel_joinLines, show Text.joinLines (prepare l t).maskedLines =
    (prepare l t).masked from Text.joinLines_lines _, hbalanced.closed] at hlevel
  omega

end

end SourceAudit
