import Mathlib.Data.List.Infix
import SourceAudit.Complexity.LoopDepth
import SourceAudit.Proofs.Complexity.QuietText
import SourceAudit.Proofs.Context.BraceLevel

/-!
  Steps over the parts of a program, from one place where a statement or the
  body of a loop can start to the next.

  A place is `Settled` if all waiting loops stand at its own parentheses and the
  open blocks are noted. The place behind a statement whose loops are `d` deep is
  `s.after d`: nothing waits, and the depth here and `d` more is noted. What is proved:
    1. `step_loop_settled`, `after_step_loop` — a loop word leads to a settled place, and
       a body behind it counts one more.
    2. `foldl_idle`, `foldl_balanced` — where nothing waits, a text without loops changes
       only what is open, and nothing at all if it is in balance.
    3. `step_semicolon`, `foldl_block` — a semicolon ends a body without loops of its
       own, a block a body as deep as what stands in it.
    4. `foldl_head`, `foldl_parens` — a head changes nothing, unless a brace in it, or a
       semicolon outside of its parentheses, takes what waits.
-/
namespace SourceAudit
namespace LoopDepth.State

/-- A place where a statement or a body can start: all waiting loops stand at the open
parentheses, and the open blocks are noted. -/
structure Settled (s : State) : Prop where
  waiting : ∀ w ∈ s.waiting, w = ⟨s.parens, false⟩
  noted : s.taken ≤ s.deepest

/-- The place behind a statement or a body in which loops are nested `d` deep. -/
def after (s : State) (d : Nat) : State :=
  { s with waiting := [], deepest := max s.deepest (s.here + d) }

theorem settled_start : Settled {} := ⟨by simp, by simp [taken]⟩

theorem Settled.after {s : State} (h : s.Settled) (d : Nat) : (s.after d).Settled :=
  ⟨by simp [State.after], Nat.le_trans h.noted (Nat.le_max_left ..)⟩

/-- Nothing has happened where nothing waits. -/
theorem after_zero {s : State} (h : s.Settled) (hw : s.waiting = []) : s.after 0 = s := by
  have hdeep : max s.deepest s.here = s.deepest :=
    Nat.max_eq_left (by simpa [here, hw] using h.noted)
  rw [after, Nat.add_zero, hdeep, ← hw]

/-- Statements in a row are as deep as the deepest of them. -/
theorem after_after {s : State} (hw : s.waiting = []) (d e : Nat) :
    (s.after d).after e = s.after (max d e) := by
  simp only [after, here, taken, hw, List.length_nil, Nat.add_zero, State.mk.injEq, true_and]
  omega

/-- What is no deeper than the statement before it changes nothing. -/
theorem after_after_of_le (s : State) {d e : Nat} (h : e ≤ d) : (s.after d).after e = s.after d := by
  simp only [after, here, taken, List.length_nil, Nat.add_zero, State.mk.injEq, true_and]
  omega

/-! ## A loop word -/

theorem step_loop_settled {s : State} (h : s.Settled) : (s.step .loop).Settled :=
  ⟨by simpa [step] using h.waiting, h.noted⟩

/-- A loop counts one more for its body. -/
theorem after_step_loop (s : State) (d : Nat) : (s.step .loop).after d = s.after (d + 1) := by
  simp only [after, step, here, taken, List.length_cons, State.mk.injEq, true_and]
  omega

/-! ## Text where nothing waits -/

/-- Parentheses are closed where they were opened: none too many before any place, and none is
left open. -/
def Balanced (t : Text) : Prop :=
  (∀ p ∈ t.inits, p.count ')' ≤ p.count '(') ∧ t.count '(' = t.count ')'

instance (t : Text) : Decidable (Balanced t) := inferInstanceAs (Decidable (_ ∧ _))

theorem Balanced.count_le {t p : Text} (h : Balanced t) (hp : p <+: t) :
    p.count ')' ≤ p.count '(' :=
  h.1 p ((List.mem_inits p t).mpr hp)

theorem count_cons_eq (d c : Char) (v : Text) : (c :: v).count d = [c].count d + v.count d :=
  @List.count_append _ _ d [c] v

/-- Behind a character no more parentheses are closed than are open there. -/
theorem count_le_behind {c : Char} {t : Text} {n : Nat}
    (h : ∀ p, p <+: c :: t → p.count ')' ≤ n + p.count '(') :
    ∀ p, p <+: t → p.count ')' ≤ n + [c].count '(' - [c].count ')' + p.count '(' := by
  intro p hp
  have hgo := h (c :: p) (List.cons_prefix_cons.mpr ⟨rfl, hp⟩)
  rw [count_cons_eq ')' c p, count_cons_eq '(' c p] at hgo
  omega

/-- The step over a character: over its token, if it is a mark that counts. -/
def stepMark (s : State) (c : Char) : State := (LoopToken.ofMark? c).elim s s.step

theorem foldl_stepMark (s : State) (t : Text) :
    (t.filterMap LoopToken.ofMark?).foldl step s = t.foldl stepMark s := by
  induction t generalizing s with
  | nil => rfl
  | cons c t ih =>
    cases hc : LoopToken.ofMark? c with
    | none => rw [List.filterMap_cons_none hc, ih, List.foldl_cons, stepMark, hc]; rfl
    | some token =>
      rw [List.filterMap_cons_some hc, List.foldl_cons, ih, List.foldl_cons, stepMark, hc]
      rfl

section
variable {u : State} (hw : u.waiting = []) (hnoted : u.taken ≤ u.deepest) {stack base : List Nat}
  (hblocks : u.blocks = stack ++ base)
include hw hnoted hblocks

/-- Where nothing waits, a mark opens or closes a block that takes no loop, or counts a
parenthesis. The blocks of `stack` are those that may be closed. -/
theorem stepMark_idle {c : Char} (hbrace : 0 ≤ (stack.length : Int) + braceLevel [c])
    (hparen : [c].count ')' ≤ u.parens + [c].count '(') :
    ∃ stack' : List Nat, (stack'.length : Int) = stack.length + braceLevel [c] ∧
      (stack' ++ base).foldr (· + ·) 0 ≤ u.deepest ∧
      u.stepMark c =
        { u with blocks := stack' ++ base, parens := u.parens + [c].count '(' - [c].count ')' } := by
  rw [taken, hblocks] at hnoted
  have hsame : braceLevel [c] = 0 → u.stepMark c =
        { u with blocks := stack ++ base, parens := u.parens + [c].count '(' - [c].count ')' } →
      ∃ stack' : List Nat, (stack'.length : Int) = stack.length + braceLevel [c] ∧
        (stack' ++ base).foldr (· + ·) 0 ≤ u.deepest ∧
        u.stepMark c =
          { u with blocks := stack' ++ base, parens := u.parens + [c].count '(' - [c].count ')' } :=
    fun hlevel hstep => ⟨stack, by omega, hnoted, hstep⟩
  by_cases h1 : c = '('
  · subst h1
    exact hsame (by decide) (by rw [← hblocks]; rfl)
  by_cases h2 : c = ')'
  · subst h2
    have hstep : u.step .parenClose = { u with parens := u.parens - 1 } := by
      rw [step, closeParen, hw]
    exact hsame (by decide) (by rw [← hblocks]; exact hstep)
  by_cases h3 : c = ';'
  · subst h3
    have hstep : u.step .semicolon = u := by rw [step, endBody, hw, List.getLast?_nil]
    exact hsame (by decide) (by rw [← hblocks]; exact hstep)
  by_cases h4 : c = '\x7b'
  · subst h4
    -- no loop is taken by the block, and the depth here is noted already
    have hdeep : max u.deepest u.here = u.deepest :=
      Nat.max_eq_left (by simpa [here, taken, hw, hblocks] using hnoted)
    refine ⟨0 :: stack, ?_, by simpa using hnoted, ?_⟩
    · rw [List.length_cons, braceLevel_open]
      omega
    · rw [List.cons_append, ← hblocks]
      simp [stepMark, LoopToken.ofMark?, step, openBrace, note, hw, hdeep]
  by_cases h5 : c = '\x7d'
  · subst h5
    rw [braceLevel_close] at hbrace ⊢
    cases stack with
    | nil => simp at hbrace
    | cons b stack =>
      rw [List.cons_append, List.foldr_cons] at hnoted
      refine ⟨stack, by rw [List.length_cons]; omega, by omega, ?_⟩
      simp [stepMark, LoopToken.ofMark?, step, hblocks]
  · have hnone : LoopToken.ofMark? c = none := by simp [LoopToken.ofMark?, h1, h2, h3, h4, h5]
    exact hsame (by simp [braceLevel, h4, h5]) (by rw [← hblocks]; simp [stepMark, hnone, h1, h2])

/-- So the marks of a text, which closes no brace and no parenthesis too many, change the blocks of
`stack` and the number of parentheses, and nothing else. -/
theorem foldl_idle {t : Text}
    (hbraces : ∀ v, v <+: t → 0 ≤ (stack.length : Int) + braceLevel v)
    (hparens : ∀ v, v <+: t → v.count ')' ≤ u.parens + v.count '(') :
    ∃ stack' : List Nat, (stack'.length : Int) = stack.length + braceLevel t ∧
      (t.filterMap LoopToken.ofMark?).foldl step u =
        { u with blocks := stack' ++ base, parens := u.parens + t.count '(' - t.count ')' } := by
  -- induction on the text: what is open at its start changes from character to character
  rw [foldl_stepMark]
  induction t generalizing u stack with
  | nil => exact ⟨stack, by simp [braceLevel_nil], by rw [← hblocks]; rfl⟩
  | cons c t ih =>
    have hcons : ∀ {v : Text}, v <+: t → c :: v <+: c :: t :=
      fun hv => List.cons_prefix_cons.mpr ⟨rfl, hv⟩
    obtain ⟨stack₁, hlength₁, hnoted₁, hstep⟩ := stepMark_idle hw hnoted hblocks
      (hbraces [c] (hcons List.nil_prefix)) (hparens [c] (hcons List.nil_prefix))
    have hfirst := hparens [c] (hcons List.nil_prefix)
    obtain ⟨stack₂, hlength₂, hrun⟩ := @ih (u.stepMark c) (by rw [hstep]; exact hw)
      (by rw [hstep]; exact hnoted₁) stack₁ (by rw [hstep])
      (fun v hv => by
        have hgo := hbraces (c :: v) (hcons hv)
        rw [braceLevel_cons] at hgo
        omega)
      (by rw [hstep]; exact count_le_behind hparens)
    refine ⟨stack₂, by rw [braceLevel_cons c t]; omega, ?_⟩
    rw [List.foldl_cons, hrun, hstep, count_cons_eq ')' c t, count_cons_eq '(' c t]
    simp only [State.mk.injEq, true_and, and_true]
    omega

/-- If it closes the blocks of `stack`, only the number of parentheses changes otherwise. -/
theorem foldl_idle_of_closed {t : Text}
    (hbraces : ∀ v, v <+: t → 0 ≤ (stack.length : Int) + braceLevel v)
    (hclosed : (stack.length : Int) + braceLevel t = 0)
    (hparens : ∀ v, v <+: t → v.count ')' ≤ u.parens + v.count '(') :
    (t.filterMap LoopToken.ofMark?).foldl step u =
      { u with blocks := base, parens := u.parens + t.count '(' - t.count ')' } := by
  obtain ⟨stack', hlength, hrun⟩ := foldl_idle hw hnoted hblocks hbraces hparens
  obtain rfl : stack' = [] := List.length_eq_zero_iff.mp (by omega)
  exact hrun

end

/-- A text in balance leaves everything as it is where nothing waits. -/
theorem foldl_balanced {t : Text} (hparens : Balanced t) (hbraces : BalancedBraces t) {s : State}
    (h : s.Settled) (hw : s.waiting = []) : (t.filterMap LoopToken.ofMark?).foldl step s = s := by
  have hrun := foldl_idle_of_closed hw h.noted (show s.blocks = [] ++ s.blocks from rfl) (t := t)
    (fun v hv => by simpa using hbraces.sane v hv) (by simpa using hbraces.closed)
    (fun v hv => by
      have hle := hparens.count_le hv
      omega)
  rw [hrun, hparens.2, Nat.add_sub_cancel]

/-! ## The end of a body -/

/-- A semicolon ends a body without loops of its own. -/
theorem step_semicolon {s : State} (h : s.Settled) : s.step .semicolon = s.after 0 := by
  cases hw : s.waiting.getLast? with
  | none =>
    rw [step, endBody, hw]
    exact (after_zero h (List.getLast?_eq_none_iff.mp hw)).symm
  | some w =>
    obtain rfl := h.waiting w (List.mem_of_getLast? hw)
    simp [step, endBody, hw, after, note]

theorem settled_openBrace (s : State) : s.openBrace.Settled :=
  ⟨by simp [openBrace, note], by
    rw [openBrace, note, here, taken, taken, List.foldr_cons, Nat.add_comm]
    exact Nat.le_max_right ..⟩

/-- The loops of a block count on from where it starts. -/
theorem openBrace_here (s : State) : s.openBrace.here = s.here := by
  simp [openBrace, note, here, taken, Nat.add_comm]

/-- A block ends a body that is as deep as what stands in the block. -/
theorem foldl_block {inner : List LoopToken} {d : Nat}
    (hinner : ∀ s : State, s.Settled → s.waiting = [] → inner.foldl step s = s.after d)
    (s : State) :
    (LoopToken.braceOpen :: (inner ++ [LoopToken.braceClose])).foldl step s = s.after d := by
  -- the brace takes what waits, and the brace that closes drops it again
  rw [List.foldl_cons, List.foldl_append, step, hinner _ (settled_openBrace s) rfl]
  have hdeep : max (max s.deepest s.here) (s.here + d) = max s.deepest (s.here + d) := by omega
  simp only [List.foldl_cons, List.foldl_nil, step, after, openBrace_here]
  simp only [openBrace, note, List.drop_succ_cons, List.drop_zero, hdeep]

/-! ## The head of a loop -/

/-- Whether something in a head takes what waits in front of it, given how many parentheses are
open: a brace that opens, or a semicolon outside of parentheses. -/
def takes : (opened : Nat) → Text → Bool
  | _, [] => false
  | n, c :: t =>
    if c == '\x7b' || (c == ';' && n == 0) then true
    else takes (if c == '(' then n + 1 else if c == ')' then n - 1 else n) t

/-- Any other character at most counts a parenthesis. -/
theorem takes_cons {c : Char} {n : Nat} (hbrace : c ≠ '\x7b') (hsemicolon : c = ';' → 0 < n)
    (t : Text) : takes n (c :: t) = takes (n + [c].count '(' - [c].count ')') t := by
  have hstays : (c == '\x7b' || (c == ';' && n == 0)) = false := by
    simp only [Bool.or_eq_false_iff, beq_eq_false_iff_ne, Bool.and_eq_false_imp, beq_iff_eq]
    exact ⟨hbrace, fun hc => (hsemicolon hc).ne'⟩
  rw [takes, hstays, if_neg Bool.false_ne_true]
  by_cases h1 : c = '('
  · simp [h1]
  by_cases h2 : c = ')'
  · simp [h2]
  · simp [h1, h2]

/-- Within parentheses only a brace takes what waits. -/
theorem takes_succ {t : Text} {n : Nat} (h : ∀ p, p <+: t → p.count ')' ≤ n + p.count '(') :
    takes (n + 1) t = t.contains '\x7b' := by
  induction t generalizing n with
  | nil => rfl
  | cons c t ih =>
    by_cases hbrace : c = '\x7b'
    · simp [takes, hbrace]
    · have hfirst := h [c] (List.cons_prefix_cons.mpr ⟨rfl, List.nil_prefix⟩)
      have hsucc : n + 1 + [c].count '(' - [c].count ')' = n + [c].count '(' - [c].count ')' + 1 := by
        omega
      rw [takes_cons hbrace (fun _ => Nat.succ_pos n), hsucc, ih (count_le_behind h)]
      simp [Ne.symm hbrace]

/-- A parenthesis that closes while no call waits closes nothing else. -/
theorem step_parenClose {s : State} (h : s.Settled) (n : Nat) :
    { s with parens := n }.step .parenClose = { s with parens := n - 1 } := by
  obtain ⟨hwaiting, -⟩ := h
  cases s with
  | mk blocks waiting parens deepest =>
    cases waiting with
    | nil => rfl
    | cons w rest =>
      have hw : w = ⟨parens, false⟩ := hwaiting w List.mem_cons_self
      subst hw
      rfl

/-- A semicolon in a head ends nothing. -/
theorem step_semicolon_of_lt {s : State} (h : s.Settled) {n : Nat} (hn : s.parens < n) :
    { s with parens := n }.step .semicolon = { s with parens := n } := by
  cases hw : s.waiting.getLast? with
  | none => simp [step, endBody, hw]
  | some w =>
    obtain rfl := h.waiting w (List.mem_of_getLast? hw)
    simp [step, endBody, hw, Nat.not_le.mpr hn]

/-- A character in a head that takes nothing at most counts a parenthesis. -/
theorem stepMark_head {c : Char} {s : State} (h : s.Settled) {n : Nat} (hopen : c ≠ '\x7b')
    (hclose : c ≠ '\x7d') (hsemicolon : c = ';' → 0 < n) (hparen : [c].count ')' ≤ n + [c].count '(') :
    { s with parens := s.parens + n }.stepMark c =
      { s with parens := s.parens + (n + [c].count '(' - [c].count ')') } := by
  by_cases h1 : c = '('
  · subst h1
    rfl
  by_cases h2 : c = ')'
  · subst h2
    have hpos : 1 ≤ n := hparen
    exact (step_parenClose h _).trans (by rw [Nat.add_sub_assoc hpos]; rfl)
  by_cases h3 : c = ';'
  · subst h3
    exact step_semicolon_of_lt h (Nat.lt_add_of_pos_right (hsemicolon rfl))
  · have hnone : LoopToken.ofMark? c = none := by simp [LoopToken.ofMark?, *]
    simp [stepMark, hnone, h1, h2]

/-- Behind what has taken all that waits, the rest of a head closes the blocks of `stack` and leads
from `k` open parentheses to `n`. -/
theorem foldl_taken {t : Text} {s : State} (stack : List Nat) {k n : Nat}
    (hnoted : (stack ++ s.blocks).foldr (· + ·) 0 ≤ (s.after 0).deepest)
    (hbraces : ∀ v, v <+: t → 0 ≤ (stack.length : Int) + braceLevel v)
    (hclosed : (stack.length : Int) + braceLevel t = 0)
    (hparens : ∀ v, v <+: t → v.count ')' ≤ k + v.count '(')
    (hn : k + t.count '(' = n + t.count ')') :
    (t.filterMap LoopToken.ofMark?).foldl step
      { s.after 0 with blocks := stack ++ s.blocks, parens := s.parens + k } =
        { s.after 0 with parens := s.parens + n } := by
  have hparen : s.parens + k + t.count '(' - t.count ')' = s.parens + n := by omega
  have hrun := foldl_idle_of_closed
    (u := { s.after 0 with blocks := stack ++ s.blocks, parens := s.parens + k }) rfl hnoted rfl
    hbraces hclosed (fun v hv => by
      have hle := hparens v hv
      show v.count ')' ≤ s.parens + k + v.count '('
      omega)
  rw [hrun, hparen]
  rfl

/-- A head with all braces closed leaves everything as it is, or what waits is taken in it: from `k`
open parentheses to `n`. -/
theorem foldl_head {t : Text} {s : State} (h : s.Settled) {k n : Nat}
    (hparens : ∀ p, p <+: t → p.count ')' ≤ k + p.count '(') (hbraces : BalancedBraces t)
    (hn : k + t.count '(' = n + t.count ')') :
    (t.filterMap LoopToken.ofMark?).foldl step { s with parens := s.parens + k } =
      { (if takes k t then s.after 0 else s) with parens := s.parens + n } := by
  induction t generalizing k with
  | nil =>
    obtain rfl : k = n := by simpa using hn
    rfl
  | cons c t ih =>
    -- only a brace, or a semicolon with no parenthesis open, ends the induction early
    have hcons : ∀ {v : Text}, v <+: t → c :: v <+: c :: t :=
      fun hv => List.cons_prefix_cons.mpr ⟨rfl, hv⟩
    have hfirst := hparens [c] (hcons List.nil_prefix)
    have hlater := count_le_behind hparens
    have hlast : k + [c].count '(' - [c].count ')' + t.count '(' = n + t.count ')' := by
      rw [count_cons_eq ')' c t, count_cons_eq '(' c t] at hn
      omega
    by_cases h1 : c = '\x7b'
    · -- the brace takes what waits, and what is in it stands where nothing does
      subst h1
      have hlevel : ∀ v, braceLevel ('\x7b' :: v) = 1 + braceLevel v := braceLevel_cons '\x7b'
      rw [List.filterMap_cons_some (show LoopToken.ofMark? '\x7b' = some .braceOpen from rfl),
        List.foldl_cons, if_pos (show takes k ('\x7b' :: t) = true by simp [takes])]
      refine foldl_taken (s := s) [s.waiting.length] (k := k) ?_ (fun v hv => ?_) ?_ hlater hlast
      · exact (settled_openBrace s).noted
      · have hsane := hbraces.sane _ (hcons hv)
        rwa [hlevel] at hsane
      · have hclosed := hbraces.closed
        rwa [hlevel] at hclosed
    have hclose : c ≠ '\x7d' := by
      rintro rfl
      exact absurd (hbraces.sane ['\x7d'] (hcons List.nil_prefix)) (by decide)
    have hbalanced : BalancedBraces t := hbraces.of_cons h1 hclose
    by_cases h2 : c = ';' ∧ k = 0
    · obtain ⟨rfl, rfl⟩ := h2
      rw [List.filterMap_cons_some (show LoopToken.ofMark? ';' = some .semicolon from rfl),
        List.foldl_cons, Nat.add_zero, step_semicolon h,
        if_pos (show takes 0 (';' :: t) = true by simp [takes])]
      refine foldl_taken (s := s) [] (k := 0) (h.after 0).noted (fun v hv => ?_) ?_ hlater hlast
      · simpa using hbalanced.sane v hv
      · simpa using hbalanced.closed
    · have hsemicolon : c = ';' → 0 < k := fun hc => Nat.pos_of_ne_zero fun hk => h2 ⟨hc, hk⟩
      rw [foldl_stepMark, List.foldl_cons, stepMark_head h h1 hclose hsemicolon hfirst,
        ← foldl_stepMark, takes_cons h1 hsemicolon]
      exact ih hlater hbalanced hlast

/-- A head in parentheses leaves everything as it is, unless a brace in it takes what waits. -/
theorem foldl_parens {t : Text} (hparens : Balanced t) (hbraces : BalancedBraces t) {s : State}
    (h : s.Settled) :
    (LoopToken.parenOpen :: (t.filterMap LoopToken.ofMark? ++ [LoopToken.parenClose])).foldl step s =
      if t.contains '\x7b' then s.after 0 else s := by
  have hsane : ∀ p, p <+: t → p.count ')' ≤ 0 + p.count '(' := fun p hp => by
    rw [Nat.zero_add]
    exact hparens.count_le hp
  have hhead := foldl_head h (k := 1) (n := 1)
    (fun p hp => by have hle := hsane p hp; omega) hbraces (by rw [hparens.2])
  rw [takes_succ hsane] at hhead
  -- the last parenthesis closes the one in front of the head
  rw [List.foldl_cons, List.foldl_append, step]
  refine (congrArg (step · .parenClose) hhead).trans ?_
  split
  · exact step_parenClose (h.after 0) _
  · exact step_parenClose h _

/-- The depth of tokens that lead from the start to behind a statement. -/
theorem ofTokens_of_foldl {tokens : List LoopToken} {d : Nat}
    (h : tokens.foldl step {} = ({} : State).after d) : ofTokens tokens = d := by
  rw [ofTokens, h]
  simp [after, note, here, taken]

end LoopDepth.State

/-- A text without loops, with parentheses and braces in balance. -/
structure Passage (words : List Text) where
  text : Text
  quiet : LoopToken.Quiet words text
  parens : LoopDepth.State.Balanced text
  braces : BalancedBraces text

namespace Passage
open LoopDepth.State
variable {words : List Text}

/-- The passage of a text, given that no loop stands in it and that its marks are in balance. -/
def ofQuiet (t : Text) (hquiet : LoopToken.Quiet words t)
    (hmarks : Balanced t ∧ BalancedBraces t) : Passage words :=
  ⟨t, hquiet, hmarks.1, hmarks.2⟩

section
variable (p : Passage words) {s : LoopDepth.State} (h : s.Settled)
include h

/-- The tokens of a passage leave everything as it is where nothing waits. -/
theorem foldl_tokens (hw : s.waiting = []) : (p.text.filterMap LoopToken.ofMark?).foldl step s = s :=
  foldl_balanced p.parens p.braces h hw

/-- Behind a loop word, unless something in it takes what waits. -/
theorem foldl_tokens_of_waiting : (p.text.filterMap LoopToken.ofMark?).foldl step s =
    if takes 0 p.text then s.after 0 else s := by
  have hhead := foldl_head h (k := 0) (n := 0)
    (fun q hq => by have hle := p.parens.count_le hq; omega) p.braces (by rw [p.parens.2])
  refine hhead.trans ?_
  split <;> rfl

end
end Passage

end SourceAudit
