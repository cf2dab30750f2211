import SourceAudit.Proofs.Complexity.LoopRun

/-!
  Loops within a text that stands in another one.

  Steps over tokens that close nothing but what they open do at any place where
  nothing waits what they do on their own: what they find there is the same, and
  counts from the loops that are open at the place (`State.within`). What is proved:
    1. `ofTokens_eq_zero_iff`, `ofTokens_all_eq_zero_iff` — a depth is found exactly where
       there is a loop or a call; in a text without calls, exactly where a loop word stands.
    2. `step_within`, `foldl_within`, `foldl_whole` — the steps over a `Whole` text note its
       depth and nothing else.
    3. `step_raise`, `ofTokens_of_after` — what has been found does not bear on the steps, so
       the text and what stands around it are as deep as the deeper of the two.
-/
namespace SourceAudit.LoopDepth.State

theorem closeParen_cons {s : State} {w : Waiting} {rest : List Waiting}
    (h : s.waiting = w :: rest) :
    s.closeParen = if w.isCall && s.parens - 1 == w.parens
      then { s.note with waiting := rest, parens := s.parens - 1 }
      else { s with parens := s.parens - 1 } := by
  simp only [closeParen, h]

theorem closeParen_nil {s : State} (h : s.waiting = []) :
    s.closeParen = { s with parens := s.parens - 1 } := by
  simp only [closeParen, h]

/-- A closing parenthesis ends the latest waiting loop, which is noted, or none. -/
theorem closeParen_cases (s : State) :
    (∃ w rest, s.waiting = w :: rest ∧
      s.closeParen = { s.note with waiting := rest, parens := s.parens - 1 }) ∨
    s.closeParen = { s with parens := s.parens - 1 } := by
  by_cases hw : s.waiting = []
  · exact .inr (closeParen_nil hw)
  · obtain ⟨w, rest, hw⟩ := List.exists_cons_of_ne_nil hw
    rw [closeParen_cons hw]
    split
    · exact .inl ⟨w, rest, hw, rfl⟩
    · exact .inr rfl

@[simp] theorem closeParen_parens (s : State) : s.closeParen.parens = s.parens - 1 := by
  obtain ⟨w, rest, -, heq⟩ | heq := s.closeParen_cases
  · rw [heq]
  · rw [heq]

@[simp] theorem closeParen_blocks (s : State) : s.closeParen.blocks = s.blocks := by
  obtain ⟨w, rest, -, heq⟩ | heq := s.closeParen_cases
  · rw [heq]; rfl
  · rw [heq]

theorem endBody_some {s : State} {w : Waiting} (h : s.waiting.getLast? = some w) :
    s.endBody = if s.parens ≤ w.parens then { s.note with waiting := [] } else s := by
  simp only [endBody, h]

theorem endBody_none {s : State} (h : s.waiting.getLast? = none) : s.endBody = s := by
  simp only [endBody, h]

/-- A semicolon ends all waiting loops, which are noted, or none. -/
theorem endBody_cases (s : State) :
    (s.waiting ≠ [] ∧ s.endBody = { s.note with waiting := [] }) ∨ s.endBody = s := by
  cases hw : s.waiting.getLast? with
  | none => exact .inr (endBody_none hw)
  | some w =>
    rw [endBody_some hw]
    split
    · exact .inl ⟨List.ne_nil_of_mem (List.mem_of_getLast? hw), rfl⟩
    · exact .inr rfl

@[simp] theorem endBody_parens (s : State) : s.endBody.parens = s.parens := by
  obtain ⟨-, heq⟩ | heq := s.endBody_cases
  · rw [heq]; rfl
  · rw [heq]

@[simp] theorem endBody_blocks (s : State) : s.endBody.blocks = s.blocks := by
  obtain ⟨-, heq⟩ | heq := s.endBody_cases
  · rw [heq]; rfl
  · rw [heq]

theorem step_noted {s : State} (h : s.taken ≤ s.deepest) (c : LoopToken) :
    (s.step c).taken ≤ (s.step c).deepest := by
  have hnote : s.taken ≤ s.note.deepest := Nat.le_trans h (Nat.le_max_left ..)
  cases c with
  | loop | call | parenOpen => exact h
  | braceOpen => exact (settled_openBrace s).noted
  | parenClose =>
    rw [step]
    obtain ⟨w, rest, -, heq⟩ | heq := s.closeParen_cases
    · rw [heq]; exact hnote
    · rw [heq]; exact h
  | braceClose =>
    refine Nat.le_trans ?_ h
    rw [step, taken, taken]
    cases s.blocks with
    | nil => exact Nat.le_refl _
    | cons b rest => exact Nat.le_add_left ..
  | semicolon =>
    rw [step]
    obtain ⟨-, heq⟩ | heq := s.endBody_cases
    · rw [heq]; exact hnote
    · rw [heq]; exact h

/-- The open blocks are noted wherever a run comes. -/
theorem foldl_noted {s : State} (h : s.taken ≤ s.deepest) (p : List LoopToken) :
    (p.foldl step s).taken ≤ (p.foldl step s).deepest := by
  induction p generalizing s with
  | nil => exact h
  | cons c p ih => exact ih (step_noted h c)

/-! ## Where a depth is found -/

/-- A loop waits, or one has been noted. -/
def Found (s : State) : Prop := s.waiting ≠ [] ∨ 0 < s.deepest

theorem ofTokens_eq_zero_iff_not_found (p : List LoopToken) :
    ofTokens p = 0 ↔ ¬ (p.foldl step {}).Found := by
  have hnoted := foldl_noted (s := {}) (Nat.le_refl 0) p
  rw [ofTokens, note, here, Found, not_or, not_not, ← List.length_eq_zero_iff]
  dsimp only
  omega

/-- What waits is found as soon as the depth is noted. -/
theorem note_deepest_pos {s : State} (hw : s.waiting ≠ []) : 0 < s.note.deepest := by
  have hlength := List.length_pos_iff.mpr hw
  rw [note, here]
  dsimp only
  omega

/-- A step finds a loop if one was found before, or if it is over a loop or a call. -/
theorem step_found_iff {s : State} (h : s.taken ≤ s.deepest) (c : LoopToken) :
    (s.step c).Found ↔ s.Found ∨ c = .loop ∨ c = .call := by
  cases c with
  | loop => simp [step, Found]
  | call =>
    cases hw : s.waiting with
    | nil => simp [step, addCall, Found, hw]
    | cons w rest =>
      have hwaiting : (s.step .call).waiting ≠ [] := by
        simp only [step, addCall, hw]
        cases w.isCall || decide (s.parens ≤ w.parens) <;> exact List.cons_ne_nil _ _
      exact iff_of_true (.inl hwaiting) (.inr (.inr rfl))
  | parenOpen | braceClose => simp [step, Found]
  | parenClose =>
    -- what waits is dropped only when it is noted
    rw [step]
    obtain ⟨w, rest, hw, heq⟩ | heq := s.closeParen_cases
    · have hne : s.waiting ≠ [] := by simp [hw]
      rw [heq]
      exact iff_of_true (.inr (note_deepest_pos hne)) (.inl (.inl hne))
    · simp [heq, Found]
  | braceOpen =>
    have hdeep : 0 < s.note.deepest ↔ s.Found := by
      rw [note, here, Found, ← List.length_pos_iff]
      dsimp only
      omega
    rw [← hdeep]
    simp [step, openBrace, Found]
  | semicolon =>
    rw [step]
    obtain ⟨hne, heq⟩ | heq := s.endBody_cases
    · rw [heq]
      exact iff_of_true (.inr (note_deepest_pos hne)) (.inl (.inl hne))
    · simp [heq]

theorem foldl_found_iff {s : State} (h : s.taken ≤ s.deepest) (p : List LoopToken) :
    (p.foldl step s).Found ↔ s.Found ∨ .loop ∈ p ∨ .call ∈ p := by
  induction p generalizing s with
  | nil => simp
  | cons c p ih =>
    rw [List.foldl_cons, ih (step_noted h c), step_found_iff h, List.mem_cons, List.mem_cons,
      eq_comm (a := c), eq_comm (a := c)]
    tauto

/-- No depth is found exactly where there is no loop and no call. -/
theorem ofTokens_eq_zero_iff (p : List LoopToken) :
    ofTokens p = 0 ↔ .loop ∉ p ∧ .call ∉ p := by
  rw [ofTokens_eq_zero_iff_not_found, foldl_found_iff (s := {}) (Nat.le_refl 0)]
  simp [Found]

/-- In a text without calls a depth is found exactly where a loop word stands. -/
theorem ofTokens_all_eq_zero_iff {words : List Text} {t : Text} (hcall : ¬ LoopToken.CallIn t)
    (hwords : ∀ w ∈ words, w.all Unicode.isWord = true ∧ w ≠ [] ∧ w ∉ LoopToken.iterators) :
    ofTokens (LoopToken.all words t) = 0 ↔ ∀ w ∈ words, ¬ LoopToken.WordIn w t := by
  rw [ofTokens_eq_zero_iff]
  constructor
  · rintro ⟨hloop, -⟩ w hw hin
    obtain ⟨hletters, hne, hiterator⟩ := hwords w hw
    exact hloop (LoopToken.loop_mem_of_wordIn hw hiterator hletters hne hin)
  · intro hnone
    have hquiet : LoopToken.Quiet words t := ⟨hnone, hcall⟩
    exact ⟨hquiet.loop_not_mem, hquiet.call_not_mem⟩

/-! ## Text in another place -/

/-- How many more marks of one kind than of another tokens come with. -/
def level (opens closes : LoopToken) (p : List LoopToken) : Int :=
  let marks := p.filterMap LoopToken.mark?
  (marks.count opens : Int) - marks.count closes

/-- The parentheses that tokens open less those that they close. -/
def parenLevel (p : List LoopToken) : Int := level .parenOpen .parenClose p

/-- The blocks that tokens open less those that they close. -/
def blockLevel (p : List LoopToken) : Int := level .braceOpen .braceClose p

theorem level_cons (opens closes c : LoopToken) (p : List LoopToken) :
    level opens closes (c :: p) = level opens closes [c] + level opens closes p := by
  have happend : (c :: p).filterMap LoopToken.mark? =
      [c].filterMap LoopToken.mark? ++ p.filterMap LoopToken.mark? :=
    List.filterMap_append (l := [c])
  simp only [level, happend, List.count_append]
  omega

theorem parenLevel_cons (c : LoopToken) (p : List LoopToken) :
    parenLevel (c :: p) = parenLevel [c] + parenLevel p :=
  level_cons _ _ c p

theorem blockLevel_cons (c : LoopToken) (p : List LoopToken) :
    blockLevel (c :: p) = blockLevel [c] + blockLevel p :=
  level_cons _ _ c p

/-- Tokens with the marks of a text are on the level of the text. -/
theorem level_of_marks {m n : Char} {opens closes : LoopToken}
    (hm : LoopToken.ofMark? m = some opens) (hn : LoopToken.ofMark? n = some closes)
    {v : Text} {p : List LoopToken}
    (h : p.filterMap LoopToken.mark? = v.filterMap LoopToken.ofMark?) :
    level opens closes p = (v.count m : Int) - v.count n := by
  simp only [level, h]
  rw [LoopToken.count_marks hm, LoopToken.count_marks hn]

/-- What is found on its own in `u`, at a place `s` where nothing waits. -/
def within (s u : State) : State where
  blocks := u.blocks ++ s.blocks
  waiting := u.waiting.map fun w => ⟨s.parens + w.parens, w.isCall⟩
  parens := s.parens + u.parens
  deepest := max s.deepest (s.taken + u.deepest)

theorem within_taken (s u : State) : (s.within u).taken = s.taken + u.taken := by
  have hsum : ∀ v : State, v.taken = v.blocks.sum := fun v => List.sum_eq_foldr.symm
  rw [hsum, hsum, hsum, within, List.sum_append, Nat.add_comm]

theorem within_note (s u : State) : (s.within u).note = s.within u.note := by
  have hhere : (s.within u).here = s.taken + u.here := by
    rw [here, here, within_taken, Nat.add_assoc]
    exact congrArg _ (congrArg _ (List.length_map _))
  have hdeep : max (max s.deepest (s.taken + u.deepest)) (s.taken + u.here) =
      max s.deepest (s.taken + max u.deepest u.here) := by
    omega
  rw [note, hhere]
  exact congrArg (State.mk _ _ _) hdeep

section
variable {u : State} {c : LoopToken}

theorem step_parens (h : 0 ≤ (u.parens : Int) + parenLevel [c]) :
    ((u.step c).parens : Int) = u.parens + parenLevel [c] := by
  cases c with
  | loop | braceOpen | braceClose => exact (Int.add_zero _).symm
  | call | parenOpen => rfl
  | parenClose =>
    rw [show parenLevel [.parenClose] = -1 from rfl] at h ⊢
    rw [step, closeParen_parens]
    omega
  | semicolon =>
    rw [step, endBody_parens]
    exact (Int.add_zero _).symm

theorem step_blocks_length (h : 0 ≤ (u.blocks.length : Int) + blockLevel [c]) :
    ((u.step c).blocks.length : Int) = u.blocks.length + blockLevel [c] := by
  cases c with
  | loop | call | parenOpen => exact (Int.add_zero _).symm
  | parenClose =>
    rw [step, closeParen_blocks]
    exact (Int.add_zero _).symm
  | braceOpen => rfl
  | braceClose =>
    rw [show blockLevel [.braceClose] = -1 from rfl] at h ⊢
    simp only [step, List.length_drop]
    omega
  | semicolon =>
    rw [step, endBody_blocks]
    exact (Int.add_zero _).symm

theorem addCall_within (s u : State) : (s.within u).addCall = s.within u.addCall := by
  cases hw : u.waiting with
  | nil => simp [addCall, within, hw, Nat.add_assoc]
  | cons w rest =>
    cases hcounts : w.isCall || decide (u.parens ≤ w.parens) <;>
      simp [addCall, within, hw, hcounts, Nat.add_assoc]

/-- A parenthesis that was opened on its own leaves those of `s` open. -/
theorem closeParen_within (s : State) {n : Nat} (hn : u.parens = n + 1) :
    (s.within u).closeParen = s.within u.closeParen := by
  cases hw : u.waiting with
  | nil => simp [closeParen, within, hw, hn, ← Nat.add_assoc]
  | cons w rest =>
    have hcons : (s.within u).waiting = ⟨s.parens + w.parens, w.isCall⟩ ::
        rest.map fun w => ⟨s.parens + w.parens, w.isCall⟩ := by
      rw [within, hw, List.map_cons]
    have hparen : (s.within u).parens - 1 = s.parens + n := by
      rw [within, hn]
      rfl
    have hown : (s.parens + n == s.parens + w.parens) = (n == w.parens) := by
      rw [Bool.eq_iff_iff, beq_iff_eq, beq_iff_eq, Nat.add_left_cancel_iff]
    rw [closeParen_cons hw, closeParen_cons hcons, hparen, hown, hn, Nat.add_sub_cancel,
      within_note]
    split <;> rfl

theorem openBrace_within (s u : State) : (s.within u).openBrace = s.within u.openBrace := by
  rw [openBrace, within_note, openBrace]
  simp [within, note]

theorem endBody_within (s u : State) : (s.within u).endBody = s.within u.endBody := by
  have hlast : (s.within u).waiting.getLast? =
      u.waiting.getLast?.map fun w => ⟨s.parens + w.parens, w.isCall⟩ := List.getLast?_map
  cases hw : u.waiting.getLast? with
  | none =>
    rw [hw, Option.map_none] at hlast
    rw [endBody_none hw, endBody_none hlast]
  | some w =>
    rw [hw, Option.map_some] at hlast
    have hown : (s.within u).parens ≤ s.parens + w.parens ↔ u.parens ≤ w.parens :=
      Nat.add_le_add_iff_left
    rw [endBody_some hw, endBody_some hlast, within_note]
    simp only [hown]
    split <;> rfl

/-- A step that closes nothing of `s` is the step on its own. -/
theorem step_within (s : State) (hparens : 0 ≤ (u.parens : Int) + parenLevel [c])
    (hblocks : 0 ≤ (u.blocks.length : Int) + blockLevel [c]) :
    (s.within u).step c = s.within (u.step c) := by
  cases c with
  | loop => rfl
  | call => exact addCall_within s u
  | parenOpen => rfl
  | parenClose =>
    obtain ⟨n, hn⟩ : ∃ n, u.parens = n + 1 := by
      rw [show parenLevel [.parenClose] = -1 from rfl] at hparens
      exact Nat.exists_eq_add_of_le' (by omega)
    exact closeParen_within s hn
  | braceOpen => exact openBrace_within s u
  | braceClose =>
    -- the block was opened on its own, in front of those of `s`
    cases hb : u.blocks with
    | nil =>
      rw [hb, show blockLevel [.braceClose] = -1 from rfl] at hblocks
      exact absurd hblocks (by decide)
    | cons b rest => simp [step, within, hb, taken]
  | semicolon => exact endBody_within s u

end

/-- So it is with tokens that close nothing of `s`. -/
theorem foldl_within (s : State) {u : State} {p : List LoopToken}
    (hparens : ∀ q, q <+: p → 0 ≤ (u.parens : Int) + parenLevel q)
    (hblocks : ∀ q, q <+: p → 0 ≤ (u.blocks.length : Int) + blockLevel q) :
    p.foldl step (s.within u) = s.within (p.foldl step u) ∧
      ((p.foldl step u).parens : Int) = u.parens + parenLevel p ∧
      ((p.foldl step u).blocks.length : Int) = u.blocks.length + blockLevel p := by
  -- the levels say how much of what `u` has open is left, so they go on from step to step
  induction p generalizing u with
  | nil => exact ⟨rfl, (Int.add_zero _).symm, (Int.add_zero _).symm⟩
  | cons c p ih =>
    have hcons : ∀ {q : List LoopToken}, q <+: p → c :: q <+: c :: p :=
      fun hq => List.cons_prefix_cons.mpr ⟨rfl, hq⟩
    have hparen := hparens [c] (hcons List.nil_prefix)
    have hblock := hblocks [c] (hcons List.nil_prefix)
    obtain ⟨hrun, hparens', hblocks'⟩ := @ih (u.step c)
      (fun q hq => by
        rw [step_parens hparen, Int.add_assoc, ← parenLevel_cons]
        exact hparens _ (hcons hq))
      (fun q hq => by
        rw [step_blocks_length hblock, Int.add_assoc, ← blockLevel_cons]
        exact hblocks _ (hcons hq))
    rw [step_parens hparen, Int.add_assoc, ← parenLevel_cons] at hparens'
    rw [step_blocks_length hblock, Int.add_assoc, ← blockLevel_cons] at hblocks'
    exact ⟨by rw [List.foldl_cons, step_within s hparen hblock, hrun, List.foldl_cons],
      hparens', hblocks'⟩

/-- Tokens with the marks of a text leave open what the text does. -/
theorem levels_of_marks {v : Text} {p : List LoopToken}
    (h : p.filterMap LoopToken.mark? = v.filterMap LoopToken.ofMark?) :
    parenLevel p = (v.count '(' : Int) - v.count ')' ∧ blockLevel p = braceLevel v :=
  ⟨level_of_marks rfl rfl h, level_of_marks rfl rfl h⟩

/-- A prefix of the tokens of a text has the marks of some prefix of the text. -/
theorem exists_marks {words : List Text} {t : Text} {p : List LoopToken}
    (hp : p <+: LoopToken.all words t) :
    ∃ v, v <+: t ∧ p.filterMap LoopToken.mark? = v.filterMap LoopToken.ofMark? := by
  have hmarks := hp.filterMap LoopToken.mark?
  rw [LoopToken.filterMap_all] at hmarks
  exact List.prefix_filterMap_iff.mp hmarks

/-- A text that is whole: it closes all that it opens and nothing else, and no loop waits at its
end. -/
structure Whole (words : List Text) (t : Text) : Prop where
  parens : Balanced t
  braces : BalancedBraces t
  idle : ((LoopToken.all words t).foldl step {}).waiting = []

instance (words : List Text) (t : Text) : Decidable (Whole words t) :=
  decidable_of_iff (Balanced t ∧ BalancedBraces t ∧
    ((LoopToken.all words t).foldl step {}).waiting = [])
    ⟨fun h => ⟨h.1, h.2.1, h.2.2⟩, fun h => ⟨h.parens, h.braces, h.idle⟩⟩

section
variable {words : List Text} {t : Text} (h : Whole words t)
include h

theorem levels_of_whole {p : List LoopToken} (hp : p <+: LoopToken.all words t) :
    0 ≤ parenLevel p ∧ 0 ≤ blockLevel p := by
  obtain ⟨v, hv, hmarks⟩ := exists_marks hp
  obtain ⟨hparen, hblock⟩ := levels_of_marks hmarks
  have hle := h.parens.count_le hv
  have hsane := h.braces.sane v hv
  omega

/-- A whole text leads from the start to the start again, but for the depth that was noted. -/
theorem foldl_start_of_whole :
    (LoopToken.all words t).foldl step {} =
      ({ deepest := ofTokens (LoopToken.all words t) } : State) := by
  obtain ⟨-, hparens, hblocks⟩ := foldl_within {} (u := {})
    (fun q hq => by simpa using (levels_of_whole h hq).1)
    (fun q hq => by simpa using (levels_of_whole h hq).2)
  obtain ⟨hparen, hblock⟩ := levels_of_marks (@LoopToken.filterMap_all words t)
  obtain ⟨e, he⟩ : ∃ e, e = (LoopToken.all words t).foldl step {} := ⟨_, rfl⟩
  rw [← he] at hparens hblocks ⊢
  have hidle : e.waiting = [] := he ▸ h.idle
  have hnoParens : e.parens = 0 := by
    have heq := h.parens.2
    simp only [hparen] at hparens
    omega
  have hnoBlocks : e.blocks = [] := by
    rw [hblock, h.braces.closed] at hblocks
    exact List.length_eq_zero_iff.mp (by simpa using hblocks)
  have hdepth : ofTokens (LoopToken.all words t) = e.deepest := by
    rw [ofTokens, ← he]
    simp [note, here, taken, hidle, hnoBlocks]
  rw [hdepth, ← hidle, ← hnoBlocks, ← hnoParens]

/-- The steps over a whole text note its depth and nothing else. -/
theorem foldl_whole {s : State} (hs : s.Settled) (hw : s.waiting = []) :
    (LoopToken.all words t).foldl step s = s.after (ofTokens (LoopToken.all words t)) := by
  have hstart : s.within {} = s := by
    have hdeep : max s.deepest (s.taken + 0) = s.deepest := Nat.max_eq_left hs.noted
    rw [within, hdeep, List.map_nil, ← hw]
    rfl
  have hrun := (foldl_within s (u := {}) (fun q hq => by simpa using (levels_of_whole h hq).1)
    (fun q hq => by simpa using (levels_of_whole h hq).2)).1
  rw [hstart, foldl_start_of_whole h] at hrun
  rw [hrun]
  simp [within, after, here, hw]

end

/-! ## What is found elsewhere -/

/-- The place at which a depth of `n` has been found too. -/
def raise (s : State) (n : Nat) : State := { s with deepest := max s.deepest n }

theorem raise_note (s : State) (n : Nat) : (s.raise n).note = s.note.raise n :=
  congrArg (State.mk _ _ _) (Nat.max_right_comm s.deepest n s.here)

/-- What has been found does not bear on a step. -/
theorem step_raise (s : State) (n : Nat) (c : LoopToken) :
    (s.raise n).step c = (s.step c).raise n := by
  cases c with
  | loop | call | parenOpen | braceClose => rfl
  | parenClose =>
    rw [step, step]
    cases hw : s.waiting with
    | nil => rw [closeParen_nil hw, closeParen_nil (s := s.raise n) hw]; rfl
    | cons w rest =>
      rw [closeParen_cons hw, closeParen_cons (s := s.raise n) hw, raise_note]
      split_ifs with h1 h2 h2
      · rfl
      · exact absurd h1 h2
      · exact absurd h2 h1
      · rfl
  | braceOpen =>
    rw [step, step, openBrace, openBrace, raise_note]
    rfl
  | semicolon =>
    rw [step, step]
    cases hw : s.waiting.getLast? with
    | none => rw [endBody_none hw, endBody_none (s := s.raise n) hw]
    | some w =>
      rw [endBody_some hw, endBody_some (s := s.raise n) hw, raise_note]
      split_ifs with h1 h2 h2
      · rfl
      · exact absurd h1 h2
      · exact absurd h2 h1
      · rfl

theorem foldl_raise (s : State) (n : Nat) (p : List LoopToken) :
    p.foldl step (s.raise n) = (p.foldl step s).raise n := by
  induction p generalizing s with
  | nil => rfl
  | cons c p ih => rw [List.foldl_cons, step_raise, ih, List.foldl_cons]

/-- What stands where nothing waits, at a depth `d`, is found beside everything else. -/
theorem ofTokens_of_after {before inner behind : List LoopToken} {d : Nat}
    (hw : (before.foldl step {}).waiting = [])
    (h : inner.foldl step (before.foldl step {}) = (before.foldl step {}).after d) :
    ofTokens (before ++ (inner ++ behind)) =
      max (ofTokens (before ++ behind)) ((before.foldl step {}).taken + d) := by
  obtain ⟨s, hs⟩ : ∃ s, s = before.foldl step {} := ⟨_, rfl⟩
  rw [← hs] at hw h ⊢
  -- what is behind runs from `s` as it would without what stands in between
  have hafter : s.after d = s.raise (s.taken + d) := by
    simp [after, raise, here, hw]
  rw [ofTokens, List.foldl_append, List.foldl_append, ← hs, h, hafter, foldl_raise, ofTokens,
    List.foldl_append, ← hs]
  exact Nat.max_right_comm _ _ _

end SourceAudit.LoopDepth.State
