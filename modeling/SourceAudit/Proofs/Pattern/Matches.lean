import Mathlib.Data.List.TakeDrop
import SourceAudit.Pattern.Match

/-!
  Where matches come from.

  What is proved:
    1. `mem_reach_iff`, `isSome_tryReach_iff` — a repetition stops behind as many characters of its
       set as it may take (`CharSet.Takes`), and hands on something exactly if something can follow
       behind some of them. Shortest first, the same places are tried the other way round
       (`nearestFrom_eq_findSome?`).
    2. `handsOn_of_run` — what a pattern hands on stands further on in the same text, with no groups
       but its own in front of those from before (`HandsOn`), and behind the characters that the
       pattern cannot do without (`mem_of_demands`).
    3. `run_sequence_append`, `run_literal`, `run_many`, `run_option` — patterns in a row,
       characters that stand for themselves, a repetition that nothing but its longest way can
       follow, and what may be left out.
-/
namespace SourceAudit

/-! ## Places -/

namespace Cursor

variable {c : Cursor}

/-- Whether a cursor stands behind another one in the same text, with the given characters between
the two. -/
def Leads (c : Cursor) (taken : Text) (stop : Cursor) : Prop :=
  c.rest = taken ++ stop.rest ∧ stop.offset = c.offset + taken.length

theorem Leads.refl (c : Cursor) : c.Leads [] c := ⟨rfl, rfl⟩

theorem Leads.trans {c' stop : Cursor} {a b : Text} (h : c.Leads a c') (h' : c'.Leads b stop) :
    c.Leads (a ++ b) stop := by
  refine ⟨?_, ?_⟩
  · rw [h.1, h'.1, List.append_assoc]
  · rw [h'.2, h.2, List.length_append, Nat.add_assoc]

theorem Leads.step {d : Char} {rest : Text} {before : Option Char} (h : c.rest = d :: rest) :
    c.Leads [d] ⟨before, rest, c.offset + 1⟩ := ⟨h, rfl⟩

/-- What is between two cursors is what the first one captures up to the second. -/
theorem Leads.capture {start c' stop : Cursor} {a b : Text} (h : start.Leads a c')
    (h' : c'.Leads b stop) :
    start.capture ⟨c'.offset, stop.offset⟩ = ⟨c'.offset, b⟩ := by
  have hstart : c'.offset - start.offset = a.length := by have := h.2; omega
  have hlength : stop.offset - c'.offset = b.length := by have := h'.2; omega
  rw [Cursor.capture, hstart, hlength, h.1, h'.1, List.drop_left, List.take_left]

/-- The place of a text at an offset. -/
def place (t : Text) (i : Nat) : Cursor := ⟨(t.take i).getLast?, t.drop i, i⟩

theorem place_append (u v : Text) : place (u ++ v) u.length = ⟨u.getLast?, v, u.length⟩ := by
  rw [place, List.take_left, List.drop_left]

/-- The place some characters further on. -/
def skip (c : Cursor) (n : Nat) : Cursor :=
  ⟨(c.rest.take n).getLast?.or c.before, c.rest.drop n, c.offset + n⟩

theorem skip_zero (c : Cursor) : c.skip 0 = c := rfl

theorem skip_one {d : Char} {rest : Text} (h : c.rest = d :: rest) :
    c.skip 1 = ⟨some d, rest, c.offset + 1⟩ := by
  rw [skip, h]
  rfl

theorem skip_skip (c : Cursor) (m n : Nat) : (c.skip m).skip n = c.skip (m + n) := by
  simp only [skip, Cursor.mk.injEq]
  refine ⟨?_, List.drop_drop, Nat.add_assoc ..⟩
  rw [List.take_add, List.getLast?_append, Option.or_assoc]

theorem skip_cons (before : Option Char) (d : Char) (rest : Text) (offset n : Nat) :
    (⟨before, d :: rest, offset⟩ : Cursor).skip (n + 1) =
      (⟨some d, rest, offset + 1⟩ : Cursor).skip n := by
  rw [Nat.add_comm n 1, ← skip_skip]
  rfl

theorem rest_skip {u v : Text} (hrest : c.rest = u ++ v) : (c.skip u.length).rest = v := by
  rw [skip, hrest, List.drop_left]

theorem leads_skip {n : Nat} (h : n ≤ c.rest.length) : c.Leads (c.rest.take n) (c.skip n) :=
  ⟨(List.take_append_drop n c.rest).symm, by rw [List.length_take_of_le h]; rfl⟩

end Cursor

/-! ## Repetitions -/

/-- Whether a repetition may take the first `n` characters of a text. -/
structure CharSet.Takes (s : CharSet) (least : Nat) (most : Option Nat) (t : Text) (n : Nat) :
    Prop where
  least_le : least ≤ n
  le_most : ∀ b ∈ most, n ≤ b
  le_length : n ≤ (t.takeWhile s.has).length

namespace CharSet

variable {s : CharSet} {least n : Nat} {most : Option Nat} {t : Text} {d : Char}

theorem takes_zero : s.Takes least most t 0 ↔ least = 0 :=
  ⟨fun h => Nat.le_zero.mp h.least_le,
    fun h => ⟨Nat.le_of_eq h, fun b _ => Nat.zero_le b, Nat.zero_le _⟩⟩

theorem not_takes_nil_succ : ¬ s.Takes least most [] (n + 1) :=
  fun h => Nat.not_succ_le_zero n h.le_length

/-- One character more is taken if the repetition goes on, and its set has the character. -/
theorem takes_cons_succ :
    s.Takes least most (d :: t) (n + 1) ↔
      (most != some 0 && s.has d) = true ∧ s.Takes (least - 1) (most.map (· - 1)) t n := by
  have hmost : (∀ b ∈ most, n + 1 ≤ b) ↔
      (most != some 0) = true ∧ ∀ b ∈ most.map (· - 1), n ≤ b := by
    cases most with
    | none => simp
    | some b =>
      simp only [Option.mem_some_iff, forall_eq', Option.map_some, bne_iff_ne, ne_eq,
        Option.some.injEq]
      omega
  have hlength : n + 1 ≤ ((d :: t).takeWhile s.has).length ↔
      s.has d = true ∧ n ≤ (t.takeWhile s.has).length := by
    cases hd : s.has d <;> simp [hd]
  constructor
  · intro h
    obtain ⟨hgoes, hleft⟩ := hmost.mp h.le_most
    obtain ⟨hd, hn⟩ := hlength.mp h.le_length
    exact ⟨Bool.and_eq_true_iff.mpr ⟨hgoes, hd⟩, Nat.sub_le_of_le_add h.least_le, hleft, hn⟩
  · rintro ⟨hstep, h⟩
    obtain ⟨hgoes, hd⟩ := Bool.and_eq_true_iff.mp hstep
    exact ⟨Nat.le_add_of_sub_le h.least_le, hmost.mpr ⟨hgoes, h.le_most⟩,
      hlength.mpr ⟨hd, h.le_length⟩⟩

/-- Nothing may be taken, or one character more than from the next one on. -/
theorem exists_takes_cons {P : Nat → Prop} :
    (∃ n, s.Takes least most (d :: t) n ∧ P n) ↔
      least = 0 ∧ P 0 ∨ (most != some 0 && s.has d) = true ∧
        ∃ n, s.Takes (least - 1) (most.map (· - 1)) t n ∧ P (n + 1) := by
  constructor
  · rintro ⟨n, h, hn⟩
    cases n with
    | zero => exact .inl ⟨takes_zero.mp h, hn⟩
    | succ n => exact .inr ⟨(takes_cons_succ.mp h).1, n, (takes_cons_succ.mp h).2, hn⟩
  · rintro (⟨hleast, hzero⟩ | ⟨hstep, n, h, hn⟩)
    · exact ⟨0, takes_zero.mpr hleast, hzero⟩
    · exact ⟨n + 1, takes_cons_succ.mpr ⟨hstep, h⟩, hn⟩

theorem exists_takes_nil {P : Nat → Prop} :
    (∃ n, s.Takes least most [] n ∧ P n) ↔ least = 0 ∧ P 0 := by
  constructor
  · rintro ⟨n, h, hn⟩
    cases n with
    | zero => exact ⟨takes_zero.mp h, hn⟩
    | succ n => exact absurd h not_takes_nil_succ
  · rintro ⟨hleast, hzero⟩
    exact ⟨0, takes_zero.mpr hleast, hzero⟩

theorem Takes.le (h : s.Takes least most t n) : n ≤ t.length :=
  Nat.le_trans h.le_length (List.takeWhile_prefix s.has).length_le

/-- What is taken are characters of the set. -/
theorem Takes.has (h : s.Takes least most t n) : ∀ e ∈ t.take n, s.has e = true := by
  intro e he
  have htake : t.take n = (t.takeWhile s.has).take n := by
    nth_rewrite 1 [← List.takeWhile_append_dropWhile (p := s.has) (l := t)]
    exact List.take_append_of_le_length h.le_length
  rw [htake] at he
  exact List.all_eq_true.mp List.all_takeWhile e (List.mem_of_mem_take he)

/-- Characters of the set may be taken, whatever stands behind them. -/
theorem takes_append {u v : Text} (hu : ∀ e ∈ u, s.has e = true) (hleast : least ≤ u.length)
    (hmost : ∀ b ∈ most, u.length ≤ b) : s.Takes least most (u ++ v) u.length := by
  refine ⟨hleast, hmost, ?_⟩
  rw [List.takeWhile_append_of_pos hu, List.length_append]
  exact Nat.le_add_right _ _

end CharSet

namespace Cursor

variable {s : CharSet} {c : Cursor}

/-- The places reached lie behind what may be taken. -/
theorem mem_reachFrom_iff {before : Option Char} {t : Text} {offset least : Nat}
    {most : Option Nat} {passed : List Cursor} :
    c ∈ reachFrom s before t offset least most passed ↔
      c ∈ passed ∨ ∃ n, s.Takes least most t n ∧ c = (⟨before, t, offset⟩ : Cursor).skip n := by
  induction t generalizing before offset least most passed with
  | nil =>
    rw [reachFrom, CharSet.exists_takes_nil, skip_zero]
    by_cases hleast : least = 0
    · simp [hleast, or_comm]
    · simp [hleast]
  | cons d rest ih =>
    have hhere : c ∈ (if least == 0 then ⟨before, d :: rest, offset⟩ :: passed else passed) ↔
        c ∈ passed ∨ least = 0 ∧ c = ⟨before, d :: rest, offset⟩ := by
      by_cases hleast : least = 0
      · simp [hleast, or_comm]
      · simp [hleast]
    rw [reachFrom, CharSet.exists_takes_cons, skip_zero]
    simp only [skip_cons]
    split
    · next hstep => rw [ih, hhere, or_assoc, and_iff_right hstep]
    · next hstep => rw [hhere, iff_false_intro hstep, false_and, or_false]

/-- The places reached from a cursor. -/
theorem mem_reach_iff {stop : Cursor} {least : Nat} {most : Option Nat} :
    stop ∈ c.reach s least most ↔ ∃ n, s.Takes least most c.rest n ∧ stop = c.skip n :=
  mem_reachFrom_iff.trans (or_iff_right List.not_mem_nil)

/-- The places passed before come last. -/
theorem reachFrom_eq_append (before : Option Char) (t : Text) (offset least : Nat)
    (most : Option Nat) (passed : List Cursor) :
    reachFrom s before t offset least most passed =
      reachFrom s before t offset least most [] ++ passed := by
  induction t generalizing before offset least most passed with
  | nil =>
    rw [reachFrom, reachFrom]
    split <;> rfl
  | cons d rest ih =>
    rw [reachFrom, reachFrom]
    split
    · rw [ih, ih _ _ _ _ (if least == 0 then _ else _), List.append_assoc]
      congr 1
      split <;> rfl
    · split <;> rfl

section
variable {α : Type} {attempt : Cursor → Option α} {a : α} {least : Nat} {most : Option Nat}

/-- Nearest first, the same places are tried the other way round. -/
theorem nearestFrom_eq_findSome? (before : Option Char) (t : Text) (offset least : Nat)
    (most : Option Nat) :
    nearestFrom s attempt before t offset least most =
      (reachFrom s before t offset least most []).reverse.findSome? attempt := by
  induction t generalizing before offset least most with
  | nil =>
    rw [nearestFrom, reachFrom]
    split
    · simp
    · rfl
  | cons d rest ih =>
    let here : List Cursor := if least == 0 then [⟨before, d :: rest, offset⟩] else []
    have hhere : here.reverse.findSome? attempt =
        if least == 0 then attempt ⟨before, d :: rest, offset⟩ else none := by
      dsimp only [here]
      split
      · simp
      · rfl
    rw [nearestFrom, reachFrom, ih]
    split
    · next a ha =>
      rw [ha] at hhere
      split
      · rw [reachFrom_eq_append _ _ _ _ _ here, List.reverse_append, List.findSome?_append, hhere,
          Option.some_or]
      · exact hhere.symm
    · next hnone =>
      rw [hnone] at hhere
      split
      · rw [reachFrom_eq_append _ _ _ _ _ here, List.reverse_append, List.findSome?_append, hhere,
          Option.none_or]
      · exact hhere.symm

/-- What a repetition hands on is what follows behind one of the places it reaches. -/
theorem exists_of_tryReach {greedy : Bool}
    (h : c.tryReach s least most greedy attempt = some a) :
    ∃ n, s.Takes least most c.rest n ∧ attempt (c.skip n) = some a := by
  have hplace : ∃ c' ∈ c.reach s least most, attempt c' = some a := by
    unfold tryReach at h
    split at h
    · exact List.exists_of_findSome?_eq_some h
    · rw [nearestFrom_eq_findSome?] at h
      obtain ⟨c', hc', hattempt⟩ := List.exists_of_findSome?_eq_some h
      exact ⟨c', List.mem_reverse.mp hc', hattempt⟩
  obtain ⟨c', hc', hattempt⟩ := hplace
  obtain ⟨n, hn, rfl⟩ := mem_reach_iff.mp hc'
  exact ⟨n, hn, hattempt⟩

/-- A repetition hands on something exactly if something can follow behind what it may take. -/
theorem isSome_tryReach_iff {greedy : Bool} :
    (c.tryReach s least most greedy attempt).isSome = true ↔
      ∃ n, s.Takes least most c.rest n ∧ (attempt (c.skip n)).isSome = true := by
  constructor
  · intro h
    obtain ⟨a, ha⟩ := Option.isSome_iff_exists.mp h
    obtain ⟨n, hn, hattempt⟩ := exists_of_tryReach ha
    exact ⟨n, hn, Option.isSome_of_eq_some hattempt⟩
  · rintro ⟨n, hn, hattempt⟩
    have hreach : c.skip n ∈ c.reach s least most := mem_reach_iff.mpr ⟨n, hn, rfl⟩
    unfold tryReach
    split
    · exact List.findSome?_isSome_iff.mpr ⟨_, hreach, hattempt⟩
    · rw [nearestFrom_eq_findSome?]
      exact List.findSome?_isSome_iff.mpr ⟨_, List.mem_reverse.mpr hreach, hattempt⟩

end

/-- If nothing can follow in front of a further character of the set, only the farthest place
counts. -/
theorem findSome?_reachFrom {α : Type} {attempt : Cursor → Option α} {before : Option Char}
    (hnearer : ∀ c : Cursor, c.rest.head?.any s.has = true → attempt c = none) (t : Text)
    (offset : Nat) {passed : List Cursor} (hpassed : passed.findSome? attempt = none) :
    (reachFrom s before t offset 0 none passed).findSome? attempt =
      attempt ((⟨before, t, offset⟩ : Cursor).skip (t.takeWhile s.has).length) := by
  induction t generalizing before offset passed with
  | nil =>
    simp only [reachFrom, beq_self_eq_true, if_true, List.findSome?_cons, hpassed]
    cases h : attempt ⟨before, [], offset⟩ with
    | none => exact h.symm
    | some a => exact h.symm
  | cons d rest ih =>
    have hmost : (none != some 0) = true := rfl
    simp only [reachFrom, beq_self_eq_true, if_true, hmost, Bool.true_and, Option.map_none]
    cases hd : s.has d with
    | true =>
      have hhere : attempt ⟨before, d :: rest, offset⟩ = none := hnearer _ (by simpa using hd)
      have hlength : ((d :: rest).takeWhile s.has).length = 1 + (rest.takeWhile s.has).length := by
        rw [List.takeWhile_cons_of_pos hd, List.length_cons, Nat.add_comm]
      rw [if_pos rfl, ih _ (by rw [List.findSome?_cons, hhere]; exact hpassed), hlength,
        ← skip_skip]
      rfl
    | false =>
      rw [if_neg Bool.false_ne_true, List.findSome?_cons, hpassed,
        List.takeWhile_cons_of_neg (by simp [hd])]
      change _ = attempt ⟨before, d :: rest, offset⟩
      cases attempt ⟨before, d :: rest, offset⟩ <;> rfl

end Cursor

/-! ## What a pattern hands on -/

section
variable {k : Cursor → GroupSpans → Option Hit} {hit : Hit}

/-- One round more of a repetition, and the rounds after it. -/
def repeatRound (step : Cursor → GroupSpans → (Cursor → GroupSpans → Option Hit) → Option Hit)
    (greedy : Bool) (left least : Nat) (most : Option Nat) (c : Cursor) (g : GroupSpans)
    (k : Cursor → GroupSpans → Option Hit) : Option Hit :=
  if most == some 0 then none
  else step c g fun c' g' =>
    if c.offset < c'.offset then
      repeatStep step greedy left (least - 1) (most.map (· - 1)) c' g' k
    else none

/-- A repetition goes on for one round more, or ends. -/
theorem repeatStep_succ
    (step : Cursor → GroupSpans → (Cursor → GroupSpans → Option Hit) → Option Hit)
    (greedy : Bool) (left least : Nat) (most : Option Nat) (c : Cursor) (g : GroupSpans)
    (k : Cursor → GroupSpans → Option Hit) :
    repeatStep step greedy (left + 1) least most c g k =
      if least != 0 then repeatRound step greedy left least most c g k
      else if greedy then (repeatRound step greedy left least most c g k).or (k c g)
      else (k c g).or (repeatRound step greedy left least most c g k) := by
  rw [repeatStep]
  rw [← repeatRound]
  cases repeatRound step greedy left least most c g k <;> cases k c g <;> rfl

/-- Whether what is found comes from going on at a place further on in the same text, with groups of
the given names in front of those from before. -/
def HandsOn (names : List GroupName) (c : Cursor) (g : GroupSpans)
    (k : Cursor → GroupSpans → Option Hit) (hit : Hit) : Prop :=
  ∃ taken c' added, c.Leads taken c' ∧ (∀ e ∈ added, e.1 ∈ names) ∧ k c' (added ++ g) = some hit

namespace HandsOn

variable {names : List GroupName} {c : Cursor} {g : GroupSpans}

theorem here (h : k c g = some hit) : HandsOn names c g k hit := ⟨[], c, [], .refl c, nofun, h⟩

theorem mono {names' : List GroupName} (h : HandsOn names c g k hit)
    (hnames : ∀ name ∈ names, name ∈ names') : HandsOn names' c g k hit := by
  obtain ⟨taken, c', added, hlead, hadded, hk⟩ := h
  exact ⟨taken, c', added, hlead, fun e he => hnames e.1 (hadded e he), hk⟩

theorem trans {k' : Cursor → GroupSpans → Option Hit} (h : HandsOn names c g k' hit)
    (hk' : ∀ {c' g'}, k' c' g' = some hit → HandsOn names c' g' k hit) :
    HandsOn names c g k hit := by
  obtain ⟨taken, c₁, first, hlead, hfirst, hrest⟩ := h
  obtain ⟨more, c', added, hlater, hadded, hk⟩ := hk' hrest
  refine ⟨taken ++ more, c', added ++ first, hlead.trans hlater, fun e he => ?_, ?_⟩
  · exact (List.mem_append.mp he).elim (hadded e) (hfirst e)
  · rwa [List.append_assoc]

end HandsOn

/-- Steps that hand on further places do so when they are repeated, with groups of the same
names. -/
theorem handsOn_of_repeatStep {names : List GroupName}
    {step : Cursor → GroupSpans → (Cursor → GroupSpans → Option Hit) → Option Hit}
    (hstep : ∀ {c : Cursor} {g : GroupSpans} {k : Cursor → GroupSpans → Option Hit},
      step c g k = some hit → HandsOn names c g k hit)
    {greedy : Bool} {left least : Nat} {most : Option Nat} {c : Cursor} {g : GroupSpans}
    (h : repeatStep step greedy left least most c g k = some hit) : HandsOn names c g k hit := by
  induction left generalizing least most c g with
  | zero =>
    rw [repeatStep] at h
    split at h
    · exact .here h
    · cases h
  | succ left ih =>
    -- one more round leads on, and the rounds after it do
    have hround : repeatRound step greedy left least most c g k = some hit →
        HandsOn names c g k hit := by
      intro hround
      unfold repeatRound at hround
      split at hround
      · cases hround
      · refine (hstep hround).trans fun hrest => ?_
        split at hrest
        · exact ih hrest
        · cases hrest
    rw [repeatStep_succ] at h
    split at h
    · exact hround h
    · split at h
      · rcases Option.or_eq_some_iff.mp h with h | ⟨-, h⟩
        · exact hround h
        · exact .here h
      · rcases Option.or_eq_some_iff.mp h with h | ⟨-, h⟩
        · exact .here h
        · exact hround h

end

namespace Pattern

variable {p : Pattern}

section
variable {k : Cursor → GroupSpans → Option Hit} {hit : Hit} {c : Cursor} {g : GroupSpans}

/-- The groups of a pattern. -/
def groups : Pattern → List GroupName
  | seq p q => p.groups ++ q.groups
  | either p q => p.groups ++ q.groups
  | loop p _ _ _ => p.groups
  | group name p => name :: p.groups
  | ahead _ p => p.groups
  | _ => []

/-- A test of a place that is passed hands on the place itself. -/
theorem handsOn_of_test {test : Bool} {names : List GroupName}
    (h : (if test then k c g else none) = some hit) : HandsOn names c g k hit := by
  split at h
  · exact .here h
  · cases h

/-- A character that is taken leads one step further. -/
theorem exists_of_step {test : Char → Bool} (h : (match c.rest with
      | [] => none
      | d :: rest => if test d then k ⟨some d, rest, c.offset + 1⟩ g else none) = some hit) :
    ∃ d c', c.Leads [d] c' ∧ test d = true ∧ k c' g = some hit := by
  split at h
  · cases h
  · next d rest hrest =>
    split at h
    · next hd => exact ⟨d, _, .step hrest, hd, h⟩
    · cases h

theorem exists_of_run_one {s : CharSet} (h : (one s).run c g k = some hit) :
    ∃ d c', c.Leads [d] c' ∧ s.has d = true ∧ k c' g = some hit :=
  exists_of_step h

/-- What a repetition hands on stands behind characters of its set. -/
theorem exists_of_run_many {s : CharSet} {least : Nat} {most : Option Nat} {greedy : Bool}
    (h : (many s least most greedy).run c g k = some hit) :
    ∃ taken c', c.Leads taken c' ∧ (∀ d ∈ taken, s.has d = true) ∧ k c' g = some hit := by
  obtain ⟨n, hn, hk⟩ := Cursor.exists_of_tryReach h
  exact ⟨_, _, Cursor.leads_skip hn.le, hn.has, hk⟩

/-- What one of several patterns hands on is handed on by one of them. -/
theorem exists_of_run_firstOf {ps : List Pattern} (h : (firstOf ps).run c g k = some hit) :
    ∃ p ∈ ps, p.run c g k = some hit := by
  induction ps with
  | nil =>
    obtain ⟨d, -, -, hd, -⟩ := exists_of_run_one h
    simp [CharSet.unionAll, CharSet.has] at hd
  | cons p ps ih =>
    cases ps with
    | nil => exact ⟨p, List.mem_cons_self, h⟩
    | cons q qs =>
      have heither : (either p (firstOf (q :: qs))).run c g k = some hit := h
      rw [run_either, Option.or_eq_some_iff] at heither
      rcases heither with hp | ⟨-, hrest⟩
      · exact ⟨p, List.mem_cons_self, hp⟩
      · obtain ⟨r, hr, hrun⟩ := ih hrest
        exact ⟨r, List.mem_cons_of_mem p hr, hrun⟩

/-- What a pattern hands on stands further on in the same text, with groups of its own in front of
those from before. -/
theorem handsOn_of_run (h : p.run c g k = some hit) : HandsOn p.groups c g k hit := by
  induction p generalizing k c g hit with
  | empty => exact .here h
  | one s =>
    obtain ⟨d, c', hlead, -, hk⟩ := exists_of_run_one h
    exact ⟨[d], c', [], hlead, nofun, hk⟩
  | letter a =>
    obtain ⟨d, c', hlead, -, hk⟩ := exists_of_step h
    exact ⟨[d], c', [], hlead, nofun, hk⟩
  | seq p q ihp ihq =>
    exact ((ihp h).mono fun _ => List.mem_append_left _).trans fun hrest =>
      (ihq hrest).mono fun _ => List.mem_append_right _
  | either p q ihp ihq =>
    rw [run_either, Option.or_eq_some_iff] at h
    rcases h with h | ⟨-, h⟩
    · exact (ihp h).mono fun _ => List.mem_append_left _
    · exact (ihq h).mono fun _ => List.mem_append_right _
  | many s least most greedy =>
    obtain ⟨taken, c', hlead, -, hk⟩ := exists_of_run_many h
    exact ⟨taken, c', [], hlead, nofun, hk⟩
  | loop p least most greedy ih => exact handsOn_of_repeatStep ih h
  | group name p ih =>
    obtain ⟨taken, c', added, hlead, hadded, hk⟩ := ih h
    refine ⟨taken, c', (name, ⟨c.offset, c'.offset⟩) :: added, hlead, ?_, hk⟩
    exact List.forall_mem_cons.mpr
      ⟨List.mem_cons_self, fun e he => List.mem_cons_of_mem name (hadded e he)⟩
  | ahead wanted p ih =>
    rw [run] at h
    split at h
    · next seen hseen =>
      split at h
      · -- the place stays the same, and the groups are those of what is seen
        obtain ⟨taken, c', added, hlead, hadded, hk⟩ := ih hseen
        obtain rfl := Option.some.inj hk
        exact ⟨[], c, added, .refl c, hadded, h⟩
      · cases h
    · split at h
      · cases h
      · exact .here h
  | behind wanted s => exact handsOn_of_test h
  | boundary => exact handsOn_of_test h
  | textStart => exact handsOn_of_test h
  | textEnd => exact handsOn_of_test h
  | lineStart => exact handsOn_of_test h
  | lineEnd => exact handsOn_of_test h

/-- What a pattern hands on stands further on in the same text. -/
theorem exists_of_run (h : p.run c g k = some hit) :
    ∃ taken c' g', c.Leads taken c' ∧ k c' g' = some hit := by
  obtain ⟨taken, c', added, hlead, -, hk⟩ := handsOn_of_run h
  exact ⟨taken, c', added ++ g, hlead, hk⟩

/-- Whether one of the parts that a pattern puts in a row is a certain character. -/
def demands (a : Char) : Pattern → Bool
  | one (.char c) => c == a
  | seq p q => demands a p || demands a q
  | group _ p => demands a p
  | _ => false

/-- On the way to what a pattern hands on stands every character that it demands. -/
theorem mem_of_demands {a : Char} (ha : p.demands a = true) (h : p.run c g k = some hit) :
    ∃ taken c' g', c.Leads taken c' ∧ a ∈ taken ∧ k c' g' = some hit := by
  induction p generalizing k c g hit with
  | one s =>
    cases s with
    | char d =>
      -- the character of the text is that of the pattern, which is the one demanded
      obtain ⟨e, c', hlead, he, hk⟩ := exists_of_run_one h
      obtain rfl : e = d := beq_iff_eq.mp he
      obtain rfl : e = a := beq_iff_eq.mp ha
      exact ⟨[e], c', g, hlead, List.mem_singleton_self e, hk⟩
    | _ => cases ha
  | seq p q ihp ihq =>
    have hfirst : p.run c g (fun c' g' => q.run c' g' k) = some hit := h
    rcases Bool.or_eq_true_iff.mp ha with ha | ha
    · obtain ⟨taken, c₁, g₁, hlead, hmem, hrest⟩ := ihp ha hfirst
      obtain ⟨more, c', g', hlater, hk⟩ := exists_of_run hrest
      exact ⟨taken ++ more, c', g', hlead.trans hlater, List.mem_append_left more hmem, hk⟩
    · obtain ⟨taken, c₁, g₁, hlead, hrest⟩ := exists_of_run hfirst
      obtain ⟨more, c', g', hlater, hmem, hk⟩ := ihq ha hrest
      exact ⟨taken ++ more, c', g', hlead.trans hlater, List.mem_append_right taken hmem, hk⟩
  | group name p ih =>
    obtain ⟨taken, c', g', hlead, hmem, hk⟩ := ih ha h
    exact ⟨taken, c', _, hlead, hmem, hk⟩
  | _ => cases ha

theorem run_sequence_cons (p : Pattern) (ps : List Pattern) :
    (sequence (p :: ps)).run c g k = p.run c g fun c' g' => (sequence ps).run c' g' k := by
  cases ps with
  | nil => rfl
  | cons q ps => rfl

/-- Patterns in a row are tried one part after the other. -/
theorem run_sequence_append (ps qs : List Pattern) :
    (sequence (ps ++ qs)).run c g k =
      (sequence ps).run c g fun c' g' => (sequence qs).run c' g' k := by
  induction ps generalizing c g with
  | nil => rfl
  | cons p ps ih =>
    rw [List.cons_append, run_sequence_cons, run_sequence_cons]
    exact congrArg _ (funext fun c' => funext fun g' => ih)

/-- Characters that stand for themselves. -/
theorem run_literal (t : Text) :
    (literal t).run c g k = if t.isPrefixOf c.rest then k (c.skip t.length) g else none := by
  induction t generalizing c g with
  | nil => rw [List.isPrefixOf_nil_left, if_pos rfl]; rfl
  | cons a t ih =>
    have htail : ∀ c' g', (sequence (t.map fun c => one (.char c))).run c' g' k =
        if t.isPrefixOf c'.rest then k (c'.skip t.length) g' else none := fun _ _ => ih
    rw [literal, List.map_cons, run_sequence_cons, run]
    split
    · next hrest => rw [hrest]; rfl
    · next d rest hrest =>
      rw [hrest, List.isPrefixOf_cons_cons, ← Cursor.skip_one hrest, htail, Cursor.skip_skip,
        List.length_cons, Nat.add_comm 1]
      have hafter : (c.skip 1).rest = rest := by rw [Cursor.skip_one hrest]
      rw [hafter]
      by_cases hd : a = d
      · simp [CharSet.has, hd]
      · simp [CharSet.has, hd, Ne.symm hd]

/-- A repetition of which only the longest way can be followed. -/
theorem run_many {s : CharSet}
    (hnearer : ∀ c : Cursor, c.rest.head?.any s.has = true → k c g = none) :
    (many s 0 none true).run c g k = k (c.skip (c.rest.takeWhile s.has).length) g :=
  Cursor.findSome?_reachFrom hnearer c.rest c.offset rfl

/-- A repetition that has to take one character more takes it first. -/
theorem run_many_succ {s : CharSet} {least : Nat} {d : Char} {rest : Text}
    (hrest : c.rest = d :: rest) (hd : s.has d = true) :
    (many s (least + 1) none true).run c g k = (many s least none true).run (c.skip 1) g k := by
  have hmost : (none != some 0) = true := rfl
  rw [Cursor.skip_one hrest]
  simp only [run, Cursor.tryReach, if_true, Cursor.reach, hrest]
  rw [Cursor.reachFrom]
  simp [hmost, hd]

/-- Where no character of its set follows, a repetition takes nothing. -/
theorem run_many_of_head {s : CharSet} (h : c.rest.head?.any s.has = false) :
    (many s 0 none true).run c g k = k c g := by
  obtain ⟨before, rest, offset⟩ := c
  simp only [run, Cursor.tryReach, if_true, Cursor.reach]
  cases rest with
  | nil =>
    rw [Cursor.reachFrom]
    simp only [beq_self_eq_true, if_true, List.findSome?_cons, List.findSome?_nil]
    cases k ⟨before, [], offset⟩ g <;> rfl
  | cons d rest =>
    have hd : s.has d = false := h
    rw [Cursor.reachFrom]
    simp only [beq_self_eq_true, if_true, hd, Bool.and_false, Bool.false_eq_true, if_false,
      List.findSome?_cons, List.findSome?_nil]
    cases k ⟨before, d :: rest, offset⟩ g <;> rfl

/-- A character that is not of the set is not taken. -/
theorem run_one_of_head {s : CharSet} (h : c.rest.head?.any s.has = false) :
    (one s).run c g k = none := by
  rw [run]
  split
  · rfl
  · next d rest hrest =>
    rw [hrest] at h
    exact if_neg (by simpa using h)

/-- A repetition takes a stretch of characters of its set if nothing can follow inside of it. -/
theorem run_many_stretch {s : CharSet} {stretch rest : Text} (hrest : c.rest = stretch ++ rest)
    (hstretch : ∀ d ∈ stretch, s.has d = true) (hstop : rest.head?.any s.has = false)
    (hnearer : ∀ c : Cursor, c.rest.head?.any s.has = true → k c g = none) :
    (many s 0 none true).run c g k = k (c.skip stretch.length) g := by
  have hnone : rest.takeWhile s.has = [] := by
    cases rest with
    | nil => rfl
    | cons d rest => exact List.takeWhile_cons_of_neg (by simpa using hstop)
  rw [run_many hnearer, hrest, List.takeWhile_append_of_pos hstretch, hnone, List.append_nil]

/-- What may be there once is taken if that leads to a match, and left out otherwise. -/
theorem run_option (p : Pattern) :
    (loop p 0 (some 1) true).run c g k =
      (p.run c g fun c' g' => if c.offset < c'.offset then k c' g' else none).or (k c g) := by
  have hlast : ∀ left c' g', repeatStep (fun c' g' k' => run p c' g' k') true left (0 - 1)
      ((some 1).map (· - 1)) c' g' k = k c' g' := by
    intro left c' g'
    cases left with
    | zero => rfl
    | succ left => rfl
  rw [run, repeatStep_succ, repeatRound]
  simp only [hlast]
  rfl

end

end Pattern
end SourceAudit
