import SourceAudit.Proofs.Pattern.Search

/-!
  Texts that a pattern can take.

  A pattern fits a text in front of another one (`Pattern.Fits`) if it can take the text wherever
  the two stand, so that whatever can go on behind the text does so. The pattern may well take
  another way first: what is known is that it does not fail. What is proved:
    1. `Fits.seq`, `Fits.many` and their like — a rule for each way to build a pattern.
    2. `Fits.find?` — a pattern behind a word boundary that fits is found in the text, and no
       later than where it fits.
    3. `Quiet.le_start` — and not inside of a stretch in which no match starts (`Pattern.Quiet`).
-/
namespace SourceAudit

/-! ## Patterns that fit -/

namespace Pattern

/-- Whether a pattern can take a text in front of another one. -/
def Fits (p : Pattern) (u v : Text) : Prop :=
  ∀ (c : Cursor) (g : GroupSpans) (k : Cursor → GroupSpans → Option Hit), c.rest = u ++ v →
    (∀ g', (k (c.skip u.length) g').isSome = true) → (p.run c g k).isSome = true

namespace Fits

variable {p q : Pattern} {ps : List Pattern} {s : CharSet} {u v w : Text}

theorem one {d : Char} (hd : s.has d = true) : (Pattern.one s).Fits [d] v := by
  intro c g k hrest hk
  rw [List.singleton_append] at hrest
  rw [run_one_cons hrest, if_pos hd, ← Cursor.skip_one hrest]
  exact hk g

theorem seq (hp : p.Fits u (w ++ v)) (hq : q.Fits w v) : (Pattern.seq p q).Fits (u ++ w) v := by
  intro c g k hrest hk
  rw [List.append_assoc] at hrest
  refine hp c g _ hrest fun g' => hq _ g' k (Cursor.rest_skip hrest) fun g'' => ?_
  rw [Cursor.skip_skip, ← List.length_append]
  exact hk g''

theorem left (hp : p.Fits u v) : (Pattern.either p q).Fits u v := by
  intro c g k hrest hk
  rw [run_either, Option.isSome_or, Bool.or_eq_true_iff]
  exact .inl (hp c g k hrest hk)

theorem right (hq : q.Fits u v) : (Pattern.either p q).Fits u v := by
  intro c g k hrest hk
  rw [run_either, Option.isSome_or, Bool.or_eq_true_iff]
  exact .inr (hq c g k hrest hk)

theorem many {least : Nat} {most : Option Nat} {greedy : Bool} (hu : ∀ d ∈ u, s.has d = true)
    (hleast : least ≤ u.length) (hmost : ∀ n ∈ most, u.length ≤ n) :
    (Pattern.many s least most greedy).Fits u v := by
  intro c g k hrest hk
  rw [run, Cursor.isSome_tryReach_iff, hrest]
  exact ⟨u.length, CharSet.takes_append hu hleast hmost, hk g⟩

theorem unbounded {least : Nat} {greedy : Bool} (hu : ∀ d ∈ u, s.has d = true)
    (hleast : least ≤ u.length) : (Pattern.many s least none greedy).Fits u v :=
  many hu hleast fun n hn => absurd hn (Option.not_mem_none n)

/-- What may be there once can be left out. -/
theorem leftOut : (Pattern.loop p 0 (some 1) true).Fits [] v := by
  intro c g k _ hk
  rw [run_option, Option.isSome_or, Bool.or_eq_true_iff]
  exact .inr (hk g)

/-- What may be there once can be taken, if it is not empty. -/
theorem taken (hne : u ≠ []) (hp : p.Fits u v) : (Pattern.loop p 0 (some 1) true).Fits u v := by
  intro c g k hrest hk
  rw [run_option, Option.isSome_or, Bool.or_eq_true_iff]
  refine .inl (hp c g _ hrest fun g' => ?_)
  have hpast : c.offset < (c.skip u.length).offset := by
    have hlength := List.length_pos_iff.mpr hne
    show c.offset < c.offset + u.length
    omega
  rw [if_pos hpast]
  exact hk g'

theorem group {name : GroupName} (hp : p.Fits u v) : (Pattern.group name p).Fits u v :=
  fun c g _ hrest hk => hp c g _ hrest fun _ => hk _

theorem cons (hp : p.Fits u (w ++ v)) (hps : (sequence ps).Fits w v) :
    (sequence (p :: ps)).Fits (u ++ w) v := by
  intro c g k hrest hk
  rw [run_sequence_cons]
  exact hp.seq hps c g k hrest hk

theorem characters (hps : (sequence ps).Fits w v) :
    (sequence ((u.map fun c => .one (.char c)) ++ ps)).Fits (u ++ w) v := by
  induction u with
  | nil => exact hps
  | cons d u ih => exact cons (u := [d]) (one (beq_self_eq_true d)) ih

theorem literal : (Pattern.literal u).Fits u v := by
  intro c g k hrest hk
  rw [run_literal, hrest, if_pos (List.isPrefixOf_iff_prefix.mpr (List.prefix_append u v))]
  exact hk g

/-- A word ends where no word character follows. -/
theorem wordEnd (hlast : u.getLast?.any Unicode.isWord = true)
    (hhead : v.head?.any Unicode.isWord = false) :
    (sequence ((u.map fun c => .one (.char c)) ++ [.boundary])).Fits u v := by
  intro c g k hrest hk
  have hliteral : u.isPrefixOf c.rest = true := by
    rw [hrest]
    exact List.isPrefixOf_iff_prefix.mpr (List.prefix_append u v)
  have hbefore : (c.skip u.length).before = u.getLast? := by
    obtain ⟨d, hd⟩ := Option.isSome_iff_exists.mp (Option.isSome_of_any hlast)
    rw [Cursor.skip, hrest, List.take_left, hd, Option.some_or]
  have hboundary : (c.skip u.length).atBoundary = true := by
    rw [Cursor.atBoundary, hbefore, Cursor.rest_skip hrest, hlast, hhead]
    rfl
  rw [run_sequence_append]
  refine Eq.trans (congrArg Option.isSome (run_literal u)) ?_
  rw [if_pos hliteral]
  show (if (c.skip u.length).atBoundary then k (c.skip u.length) g else none).isSome = true
  rw [if_pos hboundary]
  exact hk g

/-- Where a word can start, a pattern that fits matches behind a boundary. -/
theorem matchHere (hps : (sequence ps).Fits u v) (t : Text)
    (hlast : t.getLast?.any Unicode.isWord = false)
    (hhead : (u ++ v).head?.any Unicode.isWord = true) :
    ((sequence (.boundary :: ps)).matchHere (.place (t ++ (u ++ v)) t.length) false).isSome =
      true := by
  have hboundary : Cursor.atBoundary ⟨t.getLast?, u ++ v, t.length⟩ = true := by
    rw [Cursor.atBoundary, hlast, hhead]
    rfl
  rw [Pattern.matchHere, Option.isSome_map, Cursor.place_append, run_sequence_cons, run,
    if_pos hboundary]
  exact hps _ _ _ rfl fun _ => rfl

/-- Where a word can start, a pattern that fits is found there, or before. -/
theorem find? (hps : (sequence ps).Fits u v) {t : Text}
    (hlast : t.getLast?.any Unicode.isWord = false)
    (hhead : (u ++ v).head?.any Unicode.isWord = true) :
    ∃ m, (sequence (.boundary :: ps)).find? (t ++ (u ++ v)) = some m ∧ m.start ≤ t.length := by
  refine start_find?_le ?_ (hps.matchHere t hlast hhead)
  rw [List.length_append]
  omega

theorem firstOf (hp : p ∈ ps) (h : p.Fits u v) : (Pattern.firstOf ps).Fits u v := by
  induction ps with
  | nil => exact absurd hp List.not_mem_nil
  | cons q qs ih =>
    cases qs with
    | nil => exact List.mem_singleton.mp hp ▸ h
    | cons r rs =>
      rcases List.mem_cons.mp hp with rfl | hp
      · exact h.left
      · exact (ih hp).right

end Fits

/-! ## Stretches without a match -/

/-- Whether no match of a pattern starts inside of a text that another one follows. -/
def Quiet (p : Pattern) (u v : Text) : Prop :=
  ∀ a b, u = a ++ b → b ≠ [] → ∀ c : Cursor, c.rest = b ++ v → p.matchHere c false = none

namespace Quiet

variable {p : Pattern} {m : Match} {t u v w : Text}

theorem append (hu : p.Quiet u (w ++ v)) (hw : p.Quiet w v) : p.Quiet (u ++ w) v := by
  intro a b heq hb c hrest
  rcases List.append_eq_append_iff.mp heq with ⟨a', -, hw'⟩ | ⟨b', hu', hb'⟩
  · exact hw a' b hw' hb c hrest
  · rcases List.eq_nil_or_concat b' with rfl | ⟨_, _, hne⟩
    · exact hw [] b hb'.symm hb c hrest
    · rw [hb', List.append_assoc] at hrest
      exact hu a b' hu' (by rw [hne]; simp) c hrest

/-- The first match behind the start of such a text starts behind its end. -/
theorem le_start (h : p.Quiet u v) (hfind : p.find? (t ++ (u ++ v)) = some m)
    (hstart : t.length ≤ m.start) : t.length + u.length ≤ m.start := by
  by_contra hlt
  have hcut : (t ++ (u ++ v)).drop m.start = u.drop (m.start - t.length) ++ v := by
    rw [List.drop_append, List.drop_eq_nil_of_le hstart, List.nil_append,
      List.drop_append_of_le_length (by omega)]
  have hne : u.drop (m.start - t.length) ≠ [] := by
    rw [Ne, List.drop_eq_nil_iff]
    omega
  have hnone := h _ _ (List.take_append_drop (m.start - t.length) u).symm hne
    (.place (t ++ (u ++ v)) m.start) hcut
  rw [matchHere_of_find? hfind] at hnone
  cases hnone

end Quiet

end Pattern
end SourceAudit
