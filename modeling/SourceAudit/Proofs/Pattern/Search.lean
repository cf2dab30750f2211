import SourceAudit.Proofs.Pattern.Matches

/-!
  The search for matches, which passes over places.

  A search does not try a pattern behind a character that the pattern repeats at its start, if it
  did not match in front of that character. What is proved:
    1. `agreeOnPlaces_run` — whether a pattern hands on something does not depend on the groups from
       before, if what follows does not.
    2. `matchHere_of_isBarred` — so nothing matches at a place that is passed over.
    3. `find?_eq_findSome?`, `findAll_eq_tryPlaces` — so the first match and all matches are what
       trying every place from left to right gives.
    4. `find?_eq_some_iff` — the first match is the match at its own place, where no place before it
       has one, and the first of all matches (`find?_eq_head?`).
    5. `map_start_findAll` — if no match reaches into another, the matches found in a text are
       those of all its places.
-/
namespace SourceAudit

/-! ## Groups from before -/

section
variable {k k' : Cursor → GroupSpans → Option Hit}

/-- Whether two ways to go on find something at the same places, whatever the groups from before. -/
def AgreeOnPlaces (k k' : Cursor → GroupSpans → Option Hit) : Prop :=
  ∀ c g g', (k c g).isSome = (k' c g').isSome

namespace AgreeOnPlaces

/-- To stop at a place is to find it. -/
theorem stop : AgreeOnPlaces (fun c g => some (c, g)) (fun c g => some (c, g)) := fun _ _ _ => rfl

theorem test (hk : AgreeOnPlaces k k') (test : Cursor → Bool) :
    AgreeOnPlaces (fun c g => if test c then k c g else none)
      (fun c g => if test c then k' c g else none) := by
  intro c g g'
  dsimp only
  split
  · exact hk c g g'
  · rfl

theorem step (hk : AgreeOnPlaces k k') (test : Char → Bool) :
    AgreeOnPlaces
      (fun c g => match c.rest with
        | [] => none
        | d :: rest => if test d then k ⟨some d, rest, c.offset + 1⟩ g else none)
      (fun c g => match c.rest with
        | [] => none
        | d :: rest => if test d then k' ⟨some d, rest, c.offset + 1⟩ g else none) := by
  intro c g g'
  dsimp only
  split
  · rfl
  · split
    · exact hk _ g g'
    · rfl

theorem tryReach (hk : AgreeOnPlaces k k') (s : CharSet) (least : Nat) (most : Option Nat)
    (greedy : Bool) :
    AgreeOnPlaces (fun c g => c.tryReach s least most greedy fun c' => k c' g)
      (fun c g => c.tryReach s least most greedy fun c' => k' c' g) := by
  intro c g g'
  rw [Bool.eq_iff_iff, Cursor.isSome_tryReach_iff, Cursor.isSome_tryReach_iff]
  simp only [hk _ g g']

/-- What is seen ahead decides, and its groups do not matter. -/
theorem ahead {seen : Cursor → GroupSpans → Option Hit} (hseen : AgreeOnPlaces seen seen)
    (hk : AgreeOnPlaces k k') (wanted : Bool) :
    AgreeOnPlaces
      (fun c g => match seen c g with
        | some hit => if wanted then k c hit.2 else none
        | none => if wanted then none else k c g)
      (fun c g => match seen c g with
        | some hit => if wanted then k' c hit.2 else none
        | none => if wanted then none else k' c g) := by
  intro c g g'
  have hsame := hseen c g g'
  dsimp only
  cases hleft : seen c g with
  | none =>
    rw [hleft, eq_comm, Option.isSome_none, Option.isSome_eq_false_iff, Option.isNone_iff_eq_none]
      at hsame
    rw [hsame]
    cases wanted with
    | true => rfl
    | false => exact hk c g g'
  | some hit =>
    rw [hleft, eq_comm, Option.isSome_some] at hsame
    obtain ⟨hit', hright⟩ := Option.isSome_iff_exists.mp hsame
    rw [hright]
    cases wanted with
    | true => exact hk c hit.2 hit'.2
    | false => rfl

/-- Steps that find something at the same places do so when they are repeated. -/
theorem repeatStep {step : Cursor → GroupSpans → (Cursor → GroupSpans → Option Hit) → Option Hit}
    (hstep : ∀ {k k' : Cursor → GroupSpans → Option Hit}, AgreeOnPlaces k k' →
      AgreeOnPlaces (step · · k) (step · · k'))
    (hk : AgreeOnPlaces k k') (greedy : Bool) (left least : Nat) (most : Option Nat) :
    AgreeOnPlaces (repeatStep step greedy left least most · · k)
      (repeatStep step greedy left least most · · k') := by
  induction left generalizing least most with
  | zero =>
    intro c g g'
    simp only [SourceAudit.repeatStep]
    split
    · exact hk c g g'
    · rfl
  | succ left ih =>
    intro c g g'
    have hround : (repeatRound step greedy left least most c g k).isSome =
        (repeatRound step greedy left least most c g' k').isSome := by
      unfold repeatRound
      split
      · rfl
      · refine hstep (fun c' g₁ g₂ => ?_) c g g'
        split
        · exact ih _ _ c' g₁ g₂
        · rfl
    simp only [repeatStep_succ]
    split
    · exact hround
    · split
      · rw [Option.isSome_or, Option.isSome_or, hround, hk c g g']
      · rw [Option.isSome_or, Option.isSome_or, hround, hk c g g']

end AgreeOnPlaces
end

namespace Pattern

variable {p : Pattern} {m : Match} {t u v : Text}

section
variable {k k' : Cursor → GroupSpans → Option Hit}

/-- Whether a pattern hands on something does not depend on the groups from before, if what follows
does not. -/
theorem agreeOnPlaces_run (p : Pattern) (hk : AgreeOnPlaces k k') :
    AgreeOnPlaces (p.run · · k) (p.run · · k') := by
  induction p generalizing k k' with
  | empty => exact hk
  | one s => exact hk.step s.has
  | letter a => exact hk.step (Unicode.sameLetter a)
  | seq p q ihp ihq => exact ihp (ihq hk)
  | either p q ihp ihq =>
    intro c g g'
    simp only [run_either, Option.isSome_or]
    rw [ihp hk c g g', ihq hk c g g']
  | many s least most greedy => exact hk.tryReach s least most greedy
  | loop p least most greedy ih =>
    exact fun c g g' => hk.repeatStep (fun h => ih h) greedy (c.rest.length + 1) least most c g g'
  | group name p ih => exact fun c g g' => ih (fun c' g₁ g₂ => hk c' _ _) c g g'
  | ahead wanted p ih => exact .ahead (ih .stop) hk wanted
  | behind wanted s => exact hk.test fun c => c.before.any s.has == wanted
  | boundary => exact hk.test Cursor.atBoundary
  | textStart => exact hk.test fun c => c.before.isNone
  | textEnd => exact hk.test Cursor.atTextEnd
  | lineStart => exact hk.test Cursor.atLineStart
  | lineEnd => exact hk.test Cursor.atLineEnd

/-! ## Places that are passed over -/

/-- What is found behind a character that a pattern repeats at its start is found in front of the
character as well. -/
theorem isSome_run_of_skip_one {s : CharSet} (hlead : p.lead? = some s) (hk : AgreeOnPlaces k k')
    {c : Cursor} {d : Char} {rest : Text} (hrest : c.rest = d :: rest) (hd : s.has d = true)
    {g g' : GroupSpans} (h : (p.run (c.skip 1) g k).isSome = true) :
    (p.run c g' k').isSome = true := by
  induction p generalizing k k' g g' with
  | many s least most greedy =>
    cases most with
    | some b => cases hlead
    | none =>
      obtain rfl := Option.some.inj hlead
      obtain ⟨n, hn, hlater⟩ := Cursor.isSome_tryReach_iff.mp h
      have hnext : (c.skip 1).rest = rest := by rw [Cursor.skip_one hrest]
      rw [hnext] at hn
      refine Cursor.isSome_tryReach_iff.mpr ⟨n + 1, ?_, ?_⟩
      · rw [hrest, CharSet.takes_cons_succ]
        exact ⟨hd, Nat.le_trans (Nat.sub_le least 1) hn.least_le, nofun, hn.le_length⟩
      · rwa [Cursor.skip_skip, Nat.add_comm, hk _ g g'] at hlater
  | seq p q ihp ihq => exact ihp hlead (agreeOnPlaces_run q hk) h
  | group name p ih => exact ih hlead (fun c' g₁ g₂ => hk c' _ _) h
  | _ => cases hlead

end

theorem isSome_matchHere (p : Pattern) (c : Cursor) :
    (p.matchHere c false).isSome = (p.run c [] fun c' g => some (c', g)).isSome := by
  rw [matchHere, Option.isSome_map]
  rfl

/-- Whether a search is right in that no match starts one character before the place of a text. -/
def IsTold (p : Pattern) (t : Text) (failed : Bool) (i : Nat) : Prop :=
  failed = true → ∃ j, i = j + 1 ∧ p.matchHere (.place t j) false = none

theorem isTold_false (p : Pattern) (t : Text) (i : Nat) : p.IsTold t false i := nofun

theorem isTold_succ {failed : Bool} {i : Nat} (h : p.matchHere (.place t i) false = none) :
    p.IsTold t failed (i + 1) :=
  fun _ => ⟨i, rfl, h⟩

/-- Nothing matches at a place that is passed over. -/
theorem matchHere_of_isBarred {failed : Bool} (htold : p.IsTold (u ++ v) failed u.length)
    (h : p.isBarred failed u.getLast? = true) :
    p.matchHere (.place (u ++ v) u.length) false = none := by
  obtain ⟨hfailed, hbarred⟩ := Bool.and_eq_true_iff.mp h
  obtain ⟨j, hj, hnone⟩ := htold hfailed
  split at hbarred
  · next s d hlead hlast =>
    obtain ⟨u, rfl⟩ := List.getLast?_eq_some_iff.mp hlast
    obtain rfl : u.length = j := by simpa using hj
    rw [List.append_assoc, List.singleton_append, Cursor.place_append] at hnone
    have hhere : Cursor.place (u ++ [d] ++ v) (u ++ [d]).length =
        (⟨u.getLast?, d :: v, u.length⟩ : Cursor).skip 1 := by
      rw [Cursor.place_append, Cursor.skip_one rfl]
      simp
    rw [← Option.not_isSome_iff_eq_none, isSome_matchHere] at hnone ⊢
    rw [hhere]
    exact fun hsome => hnone (isSome_run_of_skip_one hlead .stop rfl hbarred hsome)
  · cases hbarred

/-- To pass over a place changes nothing. -/
theorem matchHere_unless_isBarred {failed : Bool} (htold : p.IsTold (u ++ v) failed u.length) :
    (if p.isBarred failed u.getLast? then none
      else p.matchHere ⟨u.getLast?, v, u.length⟩ false) =
        p.matchHere (.place (u ++ v) u.length) false := by
  split
  · next hbarred => exact (matchHere_of_isBarred htold hbarred).symm
  · rw [Cursor.place_append]

/-! ## The first match -/

theorem start_of_matchHere {c : Cursor} {proper : Bool} (h : p.matchHere c proper = some m) :
    m.start = c.offset := by
  obtain ⟨hit, -, rfl⟩ := Option.map_eq_some_iff.mp h
  rfl

theorem findFrom_eq_findSome? {failed : Bool} (htold : p.IsTold (u ++ v) failed u.length) :
    p.findFrom failed u.getLast? v u.length =
      (List.range' u.length (v.length + 1)).findSome? fun i =>
        p.matchHere (.place (u ++ v) i) false := by
  induction v generalizing failed u with
  | nil =>
    rw [findFrom, matchHere_unless_isBarred htold, List.length_nil, List.range'_one,
      List.findSome?_singleton]
  | cons d v ih =>
    rw [findFrom, matchHere_unless_isBarred htold, List.length_cons, List.range'_succ,
      List.findSome?_cons]
    cases hhere : p.matchHere (.place (u ++ d :: v) u.length) false with
    | some m => rfl
    | none =>
      have hlater := @ih (u ++ [d]) true (by
        rw [List.append_assoc, List.length_append]
        exact isTold_succ hhere)
      simpa using hlater

/-- The first match of a text is found as if all its places were tried from left to right. -/
theorem find?_eq_findSome? (p : Pattern) (t : Text) :
    p.find? t = (List.range (t.length + 1)).findSome? fun i =>
      p.matchHere (.place t i) false := by
  rw [List.range_eq_range']
  exact findFrom_eq_findSome? (u := []) (isTold_false p t 0)

/-- The first match of a text is the match at its place, where no place before it has one. -/
theorem find?_eq_some_iff :
    p.find? t = some m ↔ p.matchHere (.place t m.start) false = some m ∧ m.start ≤ t.length ∧
      ∀ j < m.start, p.matchHere (.place t j) false = none := by
  rw [find?_eq_findSome?, List.findSome?_eq_some_iff]
  constructor
  · rintro ⟨before, i, after, hrange, hhere, hnone⟩
    obtain rfl : m.start = i := start_of_matchHere hhere
    have hi : m.start ∈ List.range (t.length + 1) := by simp [hrange]
    have hle : m.start ≤ t.length := Nat.le_of_lt_succ (List.mem_range.mp hi)
    refine ⟨hhere, hle, fun j hj => ?_⟩
    have hsorted : (before ++ m.start :: after).Pairwise (· < ·) := hrange ▸ List.pairwise_lt_range
    have hplace : j ∈ before ++ m.start :: after := hrange ▸ List.mem_range.mpr (by omega)
    rcases List.mem_append.mp hplace with hbefore | hlater
    · exact hnone j hbefore
    · rcases List.mem_cons.mp hlater with rfl | hafter
      · exact absurd hj (Nat.lt_irrefl m.start)
      · have hlt := List.rel_of_pairwise_cons (List.pairwise_append.mp hsorted).2.1 hafter
        omega
  · rintro ⟨hhere, hle, hnone⟩
    refine ⟨List.range m.start, m.start, List.range' (m.start + 1) (t.length - m.start), ?_, hhere,
      fun j hj => hnone j (List.mem_range.mp hj)⟩
    have hcut := List.range'_append_1 (s := 0) (m := m.start) (n := t.length - m.start + 1)
    rw [Nat.zero_add, ← Nat.add_assoc, Nat.add_sub_of_le hle] at hcut
    rw [List.range_eq_range', List.range_eq_range', ← List.range'_succ, hcut]

/-- The first match of a text is the match at its place. -/
theorem matchHere_of_find? (h : p.find? t = some m) :
    p.matchHere (.place t m.start) false = some m :=
  (find?_eq_some_iff.mp h).1

/-- The first match starts no later than any. -/
theorem start_find?_le {i : Nat} (hi : i ≤ t.length)
    (h : (p.matchHere (.place t i) false).isSome = true) :
    ∃ m, p.find? t = some m ∧ m.start ≤ i := by
  have hfound : (p.find? t).isSome = true := by
    rw [find?_eq_findSome?, List.findSome?_isSome_iff]
    exact ⟨i, List.mem_range.mpr (Nat.lt_succ_of_le hi), h⟩
  obtain ⟨m, hm⟩ := Option.isSome_iff_exists.mp hfound
  refine ⟨m, hm, Nat.le_of_not_lt fun hlt => ?_⟩
  rw [(find?_eq_some_iff.mp hm).2.2 i hlt] at h
  cases h

/-- A text in which a pattern is found holds every character that the pattern demands. -/
theorem mem_of_find? {a : Char} (ha : p.demands a = true) (h : p.find? t = some m) :
    a ∈ t := by
  obtain ⟨hit, hrun, -⟩ := Option.map_eq_some_iff.mp (matchHere_of_find? h)
  obtain ⟨taken, c', g', hlead, hmem, -⟩ := mem_of_demands ha hrun
  have hdrop : t.drop m.start = taken ++ c'.rest := hlead.1
  exact List.mem_of_mem_drop (hdrop ▸ List.mem_append_left c'.rest hmem)

/-- A match at the very start is the first. -/
theorem find?_of_matchStart? (h : p.matchStart? t = some m) : p.find? t = some m := by
  have hstart : m.start = 0 := start_of_matchHere h
  rw [find?_eq_some_iff, hstart]
  exact ⟨h, Nat.zero_le _, nofun⟩

/-! ## All matches -/

theorem head?_matchesHere (p : Pattern) (c : Cursor) :
    (p.matchesHere c).head? = p.matchHere c false := by
  unfold matchesHere
  cases p.matchHere c false with
  | none => rfl
  | some m =>
    dsimp only
    split
    · rfl
    · rfl

theorem matchesHere_eq_nil_iff {c : Cursor} :
    p.matchesHere c = [] ↔ p.matchHere c false = none := by
  rw [← head?_matchesHere, List.head?_eq_none_iff]

theorem exists_matchHere_of_mem_matchesHere {c : Cursor} (h : m ∈ p.matchesHere c) :
    ∃ proper, p.matchHere c proper = some m := by
  unfold matchesHere at h
  split at h
  · cases h
  · next first hfirst =>
    split at h
    · rcases List.mem_cons.mp h with rfl | h
      · exact ⟨false, hfirst⟩
      · exact ⟨true, Option.mem_toList.mp h⟩
    · rw [List.mem_singleton.mp h]
      exact ⟨false, hfirst⟩

/-- The matches of a text at the given places, from left to right, skipping those before
`resume`. -/
def tryPlaces (p : Pattern) (t : Text) : List Nat → Nat → List Match
  | [], _ => []
  | i :: later, resume =>
    if i < resume then tryPlaces p t later resume
    else p.matchesHere (.place t i) ++ tryPlaces p t later
      (match (p.matchesHere (.place t i)).getLast? with
      | some m => m.stop
      | none => resume)

theorem findAllFrom_eq_tryPlaces {failed : Bool} (htold : p.IsTold (u ++ v) failed u.length)
    (resume : Nat) :
    p.findAllFrom failed u.getLast? v u.length resume =
      p.tryPlaces (u ++ v) (List.range' u.length (v.length + 1)) resume := by
  induction v generalizing u failed resume with
  | nil =>
    rw [findAllFrom, ← Cursor.place_append, List.length_nil, List.range'_one, tryPlaces]
    split
    · next hpassed =>
      split
      · rfl
      · next hresume =>
        have hbarred : p.isBarred failed u.getLast? = true := by simpa [hresume] using hpassed
        rw [matchesHere_eq_nil_iff.mpr (matchHere_of_isBarred htold hbarred)]
        rfl
    · next hpassed =>
      have hresume : ¬ u.length < resume := fun hlt => hpassed (by simp [hlt])
      rw [if_neg hresume]
      exact (List.append_nil _).symm
  | cons d v ih =>
    -- the matches behind this place, from wherever the search goes on
    have hnext : ∀ {failed : Bool} (resume : Nat), p.IsTold (u ++ d :: v) failed (u.length + 1) →
        p.findAllFrom failed (some d) v (u.length + 1) resume =
          p.tryPlaces (u ++ d :: v) (List.range' (u.length + 1) (v.length + 1)) resume := by
      intro failed resume htold
      have hlast : p.IsTold (u ++ [d] ++ v) failed (u ++ [d]).length := by simpa using htold
      simpa using ih hlast resume
    rw [findAllFrom, ← Cursor.place_append, List.length_cons, List.range'_succ, tryPlaces]
    split
    · exact hnext resume (isTold_false p _ _)
    · split
      · next hbarred =>
        have hnone := matchHere_of_isBarred htold hbarred
        rw [matchesHere_eq_nil_iff.mpr hnone]
        exact hnext resume (isTold_succ hnone)
      · refine congrArg (p.matchesHere (.place (u ++ d :: v) u.length) ++ ·)
          (hnext _ fun hempty => ?_)
        exact ⟨_, rfl, matchesHere_eq_nil_iff.mp (List.isEmpty_iff.mp hempty)⟩

/-- All matches of a text are found as if no place were passed over. -/
theorem findAll_eq_tryPlaces (p : Pattern) (t : Text) :
    p.findAll t = p.tryPlaces t (List.range (t.length + 1)) 0 := by
  rw [List.range_eq_range']
  exact findAllFrom_eq_tryPlaces (u := []) (isTold_false p t 0) 0

theorem exists_place_of_mem_tryPlaces {later : List Nat} {resume : Nat}
    (h : m ∈ p.tryPlaces t later resume) :
    ∃ i proper, p.matchHere (.place t i) proper = some m := by
  induction later generalizing resume with
  | nil => cases h
  | cons i later ih =>
    rw [tryPlaces] at h
    split at h
    · exact ih h
    · rcases List.mem_append.mp h with hhere | hlater
      · exact ⟨i, exists_matchHere_of_mem_matchesHere hhere⟩
      · exact ih hlater

/-- Every match found in a text is one that starts at some place of it. -/
theorem exists_place_of_mem_findAll (h : m ∈ p.findAll t) :
    ∃ i proper, p.matchHere (.place t i) proper = some m := by
  rw [findAll_eq_tryPlaces] at h
  exact exists_place_of_mem_tryPlaces h

/-- The first of all matches is the one at the first place that has one. -/
theorem head?_tryPlaces {later : List Nat} :
    (p.tryPlaces t later 0).head? =
      later.findSome? fun i => p.matchHere (.place t i) false := by
  induction later with
  | nil => rfl
  | cons i later ih =>
    rw [tryPlaces, if_neg (Nat.not_lt_zero i), List.findSome?_cons, ← head?_matchesHere]
    cases p.matchesHere (.place t i) with
    | nil => exact ih
    | cons m ms => rfl

/-- The first match of a text is the first of all its matches. -/
theorem find?_eq_head? (p : Pattern) (t : Text) : p.find? t = (p.findAll t).head? := by
  rw [find?_eq_findSome?, findAll_eq_tryPlaces, head?_tryPlaces]

/-! ## Matches that stay apart -/

/-- Whether no match at a place of a text is empty, and none reaches into another. -/
def IsApart (p : Pattern) (t : Text) : Prop :=
  ∀ i m, p.matchHere (.place t i) false = some m →
    i < m.stop ∧ ∀ j, i < j → j < m.stop → p.matchHere (.place t j) false = none

/-- The places of a text at which a pattern matches. -/
def places (p : Pattern) (t : Text) : List Nat :=
  (List.range (t.length + 1)).filter fun i => (p.matchHere (.place t i) false).isSome

/-- Without empty matches, at most one match is found at a place. -/
theorem matchesHere_of_isApart (h : p.IsApart t) (i : Nat) :
    p.matchesHere (.place t i) = (p.matchHere (.place t i) false).toList := by
  unfold matchesHere
  cases hm : p.matchHere (.place t i) false with
  | none => rfl
  | some m =>
    have hstop : m.start ≠ m.stop := by
      rw [start_of_matchHere hm]
      exact Nat.ne_of_lt (h i m hm).1
    dsimp only
    rw [if_neg (by simpa using hstop)]
    rfl

theorem map_start_tryPlaces (h : p.IsApart t) {later : List Nat}
    (hsorted : later.Pairwise (· < ·)) {resume : Nat}
    (hresume : ∀ j ∈ later, j < resume → p.matchHere (.place t j) false = none) :
    (p.tryPlaces t later resume).map (·.start) =
      later.filter fun i => (p.matchHere (.place t i) false).isSome := by
  induction later generalizing resume with
  | nil => rfl
  | cons i later ih =>
    obtain ⟨hlater, hsorted⟩ := List.pairwise_cons.mp hsorted
    obtain ⟨hhere, hresume⟩ := List.forall_mem_cons.mp hresume
    rw [tryPlaces, matchesHere_of_isApart h, List.filter_cons]
    split
    · next hpassed =>
      rw [hhere hpassed]
      exact ih hsorted hresume
    · cases hm : p.matchHere (.place t i) false with
      | none => exact ih hsorted hresume
      | some m =>
        have hstart : m.start = i := start_of_matchHere hm
        have hrest := ih hsorted fun j hj => (h i m hm).2 j (hlater j hj)
        simpa [hstart] using hrest

/-- If no match reaches into another, the matches found in a text are those of all its places. -/
theorem map_start_findAll (h : p.IsApart t) : (p.findAll t).map (·.start) = p.places t := by
  rw [findAll_eq_tryPlaces]
  exact map_start_tryPlaces h List.pairwise_lt_range fun j _ hj => absurd hj (Nat.not_lt_zero j)

end Pattern
end SourceAudit
