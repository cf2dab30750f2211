import Mathlib.Data.List.Nodup
import SourceAudit.Complexity.Recursion
import SourceAudit.Proofs.Complexity.LoopTokens
import SourceAudit.Proofs.Pattern.Search

/-!
  Calls in a text.

  A call is a name, blanks if any, and a parenthesis. The pattern of a call asks for a word
  boundary before the name; an identifier of its own is touched by no part of a name, so
  not by a dollar sign either. What is proved:
    1. `run_callForm` — the pattern takes exactly the calls whose name begins at a word
       boundary, and none of them reaches into another (`add_callWidth_le`).
    2. `count_callForm`, `map_start_find?_callForm` — so it is found as often as there are
       places of such calls, first at the first of them.
    3. `length_callPlaces_of_word`, `callPlaces_of_dollar` — a name that starts with a word
       character is also counted behind a dollar sign; one that starts with a dollar sign
       is counted behind a word character, where it is no identifier of its own, and
       nowhere else.
-/
namespace SourceAudit.Recursion

open Unicode (isWord isBlank)

/-! ## Places of calls -/

/-- Whether a call is written at the start of a text: the name, blanks, and a parenthesis. -/
def writesCall (name t : Text) : Bool :=
  name.isPrefixOf t && Text.startsWith (Text.trimLeft (t.drop name.length)) ['(']

/-- The number of characters up to and with the parenthesis of a call. -/
def callWidth (name t : Text) : Nat :=
  name.length + ((t.drop name.length).takeWhile isBlank).length + 1

/-- The places of a text where a call is written and the character before is as asked for. -/
def callPlaces (behind : Option Char → Bool) (name t : Text) : List Nat :=
  (List.range t.length).filter fun i => behind (t.take i).getLast? && writesCall name (t.drop i)

/-- The places of a text where a call is written with the name as an identifier of its own: no
part of a name touches it. -/
def wholeCalls (name t : Text) : List Nat :=
  (List.range t.length).filter fun i =>
    !(t.take i).getLast?.any Text.isNamePart &&
      !(t.drop (i + name.length)).head?.any Text.isNamePart && writesCall name (t.drop i)

/-- Whether a name that stands behind a character begins at a word boundary. -/
def atEdge (name : Text) (before : Option Char) : Bool :=
  before.any isWord != name.head?.any isWord

/-- Whether a text is a name: parts of names, one at least. -/
structure IsName (name : Text) : Prop where
  nonempty : name ≠ []
  parts : ∀ c ∈ name, Text.isNamePart c = true

theorem isNamePart_of_isBlank {c : Char} (h : isBlank c = true) : Text.isNamePart c = false := by
  have hdollar : c ≠ '$' := by
    rintro rfl
    exact absurd h (by decide)
  simp [Text.isNamePart, Unicode.isWord_of_isBlank h, hdollar]

section
variable {name t : Text}

/-- A call is a name, blanks and a parenthesis. -/
theorem writesCall_iff : writesCall name t = true ↔
    ∃ gap rest, gap.isBlank = true ∧ t = name ++ (gap ++ '(' :: rest) := by
  have hopen : isBlank '(' = false := by decide
  constructor
  · intro h
    obtain ⟨hname, hrest⟩ := Bool.and_eq_true_iff.mp h
    obtain ⟨tail, rfl⟩ := List.isPrefixOf_iff_prefix.mp hname
    rw [List.drop_left] at hrest
    obtain ⟨rest, hrest⟩ := List.isPrefixOf_iff_prefix.mp hrest
    refine ⟨tail.takeWhile isBlank, rest, List.all_takeWhile, ?_⟩
    rw [← List.singleton_append, hrest, Text.trimLeft, List.takeWhile_append_dropWhile]
  · rintro ⟨gap, rest, hgap, rfl⟩
    have hall : ∀ c ∈ gap, isBlank c = true := List.all_eq_true.mp hgap
    have hprefix : name.isPrefixOf (name ++ (gap ++ '(' :: rest)) = true :=
      List.isPrefixOf_iff_prefix.mpr (List.prefix_append _ _)
    rw [writesCall, hprefix, Bool.true_and, List.drop_left, Text.trimLeft,
      List.dropWhile_append_of_pos hall, List.dropWhile_cons_of_neg (by simp [hopen])]
    rfl

theorem callWidth_append {gap : Text} (hgap : gap.isBlank = true) (rest : Text) :
    callWidth name (name ++ (gap ++ '(' :: rest)) = name.length + gap.length + 1 := by
  have hopen : isBlank '(' = false := by decide
  have hall : ∀ c ∈ gap, isBlank c = true := List.all_eq_true.mp hgap
  rw [callWidth, List.drop_left, List.takeWhile_append_of_pos hall,
    List.takeWhile_cons_of_neg (by simp [hopen]), List.append_nil]

/-- The name of a call is made of parts of names. -/
theorem isNamePart_of_writesCall (hname : IsName name) {i q : Nat}
    (h : writesCall name (t.drop i) = true) (hq : q < name.length) :
    t[i + q]?.any Text.isNamePart = true := by
  obtain ⟨gap, rest, -, hcut⟩ := writesCall_iff.mp h
  rw [← List.getElem?_drop, hcut, List.getElem?_append_left hq, List.getElem?_eq_getElem hq]
  exact hname.parts _ (List.getElem_mem hq)

/-- What stands behind the name of a call, up to the parenthesis, is no part of a name. -/
theorem not_isNamePart_of_writesCall {i q : Nat} (h : writesCall name (t.drop i) = true)
    (hq : name.length ≤ q) (hstop : q < callWidth name (t.drop i)) :
    t[i + q]?.any Text.isNamePart = false := by
  obtain ⟨gap, rest, hgap, hcut⟩ := writesCall_iff.mp h
  rw [hcut, callWidth_append hgap] at hstop
  rw [← List.getElem?_drop, hcut, List.getElem?_append_right hq]
  by_cases hblank : q - name.length < gap.length
  · rw [List.getElem?_append_left hblank, List.getElem?_eq_getElem hblank]
    exact isNamePart_of_isBlank (List.all_eq_true.mp hgap _ (List.getElem_mem hblank))
  · obtain hlast : q - name.length = gap.length := by omega
    rw [hlast, List.getElem?_append_right (Nat.le_refl _), Nat.sub_self]
    show Text.isNamePart '(' = false
    decide

/-- A call is written whatever follows it. -/
theorem writesCall_append (h : writesCall name t = true) (rest : Text) :
    writesCall name (t ++ rest) = true ∧ callWidth name (t ++ rest) = callWidth name t := by
  obtain ⟨gap, more, hgap, rfl⟩ := writesCall_iff.mp h
  have hcut : name ++ (gap ++ '(' :: more) ++ rest = name ++ (gap ++ '(' :: (more ++ rest)) := by
    simp only [List.append_assoc, List.cons_append]
  rw [hcut, callWidth_append hgap, callWidth_append hgap]
  exact ⟨writesCall_iff.mpr ⟨gap, more ++ rest, hgap, rfl⟩, rfl⟩

theorem callWidth_le (h : writesCall name t = true) : callWidth name t ≤ t.length := by
  obtain ⟨gap, rest, hgap, rfl⟩ := writesCall_iff.mp h
  rw [callWidth_append hgap]
  simp only [List.length_append, List.length_cons]
  omega

/-- A call does not need what stands behind its parenthesis. -/
theorem writesCall_of_append {rest : Text} (h : writesCall name (t ++ rest) = true)
    (hwidth : callWidth name (t ++ rest) ≤ t.length) : writesCall name t = true := by
  obtain ⟨gap, more, hgap, hcut⟩ := writesCall_iff.mp h
  rw [hcut, callWidth_append hgap] at hwidth
  have hcall : name ++ (gap ++ ['(']) <+: t ++ rest := ⟨more, by simp [hcut]⟩
  have hshort : name ++ (gap ++ ['(']) <+: t :=
    List.prefix_of_prefix_length_le hcall (List.prefix_append t rest) (by simp; omega)
  obtain ⟨tail, rfl⟩ := hshort
  exact writesCall_iff.mpr ⟨gap, tail, hgap, by simp⟩

/-- The character before the end of a call is its parenthesis. -/
theorem getLast?_take_callWidth (h : writesCall name t = true) :
    (t.take (callWidth name t)).getLast? = some '(' := by
  obtain ⟨gap, rest, hgap, rfl⟩ := writesCall_iff.mp h
  have hcut : name ++ (gap ++ '(' :: rest) = (name ++ gap ++ ['(']) ++ rest := by simp
  rw [callWidth_append hgap, hcut, List.take_left' (by simp; omega)]
  simp

/-- No call reaches into another one. -/
theorem add_callWidth_le (hname : IsName name) {i j : Nat}
    (hi : writesCall name (t.drop i) = true) (hj : writesCall name (t.drop j) = true)
    (hij : i < j) : i + callWidth name (t.drop i) ≤ j := by
  by_contra hreach
  have hlength : 0 < name.length := List.length_pos_iff.mpr hname.nonempty
  have hwidth : name.length < callWidth name (t.drop i) := by
    rw [callWidth]
    omega
  -- a character of the second name that stands between the first one and its parenthesis
  obtain ⟨q, hq⟩ : ∃ q, q = max (i + name.length) j := ⟨_, rfl⟩
  have hsecond := isNamePart_of_writesCall hname hj (q := q - j) (by omega)
  have hfirst := not_isNamePart_of_writesCall hi (q := q - i) (by omega) (by omega)
  rw [Nat.add_sub_cancel' (by omega)] at hsecond hfirst
  rw [hsecond] at hfirst
  cases hfirst

end

/-! ## The pattern of a call -/

section
variable {name : String} {c : Cursor}

/-- The pattern of a call takes a call whose name begins at a word boundary, and nothing else. -/
theorem run_callForm {g : GroupSpans} {k : Cursor → GroupSpans → Option Hit} :
    (callForm name).run c g k =
      if c.atBoundary && writesCall name.toList c.rest then
        k (c.skip (callWidth name.toList c.rest)) g
      else none := by
  have hopen : CharSet.space.has '(' = false := by decide
  have hparen : ∀ c' g', (Pattern.one (.char '(')).run c' g' k =
      if ['('].isPrefixOf c'.rest then k (c'.skip 1) g' else none := fun _ _ =>
    Pattern.run_literal ['(']
  -- no blank is passed back: what has to follow it is no blank
  have hnearer : ∀ c' : Cursor, c'.rest.head?.any CharSet.space.has = true →
      (Pattern.one (.char '(')).run c' g k = none := by
    intro c' hblank
    rw [hparen, if_neg]
    intro hopens
    obtain ⟨rest, hrest⟩ := List.isPrefixOf_iff_prefix.mp hopens
    rw [← hrest] at hblank
    exact Bool.false_ne_true (hopen.symm.trans hblank)
  show (if c.atBoundary then (Pattern.literal name.toList).run c g fun c' g' =>
    (Pattern.many .space 0 none true).run c' g' fun c' g' =>
      (Pattern.one (.char '(')).run c' g' k else none) = _
  rw [Pattern.run_literal, Pattern.run_many hnearer, hparen, Cursor.skip_skip, Cursor.skip_skip]
  obtain ⟨tail, htail⟩ : ∃ tail, tail = c.rest.drop name.toList.length := ⟨_, rfl⟩
  have hrest : (c.skip (name.toList.length + (tail.takeWhile isBlank).length)).rest =
      Text.trimLeft tail := by
    calc c.rest.drop (name.toList.length + (tail.takeWhile isBlank).length)
        = tail.drop (tail.takeWhile isBlank).length := by rw [htail, List.drop_drop]
      _ = (tail.takeWhile isBlank ++ tail.dropWhile isBlank).drop
            (tail.takeWhile isBlank).length := by rw [List.takeWhile_append_dropWhile]
      _ = Text.trimLeft tail := List.drop_left
  have hspace : CharSet.space.has = isBlank := rfl
  have hbehind : (c.skip name.toList.length).rest = tail := htail.symm
  rw [hbehind, hspace, hrest, writesCall, callWidth, ← htail]
  cases c.atBoundary <;> cases name.toList.isPrefixOf c.rest <;> rfl

theorem isSome_matchHere_callForm :
    ((callForm name).matchHere c false).isSome =
      (c.atBoundary && writesCall name.toList c.rest) := by
  rw [Pattern.matchHere, run_callForm]
  cases c.atBoundary && writesCall name.toList c.rest <;> rfl

theorem stop_of_matchHere_callForm {proper : Bool} {m : Match}
    (h : (callForm name).matchHere c proper = some m) :
    m.stop = c.offset + callWidth name.toList c.rest := by
  obtain ⟨⟨stop, spans⟩, hrun, rfl⟩ := Option.map_eq_some_iff.mp h
  rw [run_callForm] at hrun
  split at hrun
  · split at hrun
    · cases hrun
    · obtain ⟨rfl, -⟩ := Prod.mk.inj (Option.some.inj hrun)
      rfl
  · cases hrun

/-- The matches of a call keep apart. -/
theorem isApart_callForm (hname : IsName name.toList) (t : Text) : (callForm name).IsApart t := by
  intro i m hm
  have hcall : writesCall name.toList (t.drop i) = true := by
    have hsome : ((callForm name).matchHere (.place t i) false).isSome =
        ((Cursor.place t i).atBoundary && writesCall name.toList (t.drop i)) :=
      isSome_matchHere_callForm
    rw [hm] at hsome
    exact (Bool.and_eq_true_iff.mp hsome.symm).2
  have hstop : m.stop = i + callWidth name.toList (t.drop i) := stop_of_matchHere_callForm hm
  refine ⟨?_, ?_⟩
  · rw [hstop, callWidth]
    omega
  · intro j hij hj
    rw [← Option.not_isSome_iff_eq_none, isSome_matchHere_callForm, Bool.and_eq_true]
    rintro ⟨-, hother⟩
    have hreach := add_callWidth_le hname hcall hother hij
    omega

/-- The places where the pattern of a call matches. -/
theorem places_callForm (hname : IsName name.toList) (t : Text) :
    (callForm name).places t = callPlaces (atEdge name.toList) name.toList t := by
  have htest : ∀ i, ((callForm name).matchHere (.place t i) false).isSome =
      (atEdge name.toList (t.take i).getLast? && writesCall name.toList (t.drop i)) := by
    intro i
    rw [isSome_matchHere_callForm]
    cases hcall : writesCall name.toList (t.drop i) with
    | false => simp [Cursor.place, hcall]
    | true =>
      -- the name of the call is what stands behind the place
      obtain ⟨gap, rest, -, hcut⟩ := writesCall_iff.mp hcall
      have hhead : (t.drop i).head? = name.toList.head? := by
        rw [hcut, List.head?_append_of_ne_nil _ hname.nonempty]
      simp [Cursor.place, Cursor.atBoundary, atEdge, hcall, hhead]
  have hend : writesCall name.toList [] = false := by
    rw [Bool.eq_false_iff]
    intro hcall
    obtain ⟨gap, rest, -, hcut⟩ := writesCall_iff.mp hcall
    simp at hcut
  simp only [Pattern.places, callPlaces, htest, List.range_succ, List.filter_append]
  simp [hend]

/-- How often the pattern of a call is found. -/
theorem count_callForm (hname : IsName name.toList) (t : Text) :
    (callForm name).count t = (callPlaces (atEdge name.toList) name.toList t).length := by
  rw [← places_callForm hname, ← Pattern.map_start_findAll (isApart_callForm hname t),
    List.length_map]
  rfl

/-- Where the pattern of a call is found first. -/
theorem map_start_find?_callForm (hname : IsName name.toList) (t : Text) :
    ((callForm name).find? t).map (·.start) =
      (callPlaces (atEdge name.toList) name.toList t).head? := by
  rw [← places_callForm hname, ← Pattern.map_start_findAll (isApart_callForm hname t),
    Pattern.find?_eq_head?, List.head?_map]

end

/-! ## Places within a part of a text -/

section
variable {behind : Option Char → Bool} {name t : Text}

/-- The first place of calls is one, and no smaller one is. -/
theorem head?_callPlaces {i : Nat} (h : (callPlaces behind name t).head? = some i) :
    behind (t.take i).getLast? = true ∧ writesCall name (t.drop i) = true ∧ i < t.length ∧
      ∀ j < i, (behind (t.take j).getLast? && writesCall name (t.drop j)) = false := by
  rw [callPlaces, List.head?_filter, List.find?_range_eq_some] at h
  obtain ⟨hhere, hi, hbefore⟩ := h
  obtain ⟨hbehind, hcall⟩ := Bool.and_eq_true_iff.mp hhere
  refine ⟨hbehind, hcall, List.mem_range.mp hi, ?_⟩
  simpa only [Bool.not_eq_true'] using hbefore

/-- The places from an index on are those of the rest of the text, if a call at its start is
taken alike. -/
theorem length_callPlaces_drop {s : Nat} (hs : s ≤ t.length)
    (hstart : behind (t.take s).getLast? = behind none) :
    (callPlaces behind name t).length =
      ((List.range s).filter fun i =>
          behind (t.take i).getLast? && writesCall name (t.drop i)).length +
        (callPlaces behind name (t.drop s)).length := by
  have hlength : t.length = s + (t.drop s).length := by
    rw [List.length_drop]
    omega
  have hbehind : ∀ j < (t.drop s).length,
      behind (t.take (s + j)).getLast? = behind ((t.drop s).take j).getLast? := by
    intro j hj
    cases j with
    | zero => exact hstart
    | succ j =>
      have hsome : ((t.drop s).take (j + 1)).getLast?.isSome = true := by
        rw [List.getLast?_isSome]
        exact List.ne_nil_of_length_pos (by rw [List.length_take]; omega)
      rw [List.take_add, List.getLast?_append, Option.or_of_isSome hsome]
  have hrest : ((List.range (t.drop s).length).map (s + ·)).filter (fun i =>
      behind (t.take i).getLast? && writesCall name (t.drop i)) =
        (callPlaces behind name (t.drop s)).map (s + ·) := by
    rw [List.filter_map, callPlaces]
    refine congrArg _ (List.filter_congr fun j hj => ?_)
    rw [Function.comp, hbehind j (List.mem_range.mp hj), List.drop_drop]
  rw [callPlaces, hlength, List.range_add, List.filter_append, List.length_append, hrest,
    List.length_map]

/-- Up to the end of the first call there is no other one. -/
theorem length_filter_first (behind : Option Char → Bool) (hname : IsName name) {i : Nat}
    (hbehind : behind (t.take i).getLast? = true) (hcall : writesCall name (t.drop i) = true)
    (hfirst : ∀ j < i, (behind (t.take j).getLast? && writesCall name (t.drop j)) = false) :
    ((List.range (i + callWidth name (t.drop i))).filter fun j =>
      behind (t.take j).getLast? && writesCall name (t.drop j)).length = 1 := by
  have honly : ∀ j ∈ List.range (i + callWidth name (t.drop i)),
      (behind (t.take j).getLast? && writesCall name (t.drop j)) = (j == i) := by
    intro j hj
    rcases Nat.lt_trichotomy j i with hlt | rfl | hgt
    · rw [hfirst j hlt, beq_eq_false_iff_ne.mpr (Nat.ne_of_lt hlt)]
    · rw [hbehind, hcall, beq_self_eq_true, Bool.and_self]
    · rw [beq_eq_false_iff_ne.mpr (Nat.ne_of_gt hgt), Bool.and_eq_false_iff]
      right
      rw [Bool.eq_false_iff]
      intro hother
      have hreach := add_callWidth_le hname hcall hother hgt
      have hbound := List.mem_range.mp hj
      omega
  rw [List.filter_congr honly, ← List.countP_eq_length_filter]
  refine List.count_eq_one_of_mem List.nodup_range (List.mem_range.mpr ?_)
  rw [callWidth]
  omega

end

/-! ## Names as identifiers of their own -/

section
variable {name : Text}

/-- A name is set off from what follows it by the call. -/
theorem wholeCalls_eq (t : Text) :
    wholeCalls name t = callPlaces (fun before => !before.any Text.isNamePart) name t := by
  refine List.filter_congr fun i _ => ?_
  cases hcall : writesCall name (t.drop i) with
  | false => rw [Bool.and_false, Bool.and_false]
  | true =>
    have hafter : t[i + name.length]?.any Text.isNamePart = false :=
      not_isNamePart_of_writesCall hcall (Nat.le_refl _) (by rw [callWidth]; omega)
    rw [List.head?_drop, hafter, Bool.not_false, Bool.and_true, Bool.and_true]

/-- The places of calls fall apart by the character before them. -/
theorem length_callPlaces_add (behind special : Option Char → Bool) (t : Text) :
    (callPlaces behind name t).length =
      (callPlaces (fun before => special before && behind before) name t).length +
        (callPlaces (fun before => !special before && behind before) name t).length := by
  have hpart : ∀ kind : Option Char → Bool,
      (callPlaces (fun before => kind before && behind before) name t) =
        (callPlaces behind name t).filter fun i => kind (t.take i).getLast? := by
    intro kind
    rw [callPlaces, callPlaces, List.filter_filter]
    exact List.filter_congr fun i _ => Bool.and_assoc ..
  rw [hpart, hpart fun before => !special before, ← List.countP_eq_length_filter,
    ← List.countP_eq_length_filter]
  rw [List.length_eq_countP_add_countP fun i => special (t.take i).getLast?]
  exact congrArg _ (List.countP_congr fun i _ => by simp)

theorem length_callPlaces_of_word (hname : IsName name) (hhead : name.head? ≠ some '$') (t : Text) :
    (callPlaces (atEdge name) name t).length =
      (callPlaces (· == some '$') name t).length + (wholeCalls name t).length := by
  have hdollar : isWord '$' = false := by decide
  have hword : name.head?.any isWord = true := by
    obtain ⟨c, rest, rfl⟩ := List.exists_cons_of_ne_nil hname.nonempty
    have hpart := hname.parts c List.mem_cons_self
    have hc : c ≠ '$' := fun h => hhead (congrArg some h)
    simpa [Text.isNamePart, hc] using hpart
  rw [length_callPlaces_add (atEdge name) (· == some '$'), wholeCalls_eq]
  have hspecial : (fun before => (before == some '$') && atEdge name before) = (· == some '$') := by
    funext before
    by_cases h : before = some '$' <;> simp [atEdge, hword, h, hdollar]
  have hother : (fun before => !(before == some '$') && atEdge name before) =
      fun before => !before.any Text.isNamePart := by
    funext before
    cases before with
    | none => simp [atEdge, hword]
    | some c =>
      simp only [Option.some_beq_some, atEdge, hword, Option.any_some, Bool.bne_true, Text.isNamePart,
        Bool.not_or, Bool.and_comm]
  rw [hspecial, hother]

theorem callPlaces_of_dollar (hhead : name.head? = some '$') (t : Text) :
    callPlaces (atEdge name) name t = callPlaces (fun before => before.any isWord) name t := by
  have hdollar : isWord '$' = false := by decide
  have hedge : atEdge name = fun before => before.any isWord := by
    funext before
    rw [atEdge, hhead, Option.any_some, hdollar, Bool.bne_false]
  rw [hedge]

end

end SourceAudit.Recursion
