import Mathlib.Data.List.Nodup
import SourceAudit.Language.JavaScript
import SourceAudit.Proofs.Complexity.CallForms
import SourceAudit.Proofs.Metrics.FunctionEnds
import SourceAudit.Proofs.Text.JoinedLines

/-!
  How often a function calls itself.

  The calls in the text of a function are counted, and one of them may be passed over as
  the declaration: the first on its line, if no body starts before it. What is proved:
    1. `count_withoutDeclaration` — all calls are counted whose name begins at a word
       boundary, but for the one that is passed over.
    2. `Declares.name` — a function that is declared behind the word `function` has its
       name on that line, in front of a parenthesis.
    3. `selfCalls_eq_iff` — so the count is that of the other calls with the name as an
       identifier of its own exactly if no further one stands behind a dollar sign and one
       is passed over; or, for a name that starts with a dollar sign, if there happen to be
       as many behind word characters. `selfCalls_dollarNamed` is a function that calls
       itself and is not found to.
-/
namespace SourceAudit.Recursion

open Unicode (isWord)

/-! ## The line of the declaration -/

/-- Whether the first call on the line of a declaration is taken for the declaration: no body
starts before it. -/
def isPassedOver (name head : Text) : Bool :=
  (callPlaces (atEdge name) name head).head?.any fun i => !bodyStart.occurs (head.take i)

/-- Behind the first call of the first line all places of calls are left but one. -/
theorem length_callPlaces_joinLines {behind : Option Char → Bool} {name : Text}
    (hname : IsName name) (hopen : behind (some '(') = behind none) {head : Text} {i : Nat}
    (h : (callPlaces behind name head).head? = some i) (rest : List Text) :
    (callPlaces behind name (Text.joinLines (head :: rest))).length =
      (callPlaces behind name (Text.joinLines
        (head.drop (i + callWidth name (head.drop i)) :: rest))).length + 1 := by
  obtain ⟨hbehind, hcall, hi, hfirst⟩ := head?_callPlaces h
  obtain ⟨s, hs⟩ : ∃ s, s = i + callWidth name (head.drop i) := ⟨_, rfl⟩
  have hshead : s ≤ head.length := by
    have hwidth := callWidth_le hcall
    rw [List.length_drop] at hwidth
    omega
  obtain ⟨tail, htail⟩ : ∃ tail, Text.joinLines (head :: rest) = head ++ tail :=
    ⟨Text.joinLines ([] :: rest), by rw [← Text.joinLines_append_cons, List.append_nil]⟩
  have hrest : (head ++ tail).drop s = Text.joinLines (head.drop s :: rest) := by
    calc (head ++ tail).drop s
        = (Text.joinLines ((head.take s ++ head.drop s) :: rest)).drop s := by
          rw [List.take_append_drop, htail]
      _ = (head.take s ++ Text.joinLines (head.drop s :: rest)).drop s := by
          rw [Text.joinLines_append_cons]
      _ = Text.joinLines (head.drop s :: rest) := List.drop_left' (List.length_take_of_le hshead)
  have htake : ∀ {j}, j ≤ head.length → (head ++ tail).take j = head.take j := fun hj =>
    List.take_append_of_le_length hj
  have hdrop : ∀ {j}, j ≤ head.length → (head ++ tail).drop j = head.drop j ++ tail := fun hj =>
    List.drop_append_of_le_length hj
  obtain ⟨hcall', hwidth⟩ := writesCall_append hcall tail
  have hparen : behind ((head ++ tail).take s).getLast? = behind none := by
    have hlast := getLast?_take_callWidth hcall
    rw [htake hshead, hs, List.take_add, List.getLast?_append, hlast, Option.some_or, hopen]
  have hone := length_filter_first (t := head ++ tail) behind hname (i := i)
    (by rwa [htake (by omega)]) (by rwa [hdrop (by omega)]) fun j hj => by
      -- an earlier call of the whole would end before this one, so be one of the line
      have hline := hfirst j hj
      rw [htake (by omega), hdrop (by omega)]
      rw [Bool.and_eq_false_iff] at hline ⊢
      refine hline.imp_right fun hnone => Bool.eq_false_iff.mpr fun hearlier => ?_
      have hreach := add_callWidth_le (t := head ++ tail) hname (i := j) (j := i)
        (by rwa [hdrop (by omega)]) (by rwa [hdrop (by omega)]) hj
      rw [hdrop (by omega)] at hreach
      have hcontra := writesCall_of_append hearlier (by rw [List.length_drop]; omega)
      exact Bool.false_ne_true (hnone.symm.trans hcontra)
  rw [hdrop (by omega), hwidth, ← hs] at hone
  rw [← hs, htail, length_callPlaces_drop (s := s) (by rw [List.length_append]; omega) hparen, hone,
    hrest, Nat.add_comm]

/-- A call that is taken for the declaration is the only one that is not counted. -/
theorem count_withoutDeclaration {name : String} (hname : IsName name.toList) (head : Text)
    (rest : List Text) :
    (callForm name).count (Text.joinLines (withoutDeclaration (callForm name) head :: rest)) +
        (isPassedOver name.toList head).toNat =
      (callPlaces (atEdge name.toList) name.toList (Text.joinLines (head :: rest))).length := by
  have hstart := map_start_find?_callForm hname head
  rw [withoutDeclaration, isPassedOver, ← hstart]
  cases hfind : (callForm name).find? head with
  | none => exact count_callForm hname _
  | some m =>
    rw [hfind] at hstart
    dsimp only [Option.map_some, Option.any_some]
    cases hbody : bodyStart.occurs (head.take m.start) with
    | true => exact count_callForm hname _
    | false =>
      have hstop : m.stop = m.start + callWidth name.toList (head.drop m.start) :=
        stop_of_matchHere_callForm (Pattern.matchHere_of_find? hfind)
      have hopen : atEdge name.toList (some '(') = atEdge name.toList none := by
        have hparen : isWord '(' = false := by decide
        simp [atEdge, hparen]
      rw [length_callPlaces_joinLines hname hopen hstart.symm, ← hstop]
      exact congrArg (· + 1) (count_callForm hname _)

/-! ## Functions declared behind the word -/

/-- Whether a function of a source is found on a line by the first of the forms of its language,
with the name at the given place of the line. -/
structure Declares (p : Prepared) (f : FunctionSpan) (line : Text) (own : Nat) : Prop where
  mem : f ∈ FunctionSpan.usual p
  onLine : p.maskedLines[f.startLine - 1]? = some line
  found : (p.language.functionForms.head?.bind fun form =>
    (form.find? line).bind (·.capture? (.place 1))) = some ⟨own, f.name.toList⟩

instance (p : Prepared) (f : FunctionSpan) (line : Text) (own : Nat) :
    Decidable (Declares p f line own) :=
  decidable_of_iff (f ∈ FunctionSpan.usual p ∧ p.maskedLines[f.startLine - 1]? = some line ∧
    (p.language.functionForms.head?.bind fun form =>
      (form.find? line).bind (·.capture? (.place 1))) = some ⟨own, f.name.toList⟩)
    ⟨fun ⟨h, h', h''⟩ => ⟨h, h', h''⟩, fun h => ⟨h.mem, h.onLine, h.found⟩⟩

/-- The set of the characters that a declared name starts with. -/
def nameStart : CharSet :=
  .union (.span 'A' 'Z') (.union (.span 'a' 'z') (.union (.char '_') (.char '$')))

theorem isNamePart_of_nameStart {c : Char} (h : nameStart.has c = true) :
    Text.isNamePart c = true := by
  simp only [nameStart, CharSet.has, Bool.or_eq_true, Bool.and_eq_true, decide_eq_true_eq,
    beq_iff_eq] at h
  have hletter : ∀ {c : Char}, c.isAlphanum = true → Text.isNamePart c = true := by
    intro c hc
    rw [Text.isNamePart, isWord, hc]
    rfl
  rcases h with ⟨hfirst, hlast⟩ | ⟨hfirst, hlast⟩ | rfl | rfl
  · apply hletter
    delta Char.isAlphanum Char.isAlpha Char.isUpper
    simp only [Bool.or_eq_true, decide_eq_true_eq]
    exact .inl (.inl ⟨hfirst, hlast⟩)
  · apply hletter
    delta Char.isAlphanum Char.isAlpha Char.isLower
    simp only [Bool.or_eq_true, Bool.and_eq_true, decide_eq_true_eq]
    exact .inl (.inr ⟨hfirst, hlast⟩)
  · decide
  · decide

/-- What a declaration ends with: a name, blanks, and a parenthesis. -/
def declared : List Pattern :=
  [.group (.place 1) (.seq (.one nameStart) (.many (.union .word (.char '$')) 0 none true)),
    .many .space 0 none true, .one (.char '(')]

theorem functionForms_javaScript : ∃ lead,
    Language.javaScript.functionForms.head? = some (Pattern.sequence (lead ++ declared)) :=
  ⟨.boundary :: ("function".toList.map fun c => .one (.char c)) ++
    [.many .space 0 none true, .many (.char '*') 0 (some 1) true, .many .space 0 none true], by
    decide +kernel⟩

/-- The group of a form that takes a name. -/
def nameGroup : Pattern :=
  .group (.place 1) (.seq (.one nameStart) (.many (.union .word (.char '$')) 0 none true))

theorem run_nameGroup {c : Cursor} {g : GroupSpans} {k : Cursor → GroupSpans → Option Hit}
    {hit : Hit} (h : nameGroup.run c g k = some hit) :
    ∃ name c', IsName name ∧ c.Leads name c' ∧
      k c' ((.place 1, ⟨c.offset, c'.offset⟩) :: g) = some hit := by
  have hstart : (Pattern.one nameStart).run c g (fun c₁ g₁ =>
      (Pattern.many (.union .word (.char '$')) 0 none true).run c₁ g₁ fun c' g' =>
        k c' ((.place 1, ⟨c.offset, c'.offset⟩) :: g')) = some hit := h
  obtain ⟨d, c₁, hfirst, hd, hmany⟩ := Pattern.exists_of_run_one hstart
  obtain ⟨more, c', hmore, hparts, h⟩ := Pattern.exists_of_run_many hmany
  refine ⟨d :: more, c', ⟨List.cons_ne_nil d more, ?_⟩, hfirst.trans hmore, h⟩
  exact List.forall_mem_cons.mpr ⟨isNamePart_of_nameStart hd, hparts⟩

/-- Such a match is a declaration: its first group takes a name, and blanks and a parenthesis are
behind it. -/
theorem run_declared {c : Cursor} {g : GroupSpans} {k : Cursor → GroupSpans → Option Hit} {hit : Hit}
    (h : (Pattern.sequence declared).run c g k = some hit) :
    ∃ name gap rest c' c'', IsName name ∧ gap.isBlank = true ∧
      c.rest = name ++ (gap ++ '(' :: rest) ∧ c.Leads name c' ∧
      k c'' ((.place 1, ⟨c.offset, c'.offset⟩) :: g) = some hit := by
  have hgroup : nameGroup.run c g (fun c₁ g₁ => (Pattern.many .space 0 none true).run c₁ g₁
      fun c₂ g₂ => (Pattern.one (.char '(')).run c₂ g₂ k) = some hit := h
  obtain ⟨name, c', hname, hlead, hmany⟩ := run_nameGroup hgroup
  obtain ⟨gap, c₁, hgap, hblank, hone⟩ := Pattern.exists_of_run_many hmany
  obtain ⟨e, c'', hopen, he, h⟩ := Pattern.exists_of_run_one hone
  obtain rfl : e = '(' := beq_iff_eq.mp he
  refine ⟨name, gap, c''.rest, c', c'', hname, List.all_eq_true.mpr hblank, ?_, hlead, h⟩
  rw [hlead.1, hgap.1, hopen.1]
  rfl

/-- The name of a declared function stands at its place on the line, in front of a parenthesis. -/
theorem Declares.name {t : Text} {f : FunctionSpan} {line : Text} {own : Nat}
    (h : Declares (prepare .javaScript t) f line own) :
    IsName f.name.toList ∧ writesCall f.name.toList (line.drop own) = true := by
  obtain ⟨form, hform, hfound⟩ := Option.bind_eq_some_iff.mp h.found
  obtain ⟨m, hfind, hcapture⟩ := Option.bind_eq_some_iff.mp hfound
  obtain ⟨lead, hlead⟩ := functionForms_javaScript
  obtain rfl : form = Pattern.sequence (lead ++ declared) :=
    Option.some.inj (hform.symm.trans hlead)
  obtain ⟨i, hm⟩ : ∃ i, (Pattern.sequence (lead ++ declared)).matchHere (.place line i) false =
      some m := ⟨_, Pattern.matchHere_of_find? hfind⟩
  obtain ⟨⟨stop, spans⟩, hrun, rfl⟩ := Option.map_eq_some_iff.mp hm
  rw [Pattern.run_sequence_append] at hrun
  obtain ⟨taken, c, g, hbefore, hdeclared⟩ := Pattern.exists_of_run hrun
  obtain ⟨name, gap, rest, c', c'', hname, hgap, hrest, hafter, hstop⟩ := run_declared hdeclared
  split at hstop
  · cases hstop
  · obtain ⟨-, rfl⟩ := Prod.mk.inj (Option.some.inj hstop)
    have hown : (⟨c.offset, name⟩ : Capture) = ⟨own, f.name.toList⟩ := by
      rw [← hbefore.capture hafter]
      exact Option.some.inj hcapture
    obtain ⟨rfl, rfl⟩ := Capture.mk.inj hown
    have hdrop : line.drop c.offset = c.rest := by
      calc line.drop c.offset
          = (line.drop i).drop taken.length := by rw [List.drop_drop, hbefore.2]; rfl
        _ = (taken ++ c.rest).drop taken.length := congrArg _ hbefore.1
        _ = c.rest := List.drop_left
    rw [hdrop]
    exact ⟨hname, writesCall_iff.mpr ⟨gap, rest, hgap, hrest⟩⟩

/-! ## Counting -/

/-- The masked text of a function. -/
def spanText (p : Prepared) (f : FunctionSpan) : Text :=
  Text.joinLines ((p.maskedLines.take f.endLine).drop (f.startLine - 1))

/-- The calls of a function in its text, but for the place of its declaration. -/
def otherCalls (p : Prepared) (f : FunctionSpan) (own : Nat) : List Nat :=
  (wholeCalls f.name.toList (spanText p f)).filter (· != own)

section
variable {t : Text} {f : FunctionSpan} {line : Text} {own : Nat}

theorem Declares.exists_lines (h : Declares (prepare .javaScript t) f line own) :
    ∃ rest, ((prepare .javaScript t).maskedLines.take f.endLine).drop (f.startLine - 1) =
      line :: rest := by
  have hlies := FunctionSpan.lies_of_mem_all h.mem
  have hfirst := hlies.first
  have hordered := hlies.ordered
  have hline : ((prepare .javaScript t).maskedLines.take f.endLine)[f.startLine - 1]? =
      some line := by
    rw [List.getElem?_take_of_lt (by omega), h.onLine]
  rw [List.drop_eq_getElem?_toList_append, hline]
  exact ⟨_, rfl⟩

/-- All calls at a word boundary are counted but the one that is taken for the declaration. -/
theorem selfCalls_add (h : Declares (prepare .javaScript t) f line own) :
    selfCalls (prepare .javaScript t) f + (isPassedOver f.name.toList line).toNat =
      (callPlaces (atEdge f.name.toList) f.name.toList
        (spanText (prepare .javaScript t) f)).length := by
  obtain ⟨rest, hlines⟩ := h.exists_lines
  rw [selfCalls, spanText, hlines]
  exact count_withoutDeclaration h.name.1 line rest

/-- The declaration is one of the calls in the text unless a part of a name stands before it. -/
theorem decide_mem_wholeCalls (h : Declares (prepare .javaScript t) f line own) :
    decide (own ∈ wholeCalls f.name.toList (spanText (prepare .javaScript t) f)) =
      !(line.take own).getLast?.any Text.isNamePart := by
  obtain ⟨hname, hcall⟩ := h.name
  obtain ⟨rest, hlines⟩ := h.exists_lines
  have hown : own < line.length := by
    have hwidth := callWidth_le hcall
    rw [callWidth, List.length_drop] at hwidth
    omega
  have htext : spanText (prepare .javaScript t) f = line ++ Text.joinLines ([] :: rest) := by
    rw [spanText, hlines, ← Text.joinLines_append_cons, List.append_nil]
  rw [Bool.eq_iff_iff, decide_eq_true_iff, htext, wholeCalls_eq, callPlaces, List.mem_filter,
    List.take_append_of_le_length (by omega), List.drop_append_of_le_length (by omega),
    (writesCall_append hcall _).1, Bool.and_true, List.mem_range, List.length_append]
  exact and_iff_right (by omega)

theorem length_otherCalls_add (p : Prepared) (f : FunctionSpan) (own : Nat) :
    (otherCalls p f own).length + (decide (own ∈ wholeCalls f.name.toList (spanText p f))).toNat =
      (wholeCalls f.name.toList (spanText p f)).length := by
  have hnodup : (wholeCalls f.name.toList (spanText p f)).Nodup := List.nodup_range.filter _
  rw [otherCalls, ← hnodup.erase_eq_filter, List.length_erase]
  by_cases hown : own ∈ wholeCalls f.name.toList (spanText p f)
  · have hpos := List.length_pos_of_mem hown
    rw [if_pos hown, decide_eq_true hown, Bool.toNat_true]
    omega
  · rw [if_neg hown, decide_eq_false hown, Bool.toNat_false, Nat.add_zero]

/-- The functions listed are those with a call that is counted, and those with two. -/
theorem ofSource_eq (p : Prepared) :
    (ofSource p).recursive =
        ((FunctionSpan.usual p).filter fun f => decide (0 < selfCalls p f)).map (·.name) ∧
      (ofSource p).branching =
        ((FunctionSpan.usual p).filter fun f => decide (1 < selfCalls p f)).map (·.name) := by
  refine ⟨?_, ?_⟩
  · simp only [ofSource, List.filter_map, List.map_map]
    rfl
  · simp only [ofSource, List.filter_map, List.map_map]
    rfl

/-- A function declared behind the word is counted to call itself as often as it does, apart from its
declaration, exactly if nothing else is counted and the declaration is not; this count decides whether
the function is listed. -/
theorem selfCalls_eq_iff (h : Declares (prepare .javaScript t) f line own) :
    (selfCalls (prepare .javaScript t) f = (otherCalls (prepare .javaScript t) f own).length ↔
      if f.name.toList.head? = some '$' then
        (callPlaces (fun before => before.any isWord) f.name.toList
            (spanText (prepare .javaScript t) f)).length =
          (otherCalls (prepare .javaScript t) f own).length +
            (isPassedOver f.name.toList line).toNat
      else if (line.take own).getLast?.any Text.isNamePart then
        (callPlaces (· == some '$') f.name.toList (spanText (prepare .javaScript t) f)).length =
          (isPassedOver f.name.toList line).toNat
      else
        callPlaces (· == some '$') f.name.toList (spanText (prepare .javaScript t) f) = [] ∧
          isPassedOver f.name.toList line = true) ∧
      (ofSource (prepare .javaScript t)).recursive =
        ((FunctionSpan.usual (prepare .javaScript t)).filter fun f =>
          decide (0 < selfCalls (prepare .javaScript t) f)).map (·.name) ∧
      (ofSource (prepare .javaScript t)).branching =
        ((FunctionSpan.usual (prepare .javaScript t)).filter fun f =>
          decide (1 < selfCalls (prepare .javaScript t) f)).map (·.name) := by
  refine ⟨?_, ofSource_eq _⟩
  have hcount := selfCalls_add h
  have hothers := length_otherCalls_add (prepare .javaScript t) f own
  split
  · next hdollar =>
    rw [callPlaces_of_dollar hdollar] at hcount
    omega
  · next hword =>
    rw [length_callPlaces_of_word h.name.1 hword] at hcount
    rw [decide_mem_wholeCalls h] at hothers
    split
    · next htouched =>
      rw [htouched, Bool.not_true, Bool.toNat_false] at hothers
      omega
    · next hfree =>
      rw [Bool.eq_false_iff.mpr hfree, Bool.not_false, Bool.toNat_true] at hothers
      rw [← List.length_eq_zero_iff]
      cases hpassed : isPassedOver f.name.toList line with
      | true =>
        rw [hpassed, Bool.toNat_true] at hcount
        rw [and_iff_left rfl]
        omega
      | false =>
        rw [hpassed, Bool.toNat_false] at hcount
        simp only [Bool.false_eq_true, and_false, iff_false]
        omega

end

/-- A function that calls itself twice. -/
def twice : Text := "function fib(n) \x7b\n  return fib(n - 1) + fib (n - 2);\n\x7d".toList

theorem selfCalls_eq_iff_twice :
    Declares (prepare .javaScript twice) ⟨"fib", 1, 3⟩ "function fib(n) \x7b".toList 9 ∧
      selfCalls (prepare .javaScript twice) ⟨"fib", 1, 3⟩ =
        (otherCalls (prepare .javaScript twice) ⟨"fib", 1, 3⟩ 9).length ∧
      (ofSource (prepare .javaScript twice)).branching = ["fib"] := by
  have hdeclares :
      Declares (prepare .javaScript twice) ⟨"fib", 1, 3⟩ "function fib(n) \x7b".toList 9 := by
    decide +kernel
  obtain ⟨hcount, -, hbranching⟩ := selfCalls_eq_iff hdeclares
  refine ⟨hdeclares, hcount.mpr (by decide +kernel), ?_⟩
  rw [hbranching]
  decide +kernel

/-- A function whose name starts with a dollar sign, and that calls itself. -/
def dollarNamed : Text := "function $f(n) \x7b\n  return $f(n - 1);\n\x7d".toList

/-- The call is an identifier of its own and is not counted, for there is no word boundary between a
blank and a dollar sign. -/
theorem selfCalls_dollarNamed :
    Declares (prepare .javaScript dollarNamed) ⟨"$f", 1, 3⟩ "function $f(n) \x7b".toList 9 ∧
      (otherCalls (prepare .javaScript dollarNamed) ⟨"$f", 1, 3⟩ 9).length = 1 ∧
      selfCalls (prepare .javaScript dollarNamed) ⟨"$f", 1, 3⟩ = 0 ∧
      (ofSource (prepare .javaScript dollarNamed)).recursive = [] := by
  decide +kernel

end SourceAudit.Recursion
