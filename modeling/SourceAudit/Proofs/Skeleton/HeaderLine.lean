import SourceAudit.Language.Python
import SourceAudit.Proofs.Complexity.LoopTokens
import SourceAudit.Proofs.Pattern.Search
import SourceAudit.Proofs.Text.TrimmedText
import SourceAudit.Skeleton.Signature

/-!
  The line of a declaration in Python, and the parameter list on it.

  What is proved:
    1. `DefLead.nameOn_line` — the name that a declaration has is the one found on its line.
    2. `DefLead.parameterList_line` — its parameter list is what stands between the
       parenthesis behind the name and the one that closes it.
-/
namespace SourceAudit

/-! ## The form of a declaration -/

namespace DefForm

/-- The word that makes a function asynchronous. -/
def asyncWord : Text := ['a', 's', 'y', 'n', 'c']

/-- The word before the name of a function. -/
def defWord : Text := ['d', 'e', 'f']

/-- What the name of a function starts with. -/
def nameStart : CharSet := .union (.span 'A' 'Z') (.union (.span 'a' 'z') (.char '_'))

/-- Blanks and the parenthesis that opens the parameters. -/
def opening : List Pattern := [.many .space 0 none true, .one (.char '(')]

/-- A name with the parenthesis behind it. -/
def named : List Pattern :=
  .group (.place 1) (.seq (.one nameStart) (.many .word 0 none true)) :: opening

/-- The word, a name behind it, and the parenthesis. -/
def defined : List Pattern :=
  (defWord.map fun c => .one (.char c)) ++ .many .space 1 none true :: named

/-- The word for asynchronous functions with blanks behind it. -/
def asynchronous : List Pattern :=
  (asyncWord.map fun c => .one (.char c)) ++ [.many .space 1 none true]

/-- What stands behind the indentation. -/
def indented : List Pattern :=
  .loop (Pattern.sequence asynchronous) 0 (some 1) true :: defined

/-- The form of a declaration. -/
def whole : List Pattern :=
  .textStart :: .many .space 0 none true :: indented

theorem functionForms_python : Language.python.functionForms = [Pattern.sequence whole] := by
  decide +kernel

/-- Names that the form takes. -/
structure IsTaken (name : Text) : Prop where
  starts : ∃ c rest, name = c :: rest ∧ nameStart.has c = true ∧ ∀ d ∈ rest, Unicode.isWord d = true
  allowed : String.ofList name ∉ FunctionSpan.neverNames

variable {c : Cursor} {g : GroupSpans} {k : Cursor → GroupSpans → Option Hit}
  {gap name space rest : Text}

theorem isBlank_open : Unicode.isBlank '(' = false := by decide

theorem isWord_of_nameStart {d : Char} (h : nameStart.has d = true) : Unicode.isWord d = true := by
  simp only [nameStart, CharSet.has, Bool.or_eq_true, Bool.and_eq_true, decide_eq_true_eq,
    beq_iff_eq] at h
  have hletter : ∀ {d : Char}, d.isAlpha = true → Unicode.isWord d = true := by
    intro d hd
    rw [Unicode.isWord, Char.isAlphanum, hd]
    rfl
  rcases h with ⟨hfirst, hlast⟩ | ⟨hfirst, hlast⟩ | rfl
  · apply hletter
    delta Char.isAlpha Char.isUpper
    simp only [Bool.or_eq_true, decide_eq_true_eq]
    exact .inl ⟨hfirst, hlast⟩
  · apply hletter
    delta Char.isAlpha Char.isLower
    simp only [Bool.or_eq_true, Bool.and_eq_true, decide_eq_true_eq]
    exact .inr ⟨hfirst, hlast⟩
  · decide

theorem nameStart_of_isBlank {d : Char} (h : Unicode.isBlank d = true) :
    nameStart.has d = false := by
  rw [Bool.eq_false_iff]
  intro hstart
  have hword := isWord_of_nameStart hstart
  rw [Unicode.isWord_of_isBlank h] at hword
  cases hword

/-- A set that shares no character with the one at hand takes none. -/
theorem any_head_of_disjoint {s t : CharSet} (hdisjoint : ∀ d, s.has d = true → t.has d = false)
    (h : c.rest.head?.any s.has = true) : c.rest.head?.any t.has = false := by
  cases hrest : c.rest with
  | nil => rfl
  | cons d tail =>
    rw [hrest] at h
    exact hdisjoint d h

theorem space_of_isBlank (h : gap.isBlank = true) : ∀ d ∈ gap, CharSet.space.has d = true :=
  fun d hd => List.all_eq_true.mp h d hd

theorem run_opening (hspace : space.isBlank = true) (hrest : c.rest = space ++ '(' :: rest) :
    (Pattern.sequence opening).run c g k = k (c.skip (space.length + 1)) g := by
  have hnearer : ∀ c' : Cursor, c'.rest.head?.any CharSet.space.has = true →
      (Pattern.one (.char '(')).run c' g k = none := fun c' hblank => by
    refine Pattern.run_one_of_head (any_head_of_disjoint (fun d hd => ?_) hblank)
    rw [CharSet.has, beq_eq_false_iff_ne]
    rintro rfl
    exact Bool.false_ne_true (isBlank_open.symm.trans hd)
  have hbehind : (c.skip space.length).rest = '(' :: rest := by
    rw [Cursor.skip, hrest, List.drop_left]
  show (Pattern.many .space 0 none true).run c g
    (fun c' g' => (Pattern.one (.char '(')).run c' g' k) = _
  rw [Pattern.run_many_stretch hrest (space_of_isBlank hspace) isBlank_open hnearer,
    ← Cursor.skip_skip, Cursor.skip_one hbehind, Pattern.run_one_cons hbehind]
  rfl

/-- Inside of a name no parenthesis opens. -/
theorem run_opening_of_word (h : c.rest.head?.any CharSet.word.has = true) :
    (Pattern.sequence opening).run c g k = none := by
  have hblank : c.rest.head?.any CharSet.space.has = false :=
    any_head_of_disjoint (s := .word) (fun d hd => by
      rw [Bool.eq_false_iff]
      exact fun hspace => Bool.false_ne_true ((Unicode.isWord_of_isBlank hspace).symm.trans hd)) h
  show (Pattern.many .space 0 none true).run c g
    (fun c' g' => (Pattern.one (.char '(')).run c' g' k) = _
  rw [Pattern.run_many_of_head hblank]
  refine Pattern.run_one_of_head (any_head_of_disjoint (fun d hd => ?_) h)
  rw [CharSet.has, beq_eq_false_iff_ne]
  rintro rfl
  exact absurd hd (by decide)

theorem run_named (hname : IsTaken name) (hspace : space.isBlank = true)
    (hrest : c.rest = name ++ (space ++ '(' :: rest)) :
    (Pattern.sequence named).run c g k =
      k (c.skip (name.length + (space.length + 1)))
        ((.place 1, ⟨c.offset, c.offset + name.length⟩) :: g) := by
  obtain ⟨d, tail, rfl, hstart, hword⟩ := hname.starts
  rw [List.cons_append] at hrest
  have hone : (c.skip 1).rest = tail ++ (space ++ '(' :: rest) := by
    rw [Cursor.skip_one hrest]
  have hall : ((c.skip 1).skip tail.length).rest = space ++ '(' :: rest := by
    rw [Cursor.skip, hone, List.drop_left]
  have hstop : (space ++ '(' :: rest).head?.any CharSet.word.has = false := by
    cases space with
    | nil => exact (by decide : Unicode.isWord '(' = false)
    | cons b space =>
      exact Unicode.isWord_of_isBlank (Bool.and_eq_true_iff.mp hspace).1
  rw [named, Pattern.run_sequence_cons]
  show (Pattern.one nameStart).run c g (fun c' g' => (Pattern.many .word 0 none true).run c' g'
    fun c'' g'' =>
      (Pattern.sequence opening).run c'' ((.place 1, ⟨c.offset, c''.offset⟩) :: g'') k) = _
  rw [Pattern.run_one_cons hrest, if_pos hstart, ← Cursor.skip_one hrest,
    Pattern.run_many_stretch (s := .word) hone hword hstop fun c' hc' => run_opening_of_word hc',
    run_opening hspace hall, Cursor.skip_skip, Cursor.skip_skip, List.length_cons]
  have hoffset : ((c.skip 1).skip tail.length).offset = c.offset + (tail.length + 1) := by
    rw [Cursor.skip_skip, Nat.add_comm 1]
    rfl
  rw [hoffset, ← Nat.add_assoc 1, Nat.add_comm 1]

/-- Inside of blanks no name starts. -/
theorem run_named_of_blank (h : c.rest.head?.any CharSet.space.has = true) :
    (Pattern.sequence named).run c g k = none := by
  have hstart := any_head_of_disjoint (s := .space) (fun d hd => nameStart_of_isBlank hd) h
  rw [named, Pattern.run_sequence_cons, Pattern.run, Pattern.run]
  exact Pattern.run_one_of_head hstart

/-- Blanks, of which there has to be one, in front of something that no blank can stand for. -/
theorem run_gap (hgap : gap ≠ [] ∧ gap.isBlank = true) (hrest : c.rest = gap ++ rest)
    (hstop : rest.head?.any Unicode.isBlank = false)
    (hnearer : ∀ c : Cursor, c.rest.head?.any CharSet.space.has = true → k c g = none) :
    (Pattern.many .space 1 none true).run c g k = k (c.skip gap.length) g := by
  obtain ⟨b, more, rfl⟩ := List.exists_cons_of_ne_nil hgap.1
  obtain ⟨hb, hmore⟩ := Bool.and_eq_true_iff.mp hgap.2
  rw [List.cons_append] at hrest
  have hbehind : (c.skip 1).rest = more ++ rest := by rw [Cursor.skip_one hrest]
  rw [Pattern.run_many_succ (s := .space) hrest hb, Pattern.run_many_stretch (s := .space) hbehind
    (space_of_isBlank hmore) hstop hnearer, Cursor.skip_skip, List.length_cons, Nat.add_comm 1]

/-- Characters that stand for themselves, with something behind them. -/
theorem run_characters (t : Text) (ps : List Pattern) :
    (Pattern.sequence ((t.map fun c => .one (.char c)) ++ ps)).run c g k =
      if t.isPrefixOf c.rest then (Pattern.sequence ps).run (c.skip t.length) g k else none :=
  (Pattern.run_sequence_append _ ps).trans (Pattern.run_literal t)

theorem run_characters_of_head (t : Text) {a : Char} {ps : List Pattern} (ht : t.head? = some a)
    (h : c.rest.head? ≠ some a) :
    (Pattern.sequence ((t.map fun c => .one (.char c)) ++ ps)).run c g k = none := by
  rw [run_characters, if_neg]
  intro hprefix
  obtain ⟨tail, htail⟩ := List.isPrefixOf_iff_prefix.mp hprefix
  rw [← htail, List.head?_append, ht] at h
  exact h rfl

theorem run_defined (hgap : gap ≠ [] ∧ gap.isBlank = true) (hname : IsTaken name)
    (hspace : space.isBlank = true)
    (hrest : c.rest = defWord ++ (gap ++ (name ++ (space ++ '(' :: rest)))) :
    (Pattern.sequence defined).run c g k =
      k (c.skip (3 + gap.length + (name.length + (space.length + 1))))
        ((.place 1, ⟨c.offset + (3 + gap.length), c.offset + (3 + gap.length) + name.length⟩)
          :: g) := by
  have hdef : (c.skip 3).rest = gap ++ (name ++ (space ++ '(' :: rest)) := by
    rw [Cursor.skip, hrest]
    rfl
  have hnamed : (c.skip (3 + gap.length)).rest = name ++ (space ++ '(' :: rest) := by
    rw [← Cursor.skip_skip, Cursor.skip, hdef, List.drop_left]
  have hstop : (name ++ (space ++ '(' :: rest)).head?.any Unicode.isBlank = false := by
    obtain ⟨d, tail, rfl, hstart, -⟩ := hname.starts
    rw [List.cons_append, List.head?_cons, Option.any_some, Bool.eq_false_iff]
    intro hblank
    exact Bool.false_ne_true ((nameStart_of_isBlank hblank).symm.trans hstart)
  have hprefix : defWord.isPrefixOf c.rest = true := by
    rw [hrest]
    exact List.isPrefixOf_iff_prefix.mpr (List.prefix_append _ _)
  rw [defined, run_characters defWord, if_pos hprefix]
  show (Pattern.sequence (.many .space 1 none true :: named)).run (c.skip 3) g k = _
  rw [Pattern.run_sequence_cons, run_gap hgap hdef hstop fun c' hc' => run_named_of_blank hc',
    Cursor.skip_skip, run_named hname hspace hnamed, Cursor.skip_skip]
  rfl

/-- The word for asynchronous functions, if it is there, and what is behind it. -/
def asyncText : Option Text → Text
  | none => []
  | some gap => asyncWord ++ gap

/-- The word for asynchronous functions may be there or not. -/
theorem run_async {async : Option Text} (hasync : ∀ t ∈ async, t ≠ [] ∧ t.isBlank = true)
    (hrest : c.rest = asyncText async ++ (defWord ++ rest))
    (hnearer : ∀ c : Cursor, c.rest.head?.any CharSet.space.has = true → k c g = none)
    (hfollows : (k (c.skip (asyncText async).length) g).isSome = true) :
    (Pattern.loop (Pattern.sequence asynchronous) 0 (some 1) true).run c g k =
      k (c.skip (asyncText async).length) g := by
  rw [Pattern.run_option]
  cases async with
  | none =>
    have hhead : c.rest.head? ≠ some 'a' := by
      rw [hrest]
      exact (by decide : some 'd' ≠ some 'a')
    rw [asynchronous, run_characters_of_head asyncWord rfl hhead, Option.none_or]
    rfl
  | some gap =>
    have hprefix : asyncWord.isPrefixOf c.rest = true := by
      rw [hrest, asyncText, List.append_assoc]
      exact List.isPrefixOf_iff_prefix.mpr (List.prefix_append _ _)
    have hbehind : (c.skip 5).rest = gap ++ (defWord ++ rest) := by
      rw [Cursor.skip, hrest, asyncText, List.append_assoc]
      rfl
    rw [asynchronous, run_characters asyncWord, if_pos hprefix]
    have hstep : ∀ c' : Cursor, c'.rest.head?.any CharSet.space.has = true →
        (if c.offset < c'.offset then k c' g else none) = none := fun c' hc' => by
      rw [hnearer c' hc', ite_self]
    have hgap : (Pattern.sequence [.many .space 1 none true]).run (c.skip 5) g
        (fun c' g' => if c.offset < c'.offset then k c' g' else none) =
          k (c.skip (5 + gap.length)) g := by
      refine (run_gap (hasync gap rfl) hbehind rfl hstep).trans ?_
      rw [Cursor.skip_skip, if_pos]
      show c.offset < c.offset + (5 + gap.length)
      omega
    have hlength : (asyncText (some gap)).length = 5 + gap.length := by
      rw [asyncText, List.length_append]
      rfl
    rw [hlength] at hfollows ⊢
    obtain ⟨hit, hhit⟩ := Option.isSome_iff_exists.mp hfollows
    refine (congrArg (·.or (k c g)) hgap).trans ?_
    rw [hhit, Option.some_or]

/-- Inside of the indentation no declaration starts. -/
theorem run_indented_of_blank (h : c.rest.head?.any CharSet.space.has = true) :
    (Pattern.sequence indented).run c g k = none := by
  have hne : ∀ a, Unicode.isBlank a = false → c.rest.head? ≠ some a := by
    intro a ha heq
    rw [heq] at h
    exact Bool.false_ne_true (ha.symm.trans h)
  rw [indented, Pattern.run_sequence_cons, Pattern.run_option, asynchronous, defined,
    run_characters_of_head asyncWord rfl (hne 'a' (by decide)),
    run_characters_of_head defWord rfl (hne 'd' (by decide))]
  rfl

end DefForm

/-! ## Where a name stands -/

namespace FunctionSignature

variable {c : Cursor} {g : GroupSpans} {k : Cursor → GroupSpans → Option Hit}
  {name line u v : Text}

/-- The form of a name takes the name where no character of names is next to it. -/
theorem run_nameForm : (nameForm name).run c g k =
    if !c.before.any nameChars.has && (name.isPrefixOf c.rest &&
        !(c.skip name.length).rest.head?.any nameChars.has) then
      k (c.skip name.length) g
    else none := by
  have hahead : ∀ c' g', (Pattern.ahead false (.one nameChars)).run c' g' k =
      if c'.rest.head?.any nameChars.has then none else k c' g' := by
    intro c' g'
    rw [Pattern.run, Pattern.run]
    cases c'.rest with
    | nil => rfl
    | cons d rest => cases h : nameChars.has d <;> simp [h]
  show (if c.before.any nameChars.has == false then (Pattern.literal name).run c g
    (fun c' g' => (Pattern.ahead false (.one nameChars)).run c' g' k) else none) = _
  rw [Pattern.run_literal, hahead]
  cases c.before.any nameChars.has <;> cases name.isPrefixOf c.rest <;>
    cases (c.skip name.length).rest.head?.any nameChars.has <;> rfl

theorem stop_of_matchHere_nameForm {m : Match} {proper : Bool}
    (h : (nameForm name).matchHere c proper = some m) : m.stop = m.start + name.length := by
  obtain ⟨⟨stop, spans⟩, hrun, rfl⟩ := Option.map_eq_some_iff.mp h
  rw [run_nameForm] at hrun
  split at hrun
  · split at hrun
    · cases hrun
    · obtain ⟨rfl, -⟩ := Prod.mk.inj (Option.some.inj hrun)
      rfl
  · cases hrun

theorem nameChars_of_isBlank {d : Char} (h : Unicode.isBlank d = true) :
    nameChars.has d = false := by
  rw [nameChars, CharSet.has, Bool.or_eq_false_iff]
  refine ⟨Unicode.isWord_of_isBlank h, ?_⟩
  rw [CharSet.has, beq_eq_false_iff_ne]
  rintro rfl
  exact absurd h (by decide)

/-- The first place where a name stands ends no later than any where no part of a name touches
it. -/
theorem nameSpan_le (hbefore : u.getLast?.any nameChars.has = false)
    (hafter : v.head?.any nameChars.has = false) :
    (nameSpan (u ++ (name ++ v)) name).2 ≤ u.length + name.length := by
  have hlength : u.length ≤ (u ++ (name ++ v)).length := by
    rw [List.length_append]
    omega
  have hhere : ((nameForm name).matchHere (.place (u ++ (name ++ v)) u.length) false).isSome =
      true := by
    rw [Cursor.place_append, Pattern.matchHere, run_nameForm, Cursor.skip]
    simp only [List.drop_left, hbefore, hafter,
      List.isPrefixOf_iff_prefix.mpr (List.prefix_append name _)]
    rfl
  obtain ⟨m, hfind, hstart⟩ := Pattern.start_find?_le hlength hhere
  rw [nameSpan, hfind]
  dsimp only
  rw [stop_of_matchHere_nameForm (Pattern.matchHere_of_find? hfind)]
  omega

/-- What stands in the first parentheses of a text. -/
def firstParens (t : Text) : Text :=
  match t.dropWhile (· != '(') with
  | [] => []
  | _ :: rest => beforeClose 0 rest

theorem firstParens_append (h : '(' ∉ u) (v : Text) : firstParens (u ++ v) = firstParens v := by
  have hall : ∀ d ∈ u, (d != '(') = true := by
    intro d hd
    rw [bne_iff_ne]
    rintro rfl
    exact h hd
  rw [firstParens, List.dropWhile_append_of_pos hall]
  rfl

theorem firstParens_cons {inner tail : Text}
    (hinner : ∀ depth rest, beforeClose depth (inner ++ rest) = inner ++ beforeClose depth rest) :
    firstParens ('(' :: (inner ++ ')' :: tail)) = inner := by
  have hopens : ('(' :: (inner ++ ')' :: tail)).dropWhile (· != '(') =
      '(' :: (inner ++ ')' :: tail) := List.dropWhile_cons_of_neg (by decide)
  rw [firstParens, hopens]
  dsimp only
  rw [hinner]
  exact List.append_nil inner

/-- The parameter list is what stands in the first parentheses behind the first place of the name,
and behind all that has none. -/
theorem parameterList_eq (hline : line = u ++ v) (hspan : (nameSpan line name).2 ≤ u.length)
    (hopen : '(' ∉ u.drop (nameSpan line name).2) : parameterList line name = firstParens v := by
  show firstParens (line.drop (nameSpan line name).2) = firstParens v
  generalize (nameSpan line name).2 = stop at hspan hopen
  rw [hline, List.drop_append_of_le_length hspan, firstParens_append hopen]

end FunctionSignature

/-! ## The line -/

/-- What stands on the line of a declaration up to the parenthesis that opens its parameters. -/
structure DefLead where
  indent : Text
  async : Option Text
  gap : Text
  name : Text
  space : Text
  indentBlank : indent.isBlank = true
  asyncBlank : ∀ t ∈ async, t ≠ [] ∧ t.isBlank = true
  gapBlank : gap ≠ [] ∧ gap.isBlank = true
  nameTaken : DefForm.IsTaken name
  spaceBlank : space.isBlank = true

namespace DefLead
open DefForm

/-- What stands before the name. -/
def before (d : DefLead) : Text := d.indent ++ (asyncText d.async ++ (defWord ++ d.gap))

/-- The line, with what stands behind the parenthesis. -/
def line (d : DefLead) (after : Text) : Text := d.before ++ (d.name ++ (d.space ++ '(' :: after))

/-- The form of a declaration takes the line up to the parenthesis, and the name is its group. -/
theorem run_line (d : DefLead) (after : Text) {g : GroupSpans}
    {k : Cursor → GroupSpans → Option Hit} (hk : ∀ c g, (k c g).isSome = true) :
    (Pattern.sequence whole).run (.start (d.line after)) g k =
      k ((Cursor.start (d.line after)).skip
          (d.before.length + (d.name.length + (d.space.length + 1))))
        ((.place 1, ⟨d.before.length, d.before.length + d.name.length⟩) :: g) := by
  obtain ⟨rest, hrest⟩ : ∃ rest, rest = d.gap ++ (d.name ++ (d.space ++ '(' :: after)) := ⟨_, rfl⟩
  have hline : d.line after = d.indent ++ (asyncText d.async ++ (defWord ++ rest)) := by
    simp only [line, before, List.append_assoc, hrest]
  obtain ⟨c, hc⟩ : ∃ c, c = (Cursor.start (d.line after)).skip d.indent.length := ⟨_, rfl⟩
  have hbehind : c.rest = asyncText d.async ++ (defWord ++ rest) := by
    rw [hc, Cursor.skip, Cursor.start, hline, List.drop_left]
  have hdef : (c.skip (asyncText d.async).length).rest = defWord ++ rest := by
    rw [Cursor.skip, hbehind, List.drop_left]
  have hstop : (asyncText d.async ++ (defWord ++ rest)).head?.any CharSet.space.has = false := by
    cases d.async <;> rfl
  have hfollows := run_defined (g := g) (k := k) d.gapBlank d.nameTaken d.spaceBlank (hrest ▸ hdef)
  have hnearer : ∀ c' : Cursor, c'.rest.head?.any CharSet.space.has = true →
      (Pattern.sequence defined).run c' g k = none := fun c' hc' => by
    refine run_characters_of_head defWord rfl fun heq => ?_
    rw [heq] at hc'
    exact absurd hc' (by decide)
  have hbefore : d.before.length =
      d.indent.length + ((asyncText d.async).length + (3 + d.gap.length)) := by
    simp only [before, List.length_append]
    rfl
  calc (Pattern.sequence whole).run (.start (d.line after)) g k
      = (Pattern.many .space 0 none true).run (.start (d.line after)) g fun c' g' =>
          (Pattern.sequence indented).run c' g' k := rfl
    _ = (Pattern.sequence indented).run c g k := by
        rw [hc]
        exact Pattern.run_many_stretch (s := .space) hline (space_of_isBlank d.indentBlank) hstop
          fun c' hc' => run_indented_of_blank hc'
    _ = (Pattern.sequence defined).run (c.skip (asyncText d.async).length) g k := by
        rw [indented, Pattern.run_sequence_cons]
        exact run_async d.asyncBlank hbehind hnearer (by rw [hfollows]; exact hk _ _)
    _ = _ := by
        have hoffset : (((Cursor.start (d.line after)).skip d.indent.length).skip
            (asyncText d.async).length).offset + (3 + d.gap.length) = d.before.length := by
          simp only [Cursor.skip, Cursor.start, hbefore]
          omega
        have htaken : d.indent.length + ((asyncText d.async).length + (3 + d.gap.length +
            (d.name.length + (d.space.length + 1)))) =
              d.before.length + (d.name.length + (d.space.length + 1)) := by omega
        rw [hfollows, hc, hoffset, Cursor.skip_skip, Cursor.skip_skip, htaken]

/-- The name of a declaration is found on its line. -/
theorem nameOn_line (d : DefLead) (after : Text) :
    FunctionSpan.nameOn .python (d.line after) = some d.name := by
  obtain ⟨m, hm, hname⟩ : ∃ m, (Pattern.sequence whole).matchStart? (d.line after) = some m ∧
      m.part 1 = d.name := by
    refine ⟨_, congrArg (Option.map _) (d.run_line after fun _ _ => rfl), ?_⟩
    show ((d.line after).drop (d.before.length - 0)).take
      (d.before.length + d.name.length - d.before.length) = d.name
    rw [Nat.sub_zero, Nat.add_sub_cancel_left, line, List.drop_left, List.take_left]
  rw [FunctionSpan.nameOn, functionForms_python, List.findSome?_cons,
    Pattern.find?_of_matchStart? hm]
  dsimp only
  rw [hname, if_neg d.nameTaken.allowed]

/-! ## The parameter list -/

open FunctionSignature (nameChars nameSpan parameterList beforeClose)

/-- No parenthesis stands before the one that opens the parameters. -/
theorem not_open_of_mem (d : DefLead) {e : Char} (he : e ∈ d.before ++ (d.name ++ d.space)) :
    e ≠ '(' := by
  have hblank : ∀ {t : Text}, t.isBlank = true → '(' ∉ t := fun ht =>
    Text.not_mem_of_isBlank ht isBlank_open
  have hasync : '(' ∉ asyncText d.async := by
    cases hd : d.async with
    | none => exact List.not_mem_nil
    | some gap =>
      rw [asyncText, List.mem_append, not_or]
      exact ⟨by decide, hblank (d.asyncBlank gap hd).2⟩
  have hname : '(' ∉ d.name := by
    obtain ⟨c, rest, heq, hstart, hrest⟩ := d.nameTaken.starts
    have hword : Unicode.isWord '(' = false := by decide
    rw [heq, List.mem_cons, not_or]
    refine ⟨?_, fun hmem => Bool.false_ne_true (hword.symm.trans (hrest _ hmem))⟩
    rintro rfl
    exact Bool.false_ne_true (hword.symm.trans (isWord_of_nameStart hstart))
  have hdef : '(' ∉ defWord := by decide
  rintro rfl
  simp only [before, List.mem_append, hasync, hname, hdef, hblank d.indentBlank,
    hblank d.gapBlank.2, hblank d.spaceBlank, or_self] at he

/-- The first place where the name stands ends no later than the name that is declared. -/
theorem nameSpan_line (d : DefLead) (after : Text) :
    (nameSpan (d.line after) d.name).2 ≤ d.before.length + d.name.length := by
  have hbefore : d.before.getLast?.any nameChars.has = false := by
    obtain ⟨b, hb⟩ := Option.isSome_iff_exists.mp (List.getLast?_isSome.mpr d.gapBlank.1)
    have hblank := List.all_eq_true.mp d.gapBlank.2 b (List.mem_of_getLast? hb)
    simp only [before, List.getLast?_append, hb, Option.some_or]
    exact FunctionSignature.nameChars_of_isBlank hblank
  have hafter : (d.space ++ '(' :: after).head?.any nameChars.has = false := by
    cases hspace : d.space with
    | nil => exact (by decide : nameChars.has '(' = false)
    | cons b space =>
      have hblank := d.spaceBlank
      rw [hspace] at hblank
      exact FunctionSignature.nameChars_of_isBlank (Bool.and_eq_true_iff.mp hblank).1
  exact FunctionSignature.nameSpan_le hbefore hafter

/-- The parameter list is what stands between the parenthesis behind the name and the one that
closes it. -/
theorem parameterList_line (d : DefLead) {inner tail : Text}
    (hinner : ∀ depth rest, beforeClose depth (inner ++ rest) = inner ++ beforeClose depth rest) :
    parameterList (d.line (inner ++ ')' :: tail)) d.name = inner := by
  have hline : d.line (inner ++ ')' :: tail) =
      (d.before ++ (d.name ++ d.space)) ++ '(' :: (inner ++ ')' :: tail) := by
    rw [line, List.append_assoc, List.append_assoc]
  have hspan := d.nameSpan_line (inner ++ ')' :: tail)
  have hopen : '(' ∉ (d.before ++ (d.name ++ d.space)).drop
      (nameSpan (d.line (inner ++ ')' :: tail)) d.name).2 :=
    fun he => d.not_open_of_mem (List.mem_of_mem_drop he) rfl
  rw [FunctionSignature.parameterList_eq hline ?_ hopen, FunctionSignature.firstParens_cons hinner]
  rw [List.length_append, List.length_append]
  omega

end DefLead
end SourceAudit
