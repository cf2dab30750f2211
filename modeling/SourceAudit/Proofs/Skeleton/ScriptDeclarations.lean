import SourceAudit.Proofs.Skeleton.ScriptForms

/-!
  Declarations of functions in JavaScript, and where they are found.

  A declaration (`ScriptDeclaration`) is a function with a word and a name, or a variable that is
  bound to one, to a function without a name, or to one with an arrow. What is proved:
    1. `NamedFunction.find?_wordForm`, `FunctionBinding.find?_bindingForm` — a declaration is found
       by its form, with its name if nothing is found before it.
    2. `FunctionBinding.quiet_before`, `BoundFunction.quiet` — where a declaration has no function
       with a word and a name, none is found inside of it.
    3. `ScriptDeclaration.nameOn_line` — so the function on the line of the first declaration is the
       one that is declared, or it has a word and a name and stands behind one that has not.
-/
namespace SourceAudit

/-! ## Declarations -/

open Recursion (IsName nameStart nameGroup declared)
open FunctionSignature (nameChars)

/-- A name that the forms take. -/
structure ScriptName where
  first : Char
  rest : Text
  starts : nameStart.has first = true
  goesOn : ∀ d ∈ rest, nameChars.has d = true

/-- The characters of the name. -/
def ScriptName.text (n : ScriptName) : Text := n.first :: n.rest

/-- A parameter that is a name. -/
structure PlainParameter where
  left : Text
  name : Text
  right : Text
  isName : IsName name
  blank : left.isBlank = true ∧ right.isBlank = true

/-- The characters of the parameter. -/
def PlainParameter.text (p : PlainParameter) : Text := p.left ++ (p.name ++ p.right)

/-- A list of parameters that are names. -/
structure PlainList where
  pad : Text
  params : List PlainParameter
  padBlank : pad.isBlank = true

/-- The characters of the list. -/
def PlainList.text (l : PlainList) : Text := l.pad ++ Text.joinWith [','] (l.params.map (·.text))

/-- What stands between the word for a function and what is behind it. -/
structure ScriptGap where
  left : Text
  star : Bool
  right : Text
  blank : left.isBlank = true ∧ right.isBlank = true

/-- The characters of the gap. -/
def ScriptGap.text (s : ScriptGap) : Text := s.left ++ ((if s.star then ['*'] else []) ++ s.right)

/-- The list of a function with its parentheses, if there are any, and what stands behind it. -/
def listText : Option (PlainList × Text) → Text
  | none => []
  | some (params, behind) => '(' :: (params.text ++ ')' :: behind)

/-- A function with a word and a name. -/
structure NamedFunction where
  gap : ScriptGap
  name : ScriptName
  space : Text
  params : PlainList
  apart : gap.text ≠ []
  spaceBlank : space.isBlank = true

/-- What stands before the list. -/
def NamedFunction.head (f : NamedFunction) : Text :=
  ScriptForm.functionWord ++ (f.gap.text ++ (f.name.text ++ f.space))

/-- What a variable is bound to: a function with a word and a name, one with the word alone, or one
with an arrow, for a list of parameters or for a single one. -/
inductive BoundFunction where
  | named (f : NamedFunction)
  | anonymous (gap : ScriptGap) (params : PlainList)
  | listed (params : PlainList) (space : Text) (blank : space.isBlank = true)
  | single (param : ScriptName) (space : Text) (blank : space.isBlank = true)

namespace BoundFunction

/-- What stands before the list; all there is if it has none. -/
def head : BoundFunction → Text
  | named f => f.head
  | anonymous gap _ => ScriptForm.functionWord ++ gap.text
  | listed .. => []
  | single param space _ => param.text ++ (space ++ ['=', '>'])

/-- The list of the parameters, and what belongs to the declaration behind it. -/
def list? : BoundFunction → Option (PlainList × Text)
  | named f => some (f.params, [])
  | anonymous _ params => some (params, [])
  | listed params space _ => some (params, space ++ ['=', '>'])
  | single .. => none

/-- The function itself, if it has a word and a name. -/
def inner? : BoundFunction → Option NamedFunction
  | named f => some f
  | _ => none

theorem eq_named_of_inner? {f : BoundFunction} {g : NamedFunction} (h : f.inner? = some g) :
    f = named g := by
  cases f with
  | named f => exact congrArg named (Option.some.inj h)
  | _ => cases h

end BoundFunction

/-- A variable that is bound to a function. -/
structure FunctionBinding where
  word : Text
  gap : Text
  name : ScriptName
  left : Text
  right : Text
  async : Option Text
  value : BoundFunction
  isWord : word ∈ ScriptForm.bindingWords
  gapBlank : gap ≠ [] ∧ gap.isBlank = true
  leftBlank : left.isBlank = true
  rightBlank : right.isBlank = true
  asyncBlank : ∀ t ∈ async, t ≠ [] ∧ t.isBlank = true

namespace FunctionBinding

/-- The variable, up to the sign of equality. -/
def assigned (b : FunctionBinding) : Text :=
  b.word ++ (b.gap ++ (b.name.text ++ (b.left ++ ['='])))

/-- What stands before the function. -/
def before (b : FunctionBinding) : Text :=
  b.assigned ++ (b.right ++ DefForm.asyncText b.async)

end FunctionBinding

/-- The declaration of a function. -/
inductive ScriptDeclaration where
  | worded (f : NamedFunction)
  | binding (b : FunctionBinding)

namespace ScriptDeclaration

/-- What stands before the list. -/
def head : ScriptDeclaration → Text
  | worded f => f.head
  | binding b => b.before ++ b.value.head

/-- The list of the parameters, and what belongs to the declaration behind it. -/
def list? : ScriptDeclaration → Option (PlainList × Text)
  | worded f => some (f.params, [])
  | binding b => b.value.list?

/-- The characters of the declaration. -/
def text (d : ScriptDeclaration) : Text := d.head ++ listText d.list?

/-- The function itself, if it has a word and a name. -/
def inner? : ScriptDeclaration → Option NamedFunction
  | worded f => some f
  | binding b => b.value.inner?

/-- The name that the function is known by: its own, or that of the variable. -/
def known : ScriptDeclaration → Text
  | worded f => f.name.text
  | binding b =>
    match b.value.inner? with
    | none => b.name.text
    | some f =>
      if String.ofList f.name.text ∈ FunctionSpan.neverNames then b.name.text else f.name.text

end ScriptDeclaration

/-! ### Characters of declarations -/

section
variable {u v : Text} {c : Char}

theorem ScriptName.isName (n : ScriptName) : IsName n.text where
  nonempty := List.cons_ne_nil _ _
  parts := List.forall_mem_cons.mpr ⟨Recursion.isNamePart_of_nameStart n.starts, n.goesOn⟩

/-- Behind a name stand blanks, or what is behind them. -/
theorem head?_blank_append (hu : u.isBlank = true) (hv : v.head?.any Text.isNamePart = false) :
    (u ++ v).head?.any Text.isNamePart = false := by
  cases u with
  | nil => exact hv
  | cons c u => exact Recursion.isNamePart_of_isBlank (Bool.and_eq_true_iff.mp hu).1

/-- Blanks, a star, and parts of names are different characters. -/
theorem inSeparation_of_isNamePart (h : Text.isNamePart c = true) :
    ScriptForm.inSeparation c = false := by
  rw [ScriptForm.inSeparation, Bool.or_eq_false_iff, beq_eq_false_iff_ne, Bool.eq_false_iff]
  refine ⟨fun hblank => ?_, ?_⟩
  · rw [Recursion.isNamePart_of_isBlank hblank] at h
    cases h
  · rintro rfl
    exact absurd h (by decide)

theorem head?_name_append (hu : IsName u) :
    (u ++ v).head?.any ScriptForm.inSeparation = false := by
  obtain ⟨c, u, rfl⟩ := List.exists_cons_of_ne_nil hu.nonempty
  exact inSeparation_of_isNamePart (hu.parts c List.mem_cons_self)

theorem ScriptGap.inSeparation_of_mem (s : ScriptGap) (hc : c ∈ s.text) :
    ScriptForm.inSeparation c = true := by
  have hblank : ∀ {t : Text}, t.isBlank = true → c ∈ t → ScriptForm.inSeparation c = true := by
    intro t ht hc
    rw [ScriptForm.inSeparation, List.all_eq_true.mp ht c hc, Bool.true_or]
  rcases List.mem_append.mp hc with hc | hc
  · exact hblank s.blank.1 hc
  · rcases List.mem_append.mp hc with hc | hc
    · split at hc
      · obtain rfl := List.mem_singleton.mp hc
        decide
      · cases hc
    · exact hblank s.blank.2 hc

end

/-! ### Where declarations are found -/

open Pattern (Fits)

theorem ScriptName.fits (n : ScriptName) (v : Text) : nameGroup.Fits n.text v :=
  Fits.group (Fits.seq (u := [n.first]) (Fits.one n.starts)
    (Fits.unbounded n.goesOn (Nat.zero_le _)))

theorem fits_blank {u v : Text} (hu : u.isBlank = true) :
    (Pattern.many .space 0 none true).Fits u v :=
  Fits.unbounded (DefForm.space_of_isBlank hu) (Nat.zero_le _)

namespace NamedFunction
variable (f : NamedFunction) {t v : Text} {m : Match}

theorem fits (v : Text) : (Pattern.sequence ScriptForm.worded).Fits (f.head ++ ['(']) v := by
  have hhead : f.head ++ ['('] = ScriptForm.functionWord ++ (f.gap.left ++
      ((if f.gap.star then ['*'] else []) ++ (f.gap.right ++ (f.name.text ++
        (f.space ++ ['(']))))) := by
    simp only [head, ScriptGap.text, List.append_assoc]
  have hstar : (Pattern.many (.char '*') 0 (some 1) true).Fits (if f.gap.star then ['*'] else [])
      (f.gap.right ++ (f.name.text ++ (f.space ++ ['('])) ++ v) := by
    refine Fits.many (List.all_eq_true.mp ?_) (Nat.zero_le _) fun n hn => ?_
    · cases f.gap.star <;> rfl
    · obtain rfl := Option.some.inj hn
      cases f.gap.star <;> decide
  rw [hhead]
  refine Fits.characters ?_
  show (Pattern.sequence [.many .space 0 none true, .many (.char '*') 0 (some 1) true,
    .many .space 0 none true, nameGroup, .many .space 0 none true, .one (.char '(')]).Fits _ v
  exact Fits.cons (fits_blank f.gap.blank.1) (Fits.cons hstar (Fits.cons
    (fits_blank f.gap.blank.2) (Fits.cons (f.name.fits _) (Fits.cons (fits_blank f.spaceBlank)
      (Fits.one rfl)))))

/-- Where the function stands, the form matches with no other name. -/
theorem part_of_matchHere {c : Cursor} (hhere : ScriptForm.wordForm.matchHere c false = some m)
    (hrest : c.rest = f.head ++ '(' :: v) : m.part 1 = f.name.text := by
  obtain ⟨between, name, gap, rest, hmatched, hbetween, hname, hgap, hpart⟩ :=
    ScriptForm.exists_of_matchHere_wordForm hhere
  have hopen : ∀ {w : Text}, ('(' :: w).head?.any Text.isNamePart = false := by
    intro w
    exact (by decide : Text.isNamePart '(' = false)
  -- the text can be cut into such parts in one way only
  rw [hrest, head, List.append_assoc, List.append_assoc, List.append_assoc] at hmatched
  have hcut : f.gap.text ++ (f.name.text ++ (f.space ++ '(' :: v)) =
      between ++ (name ++ (gap ++ '(' :: rest)) := List.append_cancel_left hmatched
  obtain ⟨-, hcut⟩ := Text.append_inj_of_stretch hcut (fun c => f.gap.inSeparation_of_mem)
    (head?_name_append f.name.isName) hbetween (head?_name_append hname)
  obtain ⟨rfl, -⟩ := Text.append_inj_of_stretch hcut f.name.isName.parts
    (head?_blank_append f.spaceBlank hopen) hname.parts (head?_blank_append hgap hopen)
  exact hpart

/-- Where a word may start, the form is found, with the name of the function if it is not found
before. -/
theorem find?_wordForm (hlast : t.getLast?.any Unicode.isWord = false) (v : Text) :
    ∃ m, ScriptForm.wordForm.find? (t ++ (f.head ++ '(' :: v)) = some m ∧
      (t.length ≤ m.start → m.part 1 = f.name.text) := by
  have hline : f.head ++ '(' :: v = f.head ++ ['('] ++ v := by rw [List.append_assoc]; rfl
  obtain ⟨m, hfind, hstart⟩ := (f.fits v).find? hlast (by rfl)
  rw [← hline] at hfind
  refine ⟨m, hfind, fun hle => ?_⟩
  have hhere := Pattern.matchHere_of_find? hfind
  rw [Nat.le_antisymm hstart hle, Cursor.place_append] at hhere
  exact f.part_of_matchHere hhere rfl

/-- So it has the name of the function, unless it is found before. -/
theorem nameOf?_wordForm (hlast : t.getLast?.any Unicode.isWord = false)
    (hfirst : ∀ m, ScriptForm.wordForm.find? (t ++ (f.head ++ '(' :: v)) = some m →
      t.length ≤ m.start) :
    ScriptForm.nameOf? ScriptForm.wordForm (t ++ (f.head ++ '(' :: v)) =
      if String.ofList f.name.text ∈ FunctionSpan.neverNames then none else some f.name.text := by
  obtain ⟨m, hfind, hpart⟩ := f.find?_wordForm hlast v
  rw [ScriptForm.nameOf?_of_find? hfind, hpart (hfirst m hfind)]

end NamedFunction

/-- No word is part of what may stand behind the word for a function. -/
theorem ScriptGap.head?_append (s : ScriptGap) {v : Text}
    (h : s.text ≠ [] ∨ v.head?.any Unicode.isWord = false) :
    (s.text ++ v).head?.any Unicode.isWord = false := by
  cases hs : s.text with
  | nil => exact h.resolve_left fun hne => hne hs
  | cons c rest =>
    have hc := s.inSeparation_of_mem (hs ▸ List.mem_cons_self : c ∈ s.text)
    rw [List.cons_append, List.head?_cons, Option.any_some]
    rcases Bool.or_eq_true_iff.mp hc with hblank | hstar
    · exact Unicode.isWord_of_isBlank hblank
    · obtain rfl := beq_iff_eq.mp hstar
      decide

theorem fits_arrow {space : Text} (hspace : space.isBlank = true) (v : Text) :
    (Pattern.sequence ScriptForm.arrow).Fits (space ++ ['=', '>']) v :=
  Fits.cons (fits_blank hspace) (Fits.cons (u := ['=']) (Fits.one rfl) (Fits.one rfl))

/-- No parenthesis is part of a list. -/
theorem PlainList.mem_text (l : PlainList) {c : Char} (hc : c ∈ l.text) :
    Unicode.isBlank c = true ∨ Text.isNamePart c = true ∨ c = ',' := by
  rcases List.mem_append.mp hc with hc | hc
  · exact .inl (List.all_eq_true.mp l.padBlank c hc)
  · rcases Text.of_mem_joinWith hc with hcomma | ⟨t, ht, hc⟩
    · exact .inr (.inr (List.mem_singleton.mp hcomma))
    · obtain ⟨p, -, rfl⟩ := List.mem_map.mp ht
      rcases List.mem_append.mp hc with hc | hc
      · exact .inl (List.all_eq_true.mp p.blank.1 c hc)
      · rcases List.mem_append.mp hc with hc | hc
        · exact .inr (.inl (p.isName.parts c hc))
        · exact .inl (List.all_eq_true.mp p.blank.2 c hc)

theorem PlainList.not_mem_text (l : PlainList) : '(' ∉ l.text ∧ ')' ∉ l.text := by
  constructor <;> intro hc <;> rcases l.mem_text hc with h | h | h <;> exact absurd h (by decide)

namespace BoundFunction

/-- The start of a function fits what a variable is bound to. -/
theorem fits (f : BoundFunction) (v : Text) : ∃ u w, f.head ++ (listText f.list? ++ v) = u ++ w ∧
    (Pattern.either (Pattern.sequence ScriptForm.keyword) (.either
      (Pattern.sequence ScriptForm.listed) (Pattern.sequence ScriptForm.single))).Fits u w := by
  have hword : ScriptForm.functionWord.getLast?.any Unicode.isWord = true := by decide
  cases f with
  | named f =>
    refine ⟨ScriptForm.functionWord, f.gap.text ++ (f.name.text ++ (f.space ++
      (listText (some (f.params, [])) ++ v))), ?_, (Fits.wordEnd hword ?_).left⟩
    · simp only [head, NamedFunction.head, list?, List.append_assoc]
    · exact f.gap.head?_append (.inl f.apart)
  | anonymous gap params =>
    refine ⟨ScriptForm.functionWord, gap.text ++ (listText (some (params, [])) ++ v), ?_,
      (Fits.wordEnd hword ?_).left⟩
    · simp only [head, list?, List.append_assoc]
    · exact gap.head?_append (.inr (by decide : Unicode.isWord '(' = false))
  | listed params space blank =>
    refine ⟨['('] ++ (params.text ++ ([')'] ++ (space ++ ['=', '>']))), v, ?_,
      (Fits.left ?_).right⟩
    · simp only [head, list?, listText, List.nil_append, List.cons_append, List.append_assoc]
    · have hinner : ∀ c ∈ params.text, (CharSet.except (.char ')')).has c = true := by
        intro c hc
        rw [CharSet.has, CharSet.has, Bool.not_eq_true', beq_eq_false_iff_ne]
        rintro rfl
        exact params.not_mem_text.2 hc
      exact Fits.cons (Fits.one rfl) (Fits.cons (Fits.unbounded hinner (Nat.zero_le _))
        (Fits.cons (Fits.one rfl) (fits_arrow blank v)))
  | single param space blank =>
    refine ⟨[param.first] ++ (param.rest ++ (space ++ ['=', '>'])), v, ?_, (Fits.right ?_).right⟩
    · simp only [head, list?, listText, ScriptName.text, List.nil_append, List.cons_append,
        List.append_assoc]
    · exact Fits.cons (Fits.one param.starts) (Fits.cons
        (Fits.unbounded param.goesOn (Nat.zero_le _)) (fits_arrow blank v))

end BoundFunction

namespace FunctionBinding
variable (b : FunctionBinding) {t : Text} {m : Match}

theorem fits_async (v : Text) :
    (Pattern.loop (Pattern.sequence DefForm.asynchronous) 0 (some 1) true).Fits
      (DefForm.asyncText b.async) v := by
  cases hasync : b.async with
  | none => exact Fits.leftOut
  | some gap =>
    obtain ⟨hne, hblank⟩ := b.asyncBlank gap hasync
    have hone : 1 ≤ gap.length := List.length_pos_iff.mpr hne
    exact Fits.taken (by simp [DefForm.asyncText, hne]) (Fits.characters
      (Fits.unbounded (DefForm.space_of_isBlank hblank) hone))

theorem fits (v : Text) : ∃ u w,
    b.before ++ (b.value.head ++ (listText b.value.list? ++ v)) = u ++ w ∧
    (Pattern.sequence (ScriptForm.bound ++ ScriptForm.value)).Fits u w := by
  obtain ⟨u, w, hvalue, hfits⟩ := b.value.fits v
  refine ⟨b.word ++ (b.gap ++ (b.name.text ++ (b.left ++ (['='] ++ (b.right ++
    (DefForm.asyncText b.async ++ u)))))), w, ?_, ?_⟩
  · simp only [before, assigned, List.append_assoc, hvalue]
  · have hone : 1 ≤ b.gap.length := List.length_pos_iff.mpr b.gapBlank.1
    have hword : (Pattern.firstOf (ScriptForm.bindingWords.map Pattern.literal)).Fits b.word
        ((b.gap ++ (b.name.text ++ (b.left ++ (['='] ++ (b.right ++
          (DefForm.asyncText b.async ++ u)))))) ++ w) :=
      Fits.firstOf (List.mem_map_of_mem b.isWord) Fits.literal
    exact Fits.cons hword (Fits.cons
      (Fits.unbounded (DefForm.space_of_isBlank b.gapBlank.2) hone) (Fits.cons (b.name.fits _)
        (Fits.cons (fits_blank b.leftBlank) (Fits.cons (Fits.one rfl) (Fits.cons
          (fits_blank b.rightBlank) (Fits.cons (b.fits_async _) hfits))))))

theorem eq_of_append_eq {word word' u v : Text} (hword : word ∈ ScriptForm.bindingWords)
    (hword' : word' ∈ ScriptForm.bindingWords) (h : word ++ u = word' ++ v) : word = word' := by
  -- the words start with letters of their own
  have hfirst : ∀ w ∈ ScriptForm.bindingWords, ∀ w' ∈ ScriptForm.bindingWords,
      w.head? = w'.head? → w = w' := by decide
  have hhead : ∀ w ∈ ScriptForm.bindingWords, ∀ x : Text, (w ++ x).head? = w.head? := by
    intro w hw x
    rw [List.head?_append, Option.or_eq_left_of_isSome]
    exact (by decide : ∀ w ∈ ScriptForm.bindingWords, w.head?.isSome = true) w hw
  refine hfirst word hword word' hword' ?_
  rw [← hhead word hword u, h, hhead word' hword' v]

/-- Where the variable stands, the form matches with no other name. -/
theorem part_of_matchHere {c : Cursor} (hhere : ScriptForm.bindingForm.matchHere c false = some m)
    (hrest : c.rest = b.word ++ (b.gap ++ (b.name.text ++ (b.left ++ '=' :: v)))) :
    m.part 1 = b.name.text := by
  obtain ⟨word, gap, name, space, rest, hcut, hword, hgap, hname, hspace, hpart⟩ :=
    ScriptForm.exists_of_matchHere_bindingForm hhere
  have hequal : ∀ {x : Text}, ('=' :: x).head?.any Text.isNamePart = false := by
    intro x
    exact (by decide : Text.isNamePart '=' = false)
  have hsolid : ∀ {n x : Text}, IsName n → (n ++ x).head?.any Unicode.isBlank = false := by
    intro n x hn
    obtain ⟨c, n, rfl⟩ := List.exists_cons_of_ne_nil hn.nonempty
    exact (Bool.or_eq_false_iff.mp (inSeparation_of_isNamePart (hn.parts c List.mem_cons_self))).1
  -- the text can be cut into such parts in one way only
  rw [hrest] at hcut
  obtain rfl := eq_of_append_eq b.isWord hword hcut
  obtain ⟨-, hcut⟩ := Text.append_inj_of_stretch (List.append_cancel_left hcut)
    (List.all_eq_true.mp b.gapBlank.2) (hsolid b.name.isName) (List.all_eq_true.mp hgap)
    (hsolid hname)
  obtain ⟨rfl, -⟩ := Text.append_inj_of_stretch hcut b.name.isName.parts
    (head?_blank_append b.leftBlank hequal) hname.parts (head?_blank_append hspace hequal)
  exact hpart

/-- Where a word may start, the form is found, with the name of the variable if it is not found
before. -/
theorem find?_bindingForm (hlast : t.getLast?.any Unicode.isWord = false) (v : Text) :
    ∃ m, ScriptForm.bindingForm.find?
        (t ++ (b.before ++ (b.value.head ++ (listText b.value.list? ++ v)))) = some m ∧
      (t.length ≤ m.start → m.part 1 = b.name.text) := by
  obtain ⟨u, w, hline, hfits⟩ := b.fits v
  have hrest : u ++ w = b.word ++ (b.gap ++ (b.name.text ++ (b.left ++ '=' :: (b.right ++
      (DefForm.asyncText b.async ++ (b.value.head ++ (listText b.value.list? ++ v))))))) := by
    rw [← hline]
    simp only [before, assigned, List.append_assoc, List.cons_append, List.nil_append]
  have hletters : ∀ w ∈ ScriptForm.bindingWords, w.head?.any Unicode.isWord = true := by decide
  have hletter : (u ++ w).head?.any Unicode.isWord = true := by
    have hword := hletters b.word b.isWord
    rw [hrest, List.head?_append, Option.or_eq_left_of_isSome (Option.isSome_of_any hword)]
    exact hword
  obtain ⟨m, hfind, hstart⟩ := hfits.find? hlast hletter
  rw [hline]
  refine ⟨m, hfind, fun hle => ?_⟩
  have hhere := Pattern.matchHere_of_find? hfind
  rw [Nat.le_antisymm hstart hle, Cursor.place_append] at hhere
  exact b.part_of_matchHere hhere hrest

/-- So it has the name of the variable, unless it is found before. -/
theorem nameOf?_bindingForm (hlast : t.getLast?.any Unicode.isWord = false) {v : Text}
    (hfirst : ∀ m, ScriptForm.bindingForm.find?
      (t ++ (b.before ++ (b.value.head ++ (listText b.value.list? ++ v)))) = some m →
        t.length ≤ m.start) :
    ScriptForm.nameOf? ScriptForm.bindingForm
        (t ++ (b.before ++ (b.value.head ++ (listText b.value.list? ++ v)))) =
      if String.ofList b.name.text ∈ FunctionSpan.neverNames then none else some b.name.text := by
  obtain ⟨m, hfind, hpart⟩ := b.find?_bindingForm hlast v
  rw [ScriptForm.nameOf?_of_find? hfind, hpart (hfirst m hfind)]

end FunctionBinding

/-! ### Stretches in which no function with a word and a name starts -/

section
variable {u v : Text}

/-- Characters that stand between the first letter of the word and the parenthesis. -/
def inHead (d : Char) : Bool := Text.isNamePart d || ScriptForm.inSeparation d

/-- Where the form matches, a parenthesis stands behind such characters. -/
theorem exists_head_of_matchHere {c : Cursor} {m : Match}
    (h : ScriptForm.wordForm.matchHere c false = some m) :
    ∃ name x rest, c.rest = (ScriptForm.functionWord ++ x) ++ '(' :: rest ∧
      (∀ d ∈ ScriptForm.functionWord ++ x, inHead d = true) ∧ IsName name ∧ name ⊆ x := by
  obtain ⟨between, name, gap, rest, hrest, hbetween, hname, hgap, -⟩ :=
    ScriptForm.exists_of_matchHere_wordForm h
  have hword := List.all_eq_true.mp
    (by decide : ScriptForm.functionWord.all Text.isNamePart = true)
  refine ⟨name, between ++ (name ++ gap), rest, ?_, fun d hd => ?_, hname, fun d hd => ?_⟩
  · rw [hrest, List.append_assoc, List.append_assoc, List.append_assoc]
  · rw [inHead, Bool.or_eq_true_iff]
    simp only [List.mem_append] at hd
    rcases hd with hd | hd | hd | hd
    · exact .inl (hword d hd)
    · exact .inr (hbetween d hd)
    · exact .inl (hname.parts d hd)
    · rw [ScriptForm.inSeparation, List.all_eq_true.mp hgap d hd]
      exact .inr rfl
  · exact List.mem_append_right _ (List.mem_append_left _ hd)

/-- Without the first letter of the word no match starts. -/
theorem quiet_of_not_mem (h : 'f' ∉ u) (v : Text) : ScriptForm.wordForm.Quiet u v := by
  intro a b heq hb c hrest
  obtain ⟨d, b, rfl⟩ := List.exists_cons_of_ne_nil hb
  rw [Option.eq_none_iff_forall_ne_some]
  intro m hm
  obtain ⟨-, x, rest, hmatched, -⟩ := exists_head_of_matchHere hm
  rw [hrest] at hmatched
  obtain rfl : d = 'f' := (List.cons.inj hmatched).1
  exact h (heq ▸ List.mem_append_right a List.mem_cons_self)

/-- No match starts before a character that cannot be part of it, unless a parenthesis stands
between the two. -/
theorem quiet_of_mark {e : Char} (he : inHead e = false) (hopen : '(' ∉ u ++ [e]) (v : Text) :
    ScriptForm.wordForm.Quiet (u ++ [e]) v := by
  intro a b heq hb c hrest
  have hmem : e ∈ b := by
    have hlast : (a ++ b).getLast? = some e := by rw [← heq, List.getLast?_concat]
    rw [List.getLast?_append_of_ne_nil a hb] at hlast
    exact List.mem_of_getLast? hlast
  have hfree : '(' ∉ b := fun hin => hopen (heq ▸ List.mem_append_right a hin)
  rw [Option.eq_none_iff_forall_ne_some]
  intro m hm
  obtain ⟨-, x, rest, hmatched, hhead, -⟩ := exists_head_of_matchHere hm
  rw [hrest] at hmatched
  have hnot : e ∉ ScriptForm.functionWord ++ x := fun hin => by
    rw [hhead e hin] at he
    cases he
  rcases List.append_eq_append_iff.mp hmatched with ⟨w, hw, -⟩ | ⟨w, hb, hw⟩
  · exact hnot (hw ▸ List.mem_append_left w hmem)
  · cases w with
    | nil =>
      rw [List.append_nil] at hb
      exact hnot (hb ▸ hmem)
    | cons d w =>
      obtain rfl : '(' = d := (List.cons.inj hw).1
      exact hfree (hb ▸ List.mem_append_right _ List.mem_cons_self)

/-- A function without a name is none with a name. -/
theorem ScriptGap.quiet (s : ScriptGap) (v : Text) :
    ScriptForm.wordForm.Quiet (ScriptForm.functionWord ++ s.text) ('(' :: v) := by
  intro a b heq hb c hrest
  rw [Option.eq_none_iff_forall_ne_some]
  intro m hm
  obtain ⟨name, x, rest, hmatched, hhead, hname, hsub⟩ := exists_head_of_matchHere hm
  have hfree : ∀ d ∈ b, (d != '(') = true := by
    intro d hd
    have hmem : d ∈ ScriptForm.functionWord ++ s.text := heq ▸ List.mem_append_right a hd
    rw [bne_iff_ne]
    rintro rfl
    rcases List.mem_append.mp hmem with hmem | hmem
    · exact absurd hmem (by decide)
    · exact absurd (s.inSeparation_of_mem hmem) (by decide)
  have hfree' : ∀ d ∈ ScriptForm.functionWord ++ x, (d != '(') = true := by
    intro d hd
    rw [bne_iff_ne]
    rintro rfl
    exact absurd (hhead _ hd) (by decide)
  -- both parentheses are the first one, so the match ends where the gap does
  rw [hrest] at hmatched
  obtain ⟨rfl, -⟩ := Text.append_inj_of_stretch hmatched hfree rfl hfree' rfl
  have hlength := congrArg List.length heq
  simp only [List.length_append] at hlength
  have hwhole : x <:+ ScriptForm.functionWord ++ s.text :=
    ⟨a ++ ScriptForm.functionWord, by rw [heq, List.append_assoc]⟩
  have hsuffix : x <:+ s.text :=
    List.suffix_of_suffix_length_le hwhole (List.suffix_append _ _) (by omega)
  obtain ⟨d, hd⟩ := List.exists_mem_of_ne_nil name hname.nonempty
  have hgap := s.inSeparation_of_mem (hsuffix.subset (hsub hd))
  rw [inSeparation_of_isNamePart (hname.parts d hd)] at hgap
  cases hgap

theorem open_not_mem_of_isNamePart {t : Text} (h : ∀ d ∈ t, Text.isNamePart d = true) :
    '(' ∉ t := fun hin => absurd (h _ hin) (by decide)

theorem ScriptGap.not_mem_text (s : ScriptGap) : '(' ∉ s.text := fun hin =>
  absurd (s.inSeparation_of_mem hin) (by decide)

theorem open_not_mem_of_isBlank {t : Text} (h : t.isBlank = true) : '(' ∉ t :=
  Text.not_mem_of_isBlank h (by decide)

namespace FunctionBinding
variable (b : FunctionBinding)

theorem open_not_mem_assigned : '(' ∉ b.assigned := by
  have hword : '(' ∉ b.word :=
    (by decide : ∀ w ∈ ScriptForm.bindingWords, '(' ∉ w) _ b.isWord
  simp [assigned, hword, open_not_mem_of_isBlank b.gapBlank.2, open_not_mem_of_isBlank b.leftBlank,
    open_not_mem_of_isNamePart b.name.isName.parts]

/-- Behind what stands before the function a word may start. -/
theorem getLast?_append_before {t : Text} (ht : t.getLast?.any Unicode.isWord = false) :
    (t ++ b.before).getLast?.any Unicode.isWord = false := by
  have happend : ∀ {u w : Text}, u.getLast?.any Unicode.isWord = false →
      w.getLast?.any Unicode.isWord = false → (u ++ w).getLast?.any Unicode.isWord = false := by
    intro u w hu hw
    rw [List.getLast?_append]
    cases hlast : w.getLast? with
    | none => exact hu
    | some e => rwa [hlast] at hw
  have hblank : ∀ {w : Text}, w.isBlank = true → w.getLast?.any Unicode.isWord = false := by
    intro w hw
    cases hlast : w.getLast? with
    | none => rfl
    | some e =>
      exact Unicode.isWord_of_isBlank (List.all_eq_true.mp hw e (List.mem_of_getLast? hlast))
  have hassigned : b.assigned.getLast?.any Unicode.isWord = false := by
    have hlast : b.assigned.getLast? = some '=' := by simp [assigned]
    rw [hlast]
    decide
  refine happend ht (happend hassigned (happend (hblank b.rightBlank) ?_))
  cases hasync : b.async with
  | none => rfl
  | some gap =>
    obtain ⟨hne, hgap⟩ := b.asyncBlank gap hasync
    rw [DefForm.asyncText, List.getLast?_append_of_ne_nil _ hne]
    exact hblank hgap

/-- Before what the variable is bound to, no such function starts. -/
theorem quiet_before (v : Text) : ScriptForm.wordForm.Quiet b.before v := by
  have hassigned : b.assigned = (b.word ++ (b.gap ++ (b.name.text ++ b.left))) ++ ['='] := by
    simp only [assigned, List.append_assoc]
  have hasync : 'f' ∉ b.right ++ DefForm.asyncText b.async := by
    rw [List.mem_append, not_or]
    refine ⟨Text.not_mem_of_isBlank b.rightBlank (by decide), ?_⟩
    cases hasync : b.async with
    | none => exact List.not_mem_nil
    | some gap =>
      rw [DefForm.asyncText, List.mem_append, not_or]
      exact ⟨by decide, Text.not_mem_of_isBlank (b.asyncBlank gap hasync).2 (by decide)⟩
  refine Pattern.Quiet.append ?_ (quiet_of_not_mem hasync v)
  rw [hassigned]
  refine quiet_of_mark (by decide) ?_ _
  rw [← hassigned]
  exact b.open_not_mem_assigned

end FunctionBinding

/-- In what has no function with a word and a name, none starts. -/
theorem BoundFunction.quiet (f : BoundFunction) (h : f.inner? = none) (v : Text) :
    ScriptForm.wordForm.Quiet (f.head ++ listText f.list?) v := by
  have harrow : ∀ {t space : Text}, '(' ∉ t → space.isBlank = true → ∀ v,
      ScriptForm.wordForm.Quiet (t ++ (space ++ ['=', '>'])) v := by
    intro t space ht hspace v
    have hcut : t ++ (space ++ ['=', '>']) = (t ++ (space ++ ['='])) ++ ['>'] := by
      simp only [List.append_assoc, List.cons_append, List.nil_append]
    rw [hcut]
    refine quiet_of_mark (by decide) ?_ v
    simp [ht, open_not_mem_of_isBlank hspace]
  have hopening : ∀ v, ScriptForm.wordForm.Quiet ['('] v := quiet_of_not_mem (by decide)
  cases f with
  | named f => cases h
  | anonymous gap params =>
    refine Pattern.Quiet.append (gap.quiet _) (Pattern.Quiet.append (u := ['(']) (hopening _) ?_)
    refine quiet_of_mark (by decide) ?_ v
    simp [params.not_mem_text.1]
  | listed params space blank =>
    have hcut : listText (some (params, space ++ ['=', '>'])) =
        ['('] ++ ((params.text ++ [')']) ++ (space ++ ['=', '>'])) := by
      simp only [listText, List.append_assoc, List.cons_append, List.nil_append]
    show ScriptForm.wordForm.Quiet (listText (some (params, space ++ ['=', '>']))) v
    rw [hcut]
    refine Pattern.Quiet.append (hopening _) (harrow ?_ blank v)
    simp [params.not_mem_text.1]
  | single param space blank =>
    have hparam := open_not_mem_of_isNamePart param.isName.parts
    simpa [head, list?, listText] using harrow hparam blank v

end

/-! ## The function on the line -/

namespace ScriptDeclaration
variable {b : FunctionBinding} {lead tail : Text}

theorem text_worded (f : NamedFunction) (tail : Text) :
    (worded f).text ++ tail = f.head ++ '(' :: (f.params.text ++ ')' :: tail) := by
  simp only [text, head, list?, listText, List.append_assoc, List.cons_append, List.nil_append]

theorem text_binding (b : FunctionBinding) (tail : Text) :
    (binding b).text ++ tail =
      b.before ++ (b.value.head ++ (listText b.value.list? ++ tail)) := by
  simp only [text, head, list?, List.append_assoc]

theorem text_of_inner? {f : NamedFunction} (h : b.value.inner? = some f) (tail : Text) :
    (binding b).text ++ tail = b.before ++ ((worded f).text ++ tail) := by
  rw [text_binding, BoundFunction.eq_named_of_inner? h, text, List.append_assoc]
  rfl

/-- The function that a variable is bound to is found by its own name. -/
theorem nameOf?_inner {f : NamedFunction} (h : b.value.inner? = some f)
    (hlead : lead.getLast?.any Unicode.isWord = false)
    (hfirst : ∀ m, ScriptForm.wordForm.find? (lead ++ ((binding b).text ++ tail)) = some m →
      lead.length ≤ m.start) :
    ScriptForm.nameOf? ScriptForm.wordForm (lead ++ ((binding b).text ++ tail)) =
      if String.ofList f.name.text ∈ FunctionSpan.neverNames then none else some f.name.text := by
  rw [text_of_inner? h, text_worded] at hfirst ⊢
  rw [← List.append_assoc]
  refine f.nameOf?_wordForm (b.getLast?_append_before hlead) fun m hm => ?_
  -- nothing is found between the variable and the function
  rw [List.append_assoc] at hm
  rw [List.length_append]
  exact (b.quiet_before _).le_start hm (hfirst m hm)

/-- If a variable is bound to another function, one that is found stands behind the declaration. -/
theorem nameOf?_behind (h : b.value.inner? = none)
    (hfirst : ∀ m, ScriptForm.wordForm.find? (lead ++ ((binding b).text ++ tail)) = some m →
      lead.length ≤ m.start) {name : Text}
    (hname : ScriptForm.nameOf? ScriptForm.wordForm (lead ++ ((binding b).text ++ tail)) =
      some name) :
    ∃ m, ScriptForm.wordForm.find? (lead ++ ((binding b).text ++ tail)) = some m ∧
      lead.length + (binding b).text.length ≤ m.start ∧ name = m.part 1 ∧
      String.ofList name ∉ FunctionSpan.neverNames := by
  have hquiet : ScriptForm.wordForm.Quiet (binding b).text tail := by
    have htext : (binding b).text = b.before ++ (b.value.head ++ listText b.value.list?) :=
      List.append_assoc ..
    rw [htext]
    exact (b.quiet_before _).append (b.value.quiet h tail)
  cases hfound : ScriptForm.wordForm.find? (lead ++ ((binding b).text ++ tail)) with
  | none =>
    rw [ScriptForm.nameOf?_of_none hfound] at hname
    cases hname
  | some m =>
    rw [ScriptForm.nameOf?_of_find? hfound] at hname
    split at hname
    · cases hname
    · next hnever =>
      obtain rfl := Option.some.inj hname
      exact ⟨m, rfl, hquiet.le_start hfound (hfirst m hfound), rfl, hnever⟩

/-- The function on the line of the first declaration is the one that is declared, or it has a word
and a name and stands behind a declaration without. -/
theorem nameOn_line (d : ScriptDeclaration) {lead tail : Text}
    (hlead : lead.getLast?.any Unicode.isWord = false)
    (hfirst : ∀ form ∈ Language.javaScript.functionForms, ∀ m,
      form.find? (lead ++ (d.text ++ tail)) = some m → lead.length ≤ m.start)
    (hnever : String.ofList d.known ∉ FunctionSpan.neverNames) :
    ∃ name, FunctionSpan.nameOn .javaScript (lead ++ (d.text ++ tail)) = some name ∧
      (name = d.known ∨ d.inner? = none ∧ ∃ m,
        ScriptForm.wordForm.find? (lead ++ (d.text ++ tail)) = some m ∧
          lead.length + d.text.length ≤ m.start ∧ name = m.part 1 ∧
          String.ofList name ∉ FunctionSpan.neverNames) := by
  have hbehind : ∀ form ∈ [ScriptForm.wordForm, ScriptForm.bindingForm], ∀ m,
      form.find? (lead ++ (d.text ++ tail)) = some m → lead.length ≤ m.start := by
    intro form hform
    refine hfirst form ?_
    rw [ScriptForm.functionForms_javaScript]
    exact List.mem_append_left _ hform
  have hword := hbehind ScriptForm.wordForm List.mem_cons_self
  have hbinding := hbehind ScriptForm.bindingForm (List.mem_cons_of_mem _ List.mem_cons_self)
  rw [ScriptForm.nameOn_javaScript]
  cases d with
  | worded f =>
    have hnever : String.ofList f.name.text ∉ FunctionSpan.neverNames := hnever
    rw [text_worded] at hword ⊢
    rw [f.nameOf?_wordForm hlead hword, if_neg hnever]
    exact ⟨_, rfl, .inl rfl⟩
  | binding b =>
    have hvariable : ScriptForm.nameOf? ScriptForm.bindingForm (lead ++ ((binding b).text ++ tail)) =
        if String.ofList b.name.text ∈ FunctionSpan.neverNames then none else some b.name.text := by
      rw [text_binding] at hbinding ⊢
      exact b.nameOf?_bindingForm hlead hbinding
    rw [hvariable]
    cases hinner : b.value.inner? with
    | some f =>
      rw [nameOf?_inner hinner hlead hword]
      rw [known, hinner] at hnever ⊢
      dsimp only at hnever ⊢
      split
      · next hf =>
        rw [if_pos hf] at hnever
        rw [if_neg hnever]
        exact ⟨_, rfl, .inl rfl⟩
      · exact ⟨_, rfl, .inl rfl⟩
    | none =>
      have hknown : (binding b).known = b.name.text := by rw [known, hinner]
      rw [hknown] at hnever ⊢
      rw [if_neg hnever]
      cases hname : ScriptForm.nameOf? ScriptForm.wordForm (lead ++ ((binding b).text ++ tail)) with
      | none => exact ⟨_, rfl, .inl rfl⟩
      | some name => exact ⟨name, rfl, .inr ⟨hinner, nameOf?_behind hinner hword hname⟩⟩

end ScriptDeclaration
end SourceAudit
