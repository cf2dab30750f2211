import SourceAudit.Proofs.Complexity.SelfCalls
import SourceAudit.Proofs.Pattern.Fitting
import SourceAudit.Proofs.Skeleton.HeaderLine

/-!
  The forms of functions in JavaScript.

  A function is declared behind the word `function`, or a variable is bound to one. The first form
  looks for the word with a name and a parenthesis, the second for the variable. What is proved:
    1. `functionForms_javaScript` — these are the first two forms of the language.
    2. `exists_of_matchHere_wordForm`, `exists_of_matchHere_bindingForm` — what stands where one of
       the two matches.
    3. `nameOn_javaScript` — the name of the first form is taken, or else that of the second.
-/
namespace SourceAudit

/-- A text is cut in one way only into characters of a kind and a rest that starts with no such
character. -/
theorem Text.append_inj_of_stretch {p : Char → Bool} {u v u' v' : Text} (h : u ++ v = u' ++ v')
    (hu : ∀ c ∈ u, p c = true) (hv : v.head?.any p = false) (hu' : ∀ c ∈ u', p c = true)
    (hv' : v'.head?.any p = false) : u = u' ∧ v = v' := by
  have htake : ∀ {u v : Text}, (∀ c ∈ u, p c = true) → v.head?.any p = false →
      (u ++ v).takeWhile p = u := by
    intro u v hu hv
    rw [List.takeWhile_append_of_pos hu]
    cases v with
    | nil => exact List.append_nil u
    | cons c v => rw [List.takeWhile_cons_of_neg (by simpa using hv), List.append_nil]
  obtain rfl : u = u' := by rw [← htake hu hv, h, htake hu' hv']
  exact ⟨rfl, List.append_cancel_left h⟩

namespace ScriptForm
open Recursion (IsName nameStart nameGroup declared)
open FunctionSignature (nameChars)

/-! ## The forms -/

/-- The word before the name of a function. -/
def functionWord : Text := ['f', 'u', 'n', 'c', 't', 'i', 'o', 'n']

/-- The words that bind a variable. -/
def bindingWords : List Text := [['c', 'o', 'n', 's', 't'], ['l', 'e', 't'], ['v', 'a', 'r']]

/-- What may stand between the word and the name: blanks, with a star among them. -/
def separation : List Pattern :=
  [.many .space 0 none true, .many (.char '*') 0 (some 1) true, .many .space 0 none true]

/-- The word, a name behind it, and the parenthesis. -/
def worded : List Pattern :=
  (functionWord.map fun c => .one (.char c)) ++ (separation ++ declared)

/-- The form of a function with a word and a name. -/
def wordForm : Pattern := Pattern.sequence (.boundary :: worded)

/-- A variable that is bound. -/
def bound : List Pattern :=
  [.firstOf (bindingWords.map Pattern.literal), .many .space 1 none true, nameGroup,
    .many .space 0 none true, .one (.char '=')]

/-- An arrow with the blanks before it. -/
def arrow : List Pattern := [.many .space 0 none true, .one (.char '='), .one (.char '>')]

/-- The start of a function behind the word for it. -/
def keyword : List Pattern := (functionWord.map fun c => .one (.char c)) ++ [.boundary]

/-- The start of a function with parameters and an arrow. -/
def listed : List Pattern :=
  .one (.char '(') :: .many (.except (.char ')')) 0 none true :: .one (.char ')') :: arrow

/-- The start of a function with one parameter and an arrow. -/
def single : List Pattern := .one nameStart :: .many nameChars 0 none true :: arrow

/-- What a variable is bound to, if it is bound to a function. -/
def value : List Pattern :=
  [.many .space 0 none true, .loop (Pattern.sequence DefForm.asynchronous) 0 (some 1) true,
    .either (Pattern.sequence keyword)
      (.either (Pattern.sequence listed) (Pattern.sequence single))]

/-- The form of a variable that is bound to a function. -/
def bindingForm : Pattern := Pattern.sequence (.boundary :: (bound ++ value))

theorem functionForms_javaScript : Language.javaScript.functionForms =
    [wordForm, bindingForm] ++ Language.javaScript.functionForms.drop 2 := by
  have htwo : Language.javaScript.functionForms.take 2 = [wordForm, bindingForm] := by
    decide +kernel
  rw [← htwo, List.take_append_drop]

variable {c : Cursor} {m : Match}

/-- Blanks and stars. -/
def inSeparation (d : Char) : Bool := Unicode.isBlank d || d == '*'

/-- Where the first form matches stand the word, a name, and a parenthesis. -/
theorem exists_of_matchHere_wordForm (h : wordForm.matchHere c false = some m) :
    ∃ between name gap rest, c.rest = functionWord ++ (between ++ (name ++ (gap ++ '(' :: rest))) ∧
      (∀ d ∈ between, inSeparation d = true) ∧ IsName name ∧ gap.isBlank = true ∧
      m.part 1 = name := by
  obtain ⟨⟨stop, spans⟩, hrun, rfl⟩ := Option.map_eq_some_iff.mp h
  rw [wordForm, Pattern.run_sequence_cons, Pattern.run] at hrun
  split at hrun
  · rw [worded, DefForm.run_characters] at hrun
    split at hrun
    · next hword =>
      rw [Pattern.run_sequence_append, separation, Pattern.run_sequence_cons] at hrun
      obtain ⟨a, c₁, hlead₁, ha, hrun⟩ := Pattern.exists_of_run_many hrun
      rw [Pattern.run_sequence_cons] at hrun
      obtain ⟨s, c₂, hlead₂, hs, hrun⟩ := Pattern.exists_of_run_many hrun
      obtain ⟨b, c₃, hlead₃, hb, hrun⟩ := Pattern.exists_of_run_many hrun
      obtain ⟨name, gap, rest, c₄, _, hname, hgap, hrest, hlead₄, hk⟩ :=
        Recursion.run_declared hrun
      obtain ⟨tail, htail⟩ := List.isPrefixOf_iff_prefix.mp hword
      have hlead₀ : c.Leads functionWord (c.skip functionWord.length) :=
        ⟨by rw [Cursor.rest_skip htail.symm, htail], rfl⟩
      have hlead := hlead₀.trans (hlead₁.trans (hlead₂.trans hlead₃))
      refine ⟨a ++ (s ++ b), name, gap, rest, ?_, ?_, hname, hgap, ?_⟩
      · rw [hlead.1, hrest, List.append_assoc]
      · intro d hd
        rw [inSeparation, Bool.or_eq_true_iff]
        rcases List.mem_append.mp hd with hd | hd
        · exact .inl (ha d hd)
        · exact (List.mem_append.mp hd).elim (fun hd => .inr (hs d hd)) fun hd => .inl (hb d hd)
      · obtain ⟨-, rfl⟩ := Prod.mk.inj (Option.some.inj hk)
        exact congrArg Capture.text (hlead.capture hlead₄)
    · cases hrun
  · cases hrun

/-- Where the second form matches stand a word that binds, a name, and a sign of equality. -/
theorem exists_of_matchHere_bindingForm (h : bindingForm.matchHere c false = some m) :
    ∃ word gap name space rest, c.rest = word ++ (gap ++ (name ++ (space ++ '=' :: rest))) ∧
      word ∈ bindingWords ∧ gap.isBlank = true ∧ IsName name ∧ space.isBlank = true ∧
      m.part 1 = name := by
  obtain ⟨⟨stop, spans⟩, hrun, rfl⟩ := Option.map_eq_some_iff.mp h
  rw [bindingForm, Pattern.run_sequence_cons, Pattern.run] at hrun
  split at hrun
  · rw [Pattern.run_sequence_append, bound, Pattern.run_sequence_cons] at hrun
    obtain ⟨p, hp, hrun⟩ := Pattern.exists_of_run_firstOf hrun
    obtain ⟨word, hword, rfl⟩ := List.mem_map.mp hp
    rw [Pattern.run_literal] at hrun
    split at hrun
    · next hprefix =>
      rw [Pattern.run_sequence_cons] at hrun
      obtain ⟨gap, c₁, hlead₁, hgap, hrun⟩ := Pattern.exists_of_run_many hrun
      rw [Pattern.run_sequence_cons] at hrun
      obtain ⟨name, c₂, hname, hlead₂, hrun⟩ := Recursion.run_nameGroup hrun
      rw [Pattern.run_sequence_cons] at hrun
      obtain ⟨space, c₃, hlead₃, hspace, hrun⟩ := Pattern.exists_of_run_many hrun
      obtain ⟨e, c₄, hlead₄, he, hrun⟩ := Pattern.exists_of_run_one hrun
      obtain rfl : e = '=' := beq_iff_eq.mp he
      -- what the variable is bound to has no groups
      obtain ⟨_, _, added, -, hadded, hk⟩ := Pattern.handsOn_of_run hrun
      have hgroups : (Pattern.sequence value).groups = [] := rfl
      obtain rfl : added = [] := List.eq_nil_iff_forall_not_mem.mpr fun e he =>
        List.not_mem_nil (hgroups ▸ hadded e he)
      obtain ⟨tail, htail⟩ := List.isPrefixOf_iff_prefix.mp hprefix
      have hlead₀ : c.Leads word (c.skip word.length) :=
        ⟨by rw [Cursor.rest_skip htail.symm, htail], rfl⟩
      refine ⟨word, gap, name, space, c₄.rest, ?_, hword, List.all_eq_true.mpr hgap, hname,
        List.all_eq_true.mpr hspace, ?_⟩
      · rw [hlead₀.1, hlead₁.1, hlead₂.1, hlead₃.1, hlead₄.1]
        rfl
      · obtain ⟨-, rfl⟩ := Prod.mk.inj (Option.some.inj hk)
        exact congrArg Capture.text ((hlead₀.trans hlead₁).capture hlead₂)
    · cases hrun
  · cases hrun

/-! ### The name that is found -/

variable {form : Pattern} {line : Text}

/-- The name that a form finds on a line. -/
def nameOf? (form : Pattern) (line : Text) : Option Text :=
  match form.find? line with
  | none => none
  | some m => if String.ofList (m.part 1) ∈ FunctionSpan.neverNames then none else some (m.part 1)

theorem nameOf?_of_find? (h : form.find? line = some m) : nameOf? form line =
    if String.ofList (m.part 1) ∈ FunctionSpan.neverNames then none else some (m.part 1) := by
  rw [nameOf?, h]

theorem nameOf?_of_none (h : form.find? line = none) : nameOf? form line = none := by
  rw [nameOf?, h]

/-- The first form is asked first, and then the second. -/
theorem nameOn_javaScript (line : Text) : FunctionSpan.nameOn .javaScript line =
    (nameOf? wordForm line).or ((nameOf? bindingForm line).or
      ((Language.javaScript.functionForms.drop 2).findSome? fun form => nameOf? form line)) := by
  have hlooks : FunctionSpan.nameOn .javaScript line =
      Language.javaScript.functionForms.findSome? fun form => nameOf? form line := rfl
  rw [hlooks]
  conv_lhs => rw [functionForms_javaScript]
  rw [List.findSome?_append]
  simp only [List.findSome?_cons, List.findSome?_nil]
  cases nameOf? wordForm line <;> cases nameOf? bindingForm line <;> rfl

end ScriptForm
end SourceAudit
