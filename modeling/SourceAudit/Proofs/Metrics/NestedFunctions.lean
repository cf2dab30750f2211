import Mathlib.Data.List.DropRight
import SourceAudit.Language.Python
import SourceAudit.Proofs.Context.BlockLines
import SourceAudit.Proofs.Metrics.FunctionEnds
import SourceAudit.Proofs.Pattern.Search

/-!
  The lines of the functions of a source, next to those of the other functions.

  An indented function goes on over lines that are blank or deeper than its first one, and
  ends with the last of them that is not blank. What is proved:
    1. `indentReach_eq` — the scan finds that line: it goes as far as the lines `inner` to
       the first one.
    2. `length_inner_le` — what is inner to an inner line is no longer than what is left.
    3. `isBlank_of_nameOn` — a line with a form that demands a parenthesis is not blank, so
       a function that starts within another one is deeper.
    4. `functions_in_order` — so the functions of a source start one below the other and lie
       within it, whatever the language; and those of Python lie one within the other, or
       one behind the other.
-/
namespace SourceAudit

theorem rdropWhile_cons {α : Type} (p : α → Bool) (a : α) (l : List α) :
    (a :: l).rdropWhile p = if l.rdropWhile p = [] ∧ p a then [] else a :: l.rdropWhile p := by
  rw [List.rdropWhile, List.rdropWhile, List.reverse_cons, List.dropWhile_append]
  by_cases hrest : l.reverse.dropWhile p = []
  · by_cases ha : p a
    · simp [hrest, ha]
    · simp [hrest, ha]
  · simp [hrest]

namespace FunctionSpan

open TryBlock (deeper deeper_cons deeper_cons_eq_nil)

/-! ## Inner lines -/

/-- The lines at the front of some that are blank or deeper than a width, up to the last of them
that is not blank. -/
def inner (width : Nat) (ls : List Text) : List Text := (deeper width ls).rdropWhile Text.isBlank

section
variable {width deep : Nat} {row : Text} {ls : List Text}

theorem inner_cons_blank (h : row.isBlank = true) :
    inner width (row :: ls) = if inner width ls = [] then [] else row :: inner width ls := by
  rw [inner, deeper_cons (.inl h), rdropWhile_cons, ← inner]
  simp [h]

theorem inner_cons_deeper (hrow : row.isBlank = false) (h : width < row.indentWidth) :
    inner width (row :: ls) = row :: inner width ls := by
  rw [inner, deeper_cons (.inr h), rdropWhile_cons, ← inner]
  simp [hrow]

theorem inner_cons_end (hrow : row.isBlank = false) (h : ¬ width < row.indentWidth) :
    inner width (row :: ls) = [] := by
  rw [inner, deeper_cons_eq_nil (by simp [hrow]) h, List.rdropWhile_nil]

/-- The scan goes as far as the inner lines. -/
theorem indentReach_eq (width passed last : Nat) (ls : List Text) :
    indentReach width passed last ls =
      if inner width ls = [] then last else passed + (inner width ls).length := by
  induction ls generalizing passed last with
  | nil => rfl
  | cons row ls ih =>
    rw [indentReach]
    cases hrow : row.isBlank with
    | true =>
      rw [if_pos rfl, ih, inner_cons_blank hrow]
      split
      · rfl
      · rw [if_neg (List.cons_ne_nil _ _), List.length_cons]
        omega
    | false =>
      rw [if_neg Bool.false_ne_true]
      by_cases hwidth : row.indentWidth ≤ width
      · rw [if_pos hwidth, inner_cons_end hrow (Nat.not_lt.mpr hwidth), if_pos rfl]
      · rw [if_neg hwidth, ih, inner_cons_deeper hrow (Nat.lt_of_not_le hwidth),
          if_neg (List.cons_ne_nil _ _), List.length_cons]
        split
        · next hnil => rw [hnil, List.length_nil]
        · omega

theorem mem_inner (h : row ∈ inner width ls) : row.isBlank = true ∨ width < row.indentWidth := by
  have hrow := List.mem_takeWhile_imp ((List.rdropWhile_prefix _ _).subset h)
  simpa using hrow

theorem inner_isPrefix (width : Nat) (ls : List Text) : inner width ls <+: ls :=
  (List.rdropWhile_prefix _ _).trans (List.takeWhile_prefix _)

/-- No more lines are inner to a deeper line. -/
theorem length_inner_anti (h : width ≤ deep) :
    (inner deep ls).length ≤ (inner width ls).length := by
  induction ls with
  | nil => exact Nat.le_refl _
  | cons row ls ih =>
    cases hrow : row.isBlank with
    | true =>
      rw [inner_cons_blank hrow, inner_cons_blank hrow]
      by_cases hnil : inner deep ls = []
      · rw [if_pos hnil]
        exact Nat.zero_le _
      · have hsome : inner width ls ≠ [] := fun hwidth => by
          rw [hwidth] at ih
          exact hnil (List.length_eq_zero_iff.mp (Nat.le_zero.mp ih))
        rw [if_neg hnil, if_neg hsome]
        exact Nat.succ_le_succ ih
    | false =>
      by_cases hdeep : deep < row.indentWidth
      · rw [inner_cons_deeper hrow hdeep, inner_cons_deeper hrow (Nat.lt_of_le_of_lt h hdeep)]
        exact Nat.succ_le_succ ih
      · rw [inner_cons_end hrow hdeep]
        exact Nat.zero_le _

/-- The lines inner to an inner line end no later than those around it. -/
theorem length_inner_le (h : width ≤ deep) {k : Nat} (hk : k < (inner width ls).length) :
    k + 1 + (inner deep (ls.drop (k + 1))).length ≤ (inner width ls).length := by
  induction ls generalizing k with
  | nil => exact absurd hk (Nat.not_lt_zero k)
  | cons row ls ih =>
    have hcons : inner width (row :: ls) = row :: inner width ls := by
      cases hrow : row.isBlank with
      | true =>
        rw [inner_cons_blank hrow] at hk ⊢
        split at hk
        · exact absurd hk (Nat.not_lt_zero k)
        · next hsome => rw [if_neg hsome]
      | false =>
        by_cases hwidth : width < row.indentWidth
        · exact inner_cons_deeper hrow hwidth
        · rw [inner_cons_end hrow hwidth] at hk
          exact absurd hk (Nat.not_lt_zero k)
    rw [hcons, List.length_cons] at hk ⊢
    rw [List.drop_succ_cons]
    cases k with
    | zero =>
      have hanti : (inner deep ls).length ≤ (inner width ls).length := length_inner_anti h
      rw [List.drop_zero]
      omega
    | succ k =>
      have hrest := ih (Nat.lt_of_succ_lt_succ hk)
      omega

end

/-! ## Declarations -/

/-- A line with a name that only forms with a parenthesis find is not blank. -/
theorem isBlank_of_nameOn {l : Language} {line name : Text}
    (hforms : ∀ form ∈ l.functionForms, form.demands '(' = true) (h : nameOn l line = some name) :
    line.isBlank = false := by
  obtain ⟨form, hform, hname⟩ := List.exists_of_findSome?_eq_some h
  cases hfind : form.find? line with
  | none =>
    rw [hfind] at hname
    cases hname
  | some m =>
    have hmem := Pattern.mem_of_find? (hforms form hform) hfind
    rw [Text.isBlank, List.all_eq_false]
    exact ⟨'(', hmem, by decide⟩

/-- The forms of Python demand a parenthesis. -/
theorem demands_python : ∀ form ∈ Language.python.functionForms, form.demands '(' = true :=
  List.all_eq_true.mp (by decide +kernel)

/-! ## The functions of a source -/

/-- The lines of a function behind its first one, by indentation: those that are blank or deeper, up
to the last of them that is not blank. -/
def body (p : Prepared) (f : FunctionSpan) : List Text :=
  inner (p.maskedLines.getD (f.startLine - 1) []).indentWidth (p.maskedLines.drop f.startLine)

/-- Functions start one below the other. -/
theorem all_pairwise (p : Prepared) (patience : Int) :
    (all p patience).Pairwise fun f g => f.startLine < g.startLine := by
  refine List.Pairwise.filterMap _ ?_ (Text.pairwise_zipIdx p.maskedLines)
  rintro ⟨row, i⟩ ⟨other, j⟩ hlt f hf g hg
  obtain ⟨_, -, rfl⟩ := Option.map_eq_some_iff.mp hf
  obtain ⟨_, -, rfl⟩ := Option.map_eq_some_iff.mp hg
  exact Nat.succ_lt_succ hlt

section
variable {p : Prepared} {patience : Int} {f g : FunctionSpan}

/-- An indented function ends with its body. -/
theorem endLine_eq (hindented : p.language.usesBraces = false) (hf : f ∈ all p patience) :
    f.endLine = f.startLine + (f.body p).length := by
  obtain ⟨i, line, name, -, -, rfl⟩ := exists_of_mem_all hf
  have hreach : reach p patience i =
      (inner (p.maskedLines.getD i []).indentWidth (p.maskedLines.drop (i + 1))).length := by
    rw [reach, hindented, if_neg Bool.false_ne_true, indentReach_eq]
    split
    · next hnil => rw [hnil, List.length_nil]
    · exact Nat.zero_add _
  show i + reach p patience i + 1 = i + 1 + (inner (p.maskedLines.getD i []).indentWidth
    (p.maskedLines.drop (i + 1))).length
  rw [hreach]
  omega

/-- Of two indented functions the later one lies behind the other or within it. -/
theorem apart_or_within (hindented : p.language.usesBraces = false)
    (hforms : ∀ form ∈ p.language.functionForms, form.demands '(' = true)
    (hf : f ∈ all p patience) (hg : g ∈ all p patience) (hlt : f.startLine < g.startLine) :
    f.endLine < g.startLine ∨ g.endLine ≤ f.endLine := by
  rw [endLine_eq hindented hf, endLine_eq hindented hg]
  obtain ⟨i, _, _, -, -, rfl⟩ := exists_of_mem_all hf
  obtain ⟨j, other, name, hother, hname, rfl⟩ := exists_of_mem_all hg
  have hij : i < j := Nat.lt_of_succ_lt_succ hlt
  obtain ⟨k, rfl⟩ := Nat.exists_eq_add_of_lt hij
  simp only [body, Nat.add_sub_cancel]
  have hgrow : (p.maskedLines.getD (i + k + 1) []).indentWidth = other.indentWidth := by
    rw [List.getD_eq_getElem?_getD, hother, Option.getD_some]
  have hdrop : p.maskedLines.drop (i + k + 1 + 1) = (p.maskedLines.drop (i + 1)).drop (k + 1) := by
    rw [List.drop_drop]
    congr 1
    omega
  rw [hgrow, hdrop]
  generalize (p.maskedLines.getD i []).indentWidth = width
  by_cases hk : k < (inner width (p.maskedLines.drop (i + 1))).length
  · -- the later function starts on an inner line, which is not blank and so deeper
    have hrow : (inner width (p.maskedLines.drop (i + 1)))[k] = other := by
      have hfront := (inner_isPrefix width (p.maskedLines.drop (i + 1))).getElem hk
      have hline : (p.maskedLines.drop (i + 1))[k]? = some other := by
        rw [List.getElem?_drop, ← hother]
        congr 1
        omega
      rw [hfront]
      exact (List.getElem?_eq_some_iff.mp hline).2
    have hdeeper : width < other.indentWidth := by
      rcases mem_inner (hrow ▸ List.getElem_mem hk) with hblank | hdeeper
      · rw [isBlank_of_nameOn hforms hname] at hblank
        cases hblank
      · exact hdeeper
    have hwithin := length_inner_le hdeeper.le hk
    exact .inr (by omega)
  · exact .inl (by omega)

end

/-- The functions of a source start one below the other, and each lies on lines of the source and ends
no earlier than it starts, in every language and however long a block is waited for. A function of
Python ends with the last line that is not blank of those behind its first one that are blank or
deeper, and with its first one if there is none. Of two functions of Python the later one lies behind
the other or within it. -/
theorem functions_in_order (l : Language) (t : Text) (patience : Int) :
    ((all (prepare l t) patience).Pairwise fun f g => f.startLine < g.startLine) ∧
      (∀ f ∈ all (prepare l t) patience,
        1 ≤ f.startLine ∧ f.startLine ≤ f.endLine ∧ f.endLine ≤ t.lines.length) ∧
      (∀ f ∈ all (prepare Language.python t) patience,
        f.endLine = f.startLine + (f.body (prepare Language.python t)).length) ∧
      (all (prepare Language.python t) patience).Pairwise fun f g =>
        f.endLine < g.startLine ∨ g.endLine ≤ f.endLine := by
  refine ⟨all_pairwise _ patience, fun f hf => ?_, fun f hf => endLine_eq rfl hf, ?_⟩
  · have hlies := lies_of_mem_all hf
    exact ⟨hlies.first, hlies.ordered, hlies.last⟩
  · exact (all_pairwise _ patience).imp_of_mem fun hf hg hlt =>
      apart_or_within rfl demands_python hf hg hlt

/-- A function with another one in it and a line behind that one, and a third one behind both. -/
def layered : Text :=
  "def f(a):\n    def g():\n        pass\n\n    return g\n\ndef h(): pass\n".toList

/-- The first function goes on behind the second one, and the third one is a line of its own. -/
theorem functions_in_order_layered :
    (all (prepare Language.python layered) 1).map (fun f => (f.startLine, f.endLine)) =
        [(1, 5), (2, 3), (7, 7)] ∧
      (∃ f ∈ all (prepare Language.python layered) 1, f.startLine = 1 ∧
        f.endLine = 1 + (f.body (prepare Language.python layered)).length ∧
        f.endLine ≤ layered.lines.length) ∧
      (all (prepare Language.python layered) 1).Pairwise fun f g =>
        f.endLine < g.startLine ∨ g.endLine ≤ f.endLine := by
  have hall : all (prepare Language.python layered) 1 = [⟨"f", 1, 5⟩, ⟨"g", 2, 3⟩, ⟨"h", 7, 7⟩] := by
    decide +kernel
  have hf : ⟨"f", 1, 5⟩ ∈ all (prepare Language.python layered) 1 := hall ▸ List.mem_cons_self
  obtain ⟨-, hlies, hends, hnested⟩ := functions_in_order Language.python layered 1
  exact ⟨by rw [hall]; rfl, ⟨_, hf, rfl, hends _ hf, (hlies _ hf).2.2⟩, hnested⟩

end FunctionSpan
end SourceAudit
