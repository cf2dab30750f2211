import Mathlib.Data.List.Nodup
import SourceAudit.Language.JavaScript
import SourceAudit.Language.TypeScript
import SourceAudit.Proofs.Syntax.BracketReport

/-!
  Closing what a syntax report finds open.

  A bracket that is never closed is found with a quick fix that names its closing
  bracket. What is proved:
    1. `scan_left_sublist` — the brackets left open by a scan stand on its stack in
       the reverse of the order in which they were gone through.
    2. `scan_closers` — their closing brackets, in the order of the stack, close
       them all.
    3. `unclosed_of_isSortedBack` — a report on nothing but unclosed brackets, read
       from the last place to the first, is that stack.
    4. `quickFixes_close` — so a last line of the closing brackets that the quick
       fixes name, that of the last place first, leaves no bracket to be found.
-/
namespace SourceAudit
open scoped List

namespace Bracket

/-- What is left open stands in reverse order, before what was open already. -/
theorem scan_left_sublist (stack bs : List Bracket) :
    (scan stack bs).2 <+ bs.reverse ++ stack := by
  induction bs generalizing stack with
  | nil => exact List.Sublist.refl _
  | cons b rest ih =>
    rw [List.reverse_cons, List.append_assoc, List.singleton_append]
    cases hb : b.opens with
    | true =>
      rw [scan_open hb]
      exact ih (b :: stack)
    | false =>
      cases stack with
      | nil =>
        rw [scan_close_nil hb]
        exact (ih []).trans ((List.nil_sublist [b]).append_left _)
      | cons o below =>
        rw [scan_close_cons hb]
        have hdrop : below <+ b :: o :: below := (List.sublist_cons_self o below).cons b
        exact (ih below).trans (hdrop.append_left _)

/-- The closing brackets of the open ones, latest first, close them all, and nothing is found. -/
theorem scan_closers {stack bs : List Bracket}
    (h : bs.map char = stack.map fun o => o.kind.closer) : scan stack bs = ([], []) := by
  induction stack generalizing bs with
  | nil =>
    rw [List.map_eq_nil_iff.mp h]
    rfl
  | cons o below ih =>
    obtain ⟨b, rest, rfl, hb, hrest⟩ := List.map_eq_cons_iff.mp h
    obtain ⟨hcloses, hkind⟩ := eq_of_char_closer hb
    rw [scan_close_cons hcloses, ih hrest, if_pos hkind.symm]

theorem isBracket_closer (k : BracketKind) : isBracket k.closer = true := by
  cases k <;> decide

theorem ofLines_append (number : Nat) (ls ms : List Text) :
    ofLines number (ls ++ ms) = ofLines number ls ++ ofLines (number + ls.length) ms := by
  induction ls generalizing number with
  | nil => rfl
  | cons line ls ih =>
    rw [List.cons_append, ofLines, ofLines, ih, List.append_assoc, List.length_cons,
      Nat.add_assoc, Nat.add_comm 1]

theorem shown_inj {c d : Char} (h : shown c = shown d) : c = d := by
  have htext := String.ofList_injective h
  simpa using htext

end Bracket

/-! ## What a report asks for -/

/-- Whether the quick fix of a finding names a closing bracket. -/
def SyntaxFinding.AsksFor (f : SyntaxFinding) (c : Char) : Prop :=
  f.quickFix = some ("Add closing " ++ Bracket.shown c)

theorem SyntaxFinding.AsksFor.unique {f : SyntaxFinding} {c d : Char} (hc : f.AsksFor c)
    (hd : f.AsksFor d) : c = d := by
  have htext := Option.some.inj (hc.symm.trans hd)
  exact Bracket.shown_inj (String.append_right_inj _ |>.mp htext)

/-- Whether findings go from the last place to the first. -/
def SyntaxFinding.IsSortedBack (fs : List SyntaxFinding) : Prop :=
  fs.Pairwise fun a b => SyntaxCheck.precedes b a = true

/-- Whether a line is made of the closing brackets that the quick fixes of the bracket findings
name, that of the last place first. -/
def SyntaxReport.IsClosedBy (r : SyntaxReport) (line : Text) : Prop :=
  ∃ fs, fs ~ r.bracketFindings ∧ SyntaxFinding.IsSortedBack fs ∧
    List.Forall₂ SyntaxFinding.AsksFor fs line

namespace SyntaxCheck
open SourceAudit.Bracket

variable {l : Language} {t : Text}

theorem precedes_iff (f g : SyntaxFinding) :
    precedes f g = true ↔ f.line < g.line ∨ (f.line = g.line ∧ f.column ≤ g.column) := by
  simp [precedes]

/-- The findings of the brackets that a scan leaves open go from the last place to the first. -/
theorem isSortedBack_unclosed (number : Nat) (ls : List Text) :
    SyntaxFinding.IsSortedBack ((scan [] (ofLines number ls)).2.map unclosed) := by
  have hrising : (ofLines number ls).reverse.Pairwise fun a b => Before b a :=
    List.pairwise_reverse.mpr (ofLines_rising number ls)
  have hsub := scan_left_sublist [] (ofLines number ls)
  rw [List.append_nil] at hsub
  rw [SyntaxFinding.IsSortedBack, List.pairwise_map]
  refine (hrising.sublist hsub).imp fun {a b} h => (precedes_iff _ _).mpr ?_
  rcases h with hline | ⟨hline, hcolumn⟩
  · exact .inl (Int.ofNat_lt.mpr hline)
  · exact .inr ⟨congrArg Nat.cast hline, Int.ofNat_le.mpr (Nat.le_of_lt hcolumn)⟩

/-- If a report finds nothing but unclosed brackets, the scan finds nothing else. -/
theorem scan_found_eq_nil
    (h : ∀ f ∈ (ofSource (prepare l t)).bracketFindings, f.code = "UNCLOSED_BRACKET") :
    (scan [] (ofLines 1 (prepare l t).maskedLines)).1 = [] := by
  refine List.eq_nil_iff_forall_not_mem.mpr fun f hf => ?_
  have hcode := h f ((bracketFindings_perm l t).mem_iff.mpr (List.mem_append_left _ hf))
  rcases code_of_mem_scan hf with hother | hother <;> simp [hcode] at hother

/-- Read from the last place to the first, such a report is the stack that the scan leaves. -/
theorem unclosed_of_isSortedBack
    (h : ∀ f ∈ (ofSource (prepare l t)).bracketFindings, f.code = "UNCLOSED_BRACKET")
    {fs : List SyntaxFinding} (hperm : fs ~ (ofSource (prepare l t)).bracketFindings)
    (hsorted : SyntaxFinding.IsSortedBack fs) :
    fs = (scan [] (ofLines 1 (prepare l t).maskedLines)).2.map unclosed := by
  have hall := bracketFindings_perm l t
  rw [scan_found_eq_nil h, List.nil_append] at hall
  -- no two findings stand at one place, so there is one such order
  obtain ⟨places, hplaces, hsub⟩ := bracketFindings_places l t
  have hnodup : (fs.map SyntaxFinding.place).Nodup :=
    (hplaces.trans (hperm.map _).symm).nodup_iff.mp
      (hsub.nodup (ofLines_places_nodup 1 _))
  refine (hperm.trans hall).eq_of_pairwise (fun a b ha hb hab hba => ?_) hsorted
    (isSortedBack_unclosed 1 _)
  rw [precedes_iff] at hab hba
  have hplace : a.place = b.place := Prod.ext (by dsimp only [SyntaxFinding.place]; omega)
    (by dsimp only [SyntaxFinding.place]; omega)
  exact List.inj_on_of_nodup_map hnodup ha ((hperm.trans hall).mem_iff.mpr hb) hplace

/-- The closing brackets of a stack of open brackets are what the findings about these ask for, and
nothing else is. -/
theorem asksFor_unclosed_iff (stack : List Bracket) (line : Text) :
    List.Forall₂ SyntaxFinding.AsksFor (stack.map unclosed) line ↔
      line = stack.map fun o => o.kind.closer := by
  induction stack generalizing line with
  | nil => simp
  | cons o below ih =>
    rw [List.map_cons, List.map_cons, List.forall₂_cons_left_iff]
    constructor
    · rintro ⟨c, rest, hc, hrest, rfl⟩
      have ho : (unclosed o).AsksFor o.kind.closer := rfl
      rw [hc.unique ho, (ih rest).mp hrest]
    · rintro rfl
      exact ⟨_, _, rfl, (ih _).mpr rfl, rfl⟩

/-- What closes a report on nothing but unclosed brackets is one line: the closing brackets of the
stack that the scan leaves. -/
theorem isClosedBy_iff
    (h : ∀ f ∈ (ofSource (prepare l t)).bracketFindings, f.code = "UNCLOSED_BRACKET")
    (line : Text) :
    (ofSource (prepare l t)).IsClosedBy line ↔
      line = (scan [] (ofLines 1 (prepare l t).maskedLines)).2.map fun o => o.kind.closer := by
  constructor
  · rintro ⟨fs, hperm, hsorted, hline⟩
    rw [unclosed_of_isSortedBack h hperm hsorted] at hline
    exact (asksFor_unclosed_iff _ line).mp hline
  · intro hline
    have hall := bracketFindings_perm l t
    rw [scan_found_eq_nil h, List.nil_append] at hall
    exact ⟨_, hall.symm, isSortedBack_unclosed 1 _, (asksFor_unclosed_iff _ line).mpr hline⟩

/-- Closing what is found open. If the bracket findings on a source are all of unclosed brackets,
their quick fixes name the brackets of exactly one line, that of the last place first; and on any
source with the masked lines of the first and this line behind them, in whatever language, no
bracket is found. -/
theorem quickFixes_close (l : Language) (t : Text)
    (h : ∀ f ∈ (ofSource (prepare l t)).bracketFindings, f.code = "UNCLOSED_BRACKET") :
    (∃! line, (ofSource (prepare l t)).IsClosedBy line) ∧
      ∀ (line : Text) (m : Language) (u : Text), (ofSource (prepare l t)).IsClosedBy line →
        (prepare m u).maskedLines = (prepare l t).maskedLines ++ [line] →
          (ofSource (prepare m u)).bracketFindings = [] := by
  refine ⟨⟨_, (isClosedBy_iff h _).mpr rfl, fun line => (isClosedBy_iff h line).mp⟩, ?_⟩
  intro line m u hline hlines
  obtain rfl := (isClosedBy_iff h line).mp hline
  have hperm := bracketFindings_perm m u
  have hfound := scan_found_eq_nil h
  rw [hlines, ofLines_append, scan_append] at hperm
  generalize scan [] (ofLines 1 (prepare l t).maskedLines) = first at hperm hfound
  -- the brackets of the last line are its characters
  have hclosers : ∀ number, (ofLines number [first.2.map fun o => o.kind.closer]).map char =
      first.2.map fun o => o.kind.closer := by
    intro number
    rw [ofLines_char, List.flatMap_singleton, List.filter_eq_self]
    intro c hc
    obtain ⟨o, -, rfl⟩ := List.mem_map.mp hc
    exact isBracket_closer o.kind
  rw [scan_closers (hclosers _), hfound] at hperm
  exact hperm.eq_nil

/-- Four brackets of all kinds left open on two lines, and one in a literal. -/
def leftOpen : Text := "f(a[0], \x7b\n  g('\x7d', [1,".toList

/-- They are closed by the line that goes back through them. -/
theorem quickFixes_close_leftOpen :
    (∀ f ∈ (ofSource (prepare .javaScript leftOpen)).bracketFindings,
        f.code = "UNCLOSED_BRACKET") ∧
      (ofSource (prepare .javaScript leftOpen)).bracketFindings.length = 4 ∧
      (ofSource (prepare .javaScript leftOpen)).IsClosedBy "])\x7d)".toList ∧
      (prepare .typeScript (leftOpen ++ "\n])\x7d)".toList)).maskedLines =
        (prepare .javaScript leftOpen).maskedLines ++ ["])\x7d)".toList] ∧
      (ofSource (prepare .typeScript (leftOpen ++ "\n])\x7d)".toList))).bracketFindings = [] := by
  have hscan : scan [] (ofLines 1 (prepare .javaScript leftOpen).maskedLines) =
      ([], [⟨.square, true, 2, 10⟩, ⟨.round, true, 2, 4⟩, ⟨.curly, true, 1, 9⟩,
        ⟨.round, true, 1, 2⟩]) := by
    decide +kernel
  have hperm := bracketFindings_perm .javaScript leftOpen
  rw [hscan] at hperm
  have hopen : ∀ f ∈ (ofSource (prepare .javaScript leftOpen)).bracketFindings,
      f.code = "UNCLOSED_BRACKET" := by
    intro f hf
    obtain ⟨b, -, rfl⟩ := List.mem_map.mp (hperm.mem_iff.mp hf)
    rfl
  have hline : (ofSource (prepare .javaScript leftOpen)).IsClosedBy "])\x7d)".toList := by
    rw [isClosedBy_iff hopen, hscan]
    decide
  have hlines : (prepare .typeScript (leftOpen ++ "\n])\x7d)".toList)).maskedLines =
      (prepare .javaScript leftOpen).maskedLines ++ ["])\x7d)".toList] := by
    decide +kernel
  exact ⟨hopen, hperm.length_eq, hline, hlines,
    (quickFixes_close .javaScript leftOpen hopen).2 _ .typeScript _ hline hlines⟩

end SyntaxCheck
end SourceAudit
