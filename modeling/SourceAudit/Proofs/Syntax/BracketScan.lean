import Mathlib.Data.List.Perm.Subperm
import SourceAudit.Syntax.Bracket

/-!
  The stack of the bracket scan against well-nested words.

  What is proved of `Bracket.scan`, for any brackets and any brackets open
  before them:
    1. `scan_append` — brackets in two parts are scanned one part after the other.
    2. `scan_wellNested`, `closes_of_scan` and from both `scan_clean_iff` — nothing
       is found and nothing stays open exactly if the characters of the brackets
       are a well-nested word.
    3. `scan_balance` — the open brackets left, less the unexpected closing ones,
       are the opening ones less the closing ones, balanced or not.
    4. `scan_places` — findings and open brackets left stand at places of brackets
       that were gone through, each place once.
-/
namespace SourceAudit
open scoped List

/-- The well-nested words over the three kinds of brackets. -/
inductive WellNested : Text → Prop where
  | nil : WellNested []
  | enclose (k : BracketKind) {w : Text} :
      WellNested w → WellNested (k.opener :: w ++ [k.closer])
  | append {v w : Text} : WellNested v → WellNested w → WellNested (v ++ w)

/-- What is missing behind some open brackets, latest first: a well-nested word, then the closing
bracket of the latest, and so on, and a well-nested word behind the last. -/
inductive Closes : List BracketKind → Text → Prop where
  | done {w : Text} : WellNested w → Closes [] w
  | close {k : BracketKind} {ks : List BracketKind} {w v : Text} :
      WellNested w → Closes ks v → Closes (k :: ks) (w ++ k.closer :: v)

theorem Closes.prepend {ks : List BracketKind} {u v : Text} (hu : WellNested u)
    (hv : Closes ks v) : Closes ks (u ++ v) := by
  cases hv with
  | done hw => exact .done (.append hu hw)
  | close hw hv =>
    rw [← List.append_assoc]
    exact .close (.append hu hw) hv

/-- The line and the column of a finding. -/
def SyntaxFinding.place (f : SyntaxFinding) : Int × Int := (f.line, f.column)

namespace BracketKind

theorem opener_injective {a b : BracketKind} (h : a.opener = b.opener) : a = b := by
  revert h
  cases a <;> cases b <;> decide

theorem closer_injective {a b : BracketKind} (h : a.closer = b.closer) : a = b := by
  revert h
  cases a <;> cases b <;> decide

theorem opener_ne_closer (a b : BracketKind) : a.opener ≠ b.closer := by
  cases a <;> cases b <;> decide

end BracketKind

namespace Bracket

/-- The character of a bracket. -/
def char (b : Bracket) : Char := if b.opens then b.kind.opener else b.kind.closer

/-- The line and the column of a bracket. -/
def place (b : Bracket) : Int × Int := (b.line, b.column)

theorem eq_of_char_opener {b : Bracket} {k : BracketKind} (h : b.char = k.opener) :
    b.opens = true ∧ b.kind = k := by
  unfold char at h
  split at h
  · rename_i ho
    exact ⟨ho, BracketKind.opener_injective h⟩
  · exact absurd h.symm (BracketKind.opener_ne_closer k b.kind)

theorem eq_of_char_closer {b : Bracket} {k : BracketKind} (h : b.char = k.closer) :
    b.opens = false ∧ b.kind = k := by
  unfold char at h
  split at h
  · exact absurd h (BracketKind.opener_ne_closer b.kind k)
  · rename_i ho
    exact ⟨by simpa using ho, BracketKind.closer_injective h⟩

/-! ## One bracket, and brackets in two parts -/

theorem scan_open {b : Bracket} (h : b.opens = true) (stack rest : List Bracket) :
    scan stack (b :: rest) = scan (b :: stack) rest := by
  simp [scan, h]

theorem scan_close_nil {b : Bracket} (h : b.opens = false) (rest : List Bracket) :
    scan [] (b :: rest) = (unexpected b :: (scan [] rest).1, (scan [] rest).2) := by
  simp [scan, h]

theorem scan_close_cons {b o : Bracket} (h : b.opens = false) (below rest : List Bracket) :
    scan (o :: below) (b :: rest) =
      (if o.kind = b.kind then (scan below rest).1 else mismatched o b :: (scan below rest).1,
        (scan below rest).2) := by
  simp [scan, h]

theorem scan_append (stack bs cs : List Bracket) :
    scan stack (bs ++ cs) =
      ((scan stack bs).1 ++ (scan (scan stack bs).2 cs).1, (scan (scan stack bs).2 cs).2) := by
  induction bs generalizing stack with
  | nil => simp [scan]
  | cons b rest ih =>
    cases hb : b.opens with
    | true => simp only [List.cons_append, scan_open hb, ih]
    | false =>
      cases stack with
      | nil => simp only [List.cons_append, scan_close_nil hb, ih]
      | cons o below =>
        simp only [List.cons_append, scan_close_cons hb, ih]
        split <;> rfl

/-! ## Nothing is found exactly on the well-nested words -/

/-- A well-nested word leaves the open brackets as they are, and nothing is found on it. -/
theorem scan_wellNested {w : Text} (hw : WellNested w) {bs : List Bracket}
    (h : bs.map char = w) (stack : List Bracket) : scan stack bs = ([], stack) := by
  induction hw generalizing bs stack with
  | nil => simp [List.map_eq_nil_iff.mp h, scan]
  | append _ _ ihv ihw =>
    obtain ⟨xs, ys, rfl, hx, hy⟩ := List.map_eq_append_iff.mp h
    rw [scan_append, ihv hx, ihw hy]
    rfl
  | enclose k _ ih =>
    obtain ⟨xs, ys, rfl, hx, hy⟩ := List.map_eq_append_iff.mp h
    obtain ⟨b, inner, rfl, hb, hinner⟩ := List.map_eq_cons_iff.mp hx
    obtain ⟨c, rest, rfl, hc, hrest⟩ := List.map_eq_cons_iff.mp hy
    obtain rfl := List.map_eq_nil_iff.mp hrest
    obtain ⟨hbo, hbk⟩ := eq_of_char_opener hb
    obtain ⟨hco, hck⟩ := eq_of_char_closer hc
    rw [List.cons_append, scan_open hbo, scan_append, ih hinner, scan_close_cons hco]
    simp [hbk, hck, scan]

/-- Brackets on which nothing is found and that leave nothing open close what was open. -/
theorem closes_of_scan {bs stack : List Bracket} (h : scan stack bs = ([], [])) :
    Closes (stack.map kind) (bs.map char) := by
  induction bs generalizing stack with
  | nil =>
    have hs : stack = [] := by simpa [scan] using h
    subst hs
    exact .done .nil
  | cons b rest ih =>
    cases hb : b.opens with
    | true =>
      rw [scan_open hb] at h
      have hc : b.char = b.kind.opener := by simp [char, hb]
      -- what closes the new bracket is enclosed by it, and the rest closes the older ones
      have hrest := ih h
      rw [List.map_cons] at hrest
      generalize hks : stack.map kind = ks at hrest
      generalize htext : rest.map char = text at hrest
      cases hrest with
      | @close _ _ w v hw hv =>
        rw [List.map_cons, hc, htext]
        have henc : WellNested (b.kind.opener :: w ++ [b.kind.closer]) := .enclose b.kind hw
        simpa using hv.prepend henc
    | false =>
      have hc : b.char = b.kind.closer := by simp [char, hb]
      cases stack with
      | nil =>
        rw [scan_close_nil hb] at h
        simp at h
      | cons o below =>
        rw [scan_close_cons hb] at h
        by_cases hk : o.kind = b.kind
        · have hscan : scan below rest = ([], []) := by simpa [hk, Prod.ext_iff] using h
          rw [List.map_cons, List.map_cons, hc, hk]
          exact .close .nil (ih hscan)
        · simp [hk] at h

theorem scan_clean_iff {bs : List Bracket} :
    scan [] bs = ([], []) ↔ WellNested (bs.map char) := by
  constructor
  · intro h
    cases closes_of_scan h with
    | done hw => exact hw
  · intro h
    exact scan_wellNested h rfl []

/-! ## The balance of any brackets -/

/-- Open brackets left and closing ones gone through are the brackets open before, the opening
ones gone through, and the unexpected ones. -/
theorem scan_balance (stack bs : List Bracket) :
    (scan stack bs).2.length + bs.countP (fun b => !b.opens) =
      stack.length + bs.countP (·.opens) +
        (scan stack bs).1.countP (·.code == "UNEXPECTED_BRACKET") := by
  induction bs generalizing stack with
  | nil => simp [scan]
  | cons b rest ih =>
    cases hb : b.opens with
    | true =>
      rw [scan_open hb]
      have := ih (b :: stack)
      simp only [List.countP_cons, hb, List.length_cons] at this ⊢
      simp only [Bool.not_true, Bool.false_eq_true, if_false, if_true]
      omega
    | false =>
      cases stack with
      | nil =>
        rw [scan_close_nil hb]
        have := ih []
        simp only [List.countP_cons, hb, unexpected] at this ⊢
        simp only [Bool.not_false, Bool.false_eq_true, if_false, if_true, beq_self_eq_true]
        omega
      | cons o below =>
        rw [scan_close_cons hb]
        have := ih below
        have hm : (mismatched o b).code ≠ "UNEXPECTED_BRACKET" := by simp [mismatched]
        simp only [List.countP_cons, hb, List.length_cons, Bool.not_false, Bool.false_eq_true,
          if_false, if_true]
        split
        · omega
        · rw [List.countP_cons_of_neg (by simpa using hm)]
          omega

/-! ## The places of findings -/

/-- Each finding stands where a bracket stood, and no bracket is both found and left open or
counted twice. -/
theorem scan_places (stack bs : List Bracket) :
    ∃ closing : List Bracket,
      (scan stack bs).1.map SyntaxFinding.place = closing.map place ∧
        closing ++ (scan stack bs).2 <+~ stack ++ bs := by
  induction bs generalizing stack with
  | nil => exact ⟨[], rfl, by simpa [scan] using List.Subperm.refl stack⟩
  | cons b rest ih =>
    cases hb : b.opens with
    | true =>
      obtain ⟨closing, hplace, hsub⟩ := ih (b :: stack)
      rw [scan_open hb]
      exact ⟨closing, hplace, hsub.trans List.perm_middle.symm.subperm⟩
    | false =>
      cases stack with
      | nil =>
        obtain ⟨closing, hplace, hsub⟩ := ih []
        rw [scan_close_nil hb]
        refine ⟨b :: closing, ?_, (List.subperm_cons b).mpr hsub⟩
        rw [List.map_cons, List.map_cons, hplace]
        rfl
      | cons o below =>
        obtain ⟨closing, hplace, hsub⟩ := ih below
        rw [scan_close_cons hb]
        by_cases hk : o.kind = b.kind
        · -- the closing bracket and the one it closes are both gone
          have hdrop : below ++ rest <+ o :: below ++ b :: rest :=
            ((List.sublist_cons_self b rest).append_left below).cons o
          refine ⟨closing, by simp only [hk, if_true, hplace], hsub.trans hdrop.subperm⟩
        · -- the closing bracket is found, the one it takes away is gone
          have hdrop : below ++ b :: rest <+ o :: below ++ b :: rest := List.sublist_cons_self o _
          refine ⟨b :: closing, ?_, ?_⟩
          · simp only [hk, if_false, List.map_cons, hplace]
            rfl
          · have hcons : b :: (closing ++ (scan below rest).2) <+~ b :: (below ++ rest) :=
              (List.subperm_cons b).mpr hsub
            exact (hcons.trans List.perm_middle.symm.subperm).trans hdrop.subperm

end Bracket
end SourceAudit
