import Mathlib.Data.List.Perm.Subperm
import SourceAudit.Proofs.Source.PreparedLines
import SourceAudit.Proofs.Syntax.BracketScan
import SourceAudit.Syntax.Check

/-!
  The bracket findings of a syntax report.

  The check goes line by line and mixes findings about brackets with others.
  What is proved, from `Bracket.scan` over the brackets of all lines in a row:
    1. `ofLines_char`, `mem_ofLines`, `ofLines_rising` — these brackets are the
       bracket characters of the text in their order, each at its own place.
    2. `scanFrom_brackets` — going line by line finds the same and leaves the same
       open as one scan over them.
    3. `bracketFindings_perm` — the bracket findings of a report are those of that
       scan and one for each bracket it leaves open.
    4. `report_brackets` — a report without bracket findings is one on a well-nested
       text; unclosed less unexpected brackets are opening less closing ones; each
       finding stands at a bracket, no two at the same one; errors go by place.
-/
namespace SourceAudit
open scoped List

/-! ## Bracket characters -/

namespace Bracket

/-- Whether a character is an opening bracket. -/
def isOpener (c : Char) : Bool := BracketKind.all.any fun k => k.opener == c

/-- Whether a character is a closing bracket. -/
def isCloser (c : Char) : Bool := BracketKind.all.any fun k => k.closer == c

/-- Whether a character is a bracket. -/
def isBracket (c : Char) : Bool := isOpener c || isCloser c

theorem isBlank_of_isBracket {c : Char} (h : isBracket c = true) : Unicode.isBlank c = false := by
  rcases Bool.or_eq_true_iff.mp h with h | h
  · obtain ⟨k, _, hk⟩ := List.any_eq_true.mp h
    obtain rfl := beq_iff_eq.mp hk
    cases k <;> decide
  · obtain ⟨k, _, hk⟩ := List.any_eq_true.mp h
    obtain rfl := beq_iff_eq.mp hk
    cases k <;> decide

theorem isOpener_char (b : Bracket) : isOpener b.char = b.opens := by
  obtain ⟨kind, opens, line, column⟩ := b
  cases kind <;> cases opens <;> rfl

theorem isCloser_char (b : Bracket) : isCloser b.char = !b.opens := by
  obtain ⟨kind, opens, line, column⟩ := b
  cases kind <;> cases opens <;> rfl

theorem isBracket_char (b : Bracket) : isBracket b.char = true := by
  rw [isBracket, isOpener_char, isCloser_char, Bool.or_not_self]

/-- Counting brackets of a sort is counting their characters in the text they come from. -/
theorem countP_char {p : Char → Bool} (hp : ∀ c, p c = true → isBracket c = true)
    {bs : List Bracket} {t : Text} (h : bs.map char = t.filter isBracket) :
    bs.countP (fun b => p b.char) = t.countP p := by
  calc bs.countP (fun b => p b.char)
      = (bs.map char).countP p := by rw [List.countP_map]; rfl
    _ = t.countP fun c => p c && isBracket c := by rw [h, List.countP_filter]
    _ = t.countP p := List.countP_congr fun c _ => by
        cases hc : p c
        · simp
        · simp [hp c hc]

/-- A character is taken for a bracket exactly if it is one, at its own place. -/
theorem ofChar?_spec (c : Char) (line column : Nat) :
    (ofChar? c line column).isSome = isBracket c ∧
      ∀ b ∈ ofChar? c line column, b.char = c ∧ b.line = line ∧ b.column = column := by
  unfold ofChar?
  split
  · rename_i k hk
    have hc : k.opener = c := by simpa using List.find?_some hk
    have ho : isOpener c = true := by
      rw [isOpener, List.any_eq_true]
      exact ⟨k, List.mem_of_find?_eq_some hk, by simpa using hc⟩
    refine ⟨by simp [isBracket, ho], fun b hb => ?_⟩
    obtain rfl := Option.mem_some_iff.mp hb
    exact ⟨hc, rfl, rfl⟩
  · rename_i hnone
    have ho : isOpener c = false := by
      rw [isOpener, List.any_eq_false]
      exact fun k hk => by simpa using List.find?_eq_none.mp hnone k hk
    refine ⟨?_, ?_⟩
    · rw [isBracket, ho, Bool.false_or, Option.isSome_map, Bool.eq_iff_iff, List.find?_isSome,
        isCloser, List.any_eq_true]
    · intro b hb
      obtain ⟨k, hk, rfl⟩ := Option.map_eq_some_iff.mp hb
      have hc : k.closer = c := by simpa using List.find?_some hk
      exact ⟨hc, rfl, rfl⟩

theorem ofChar?_char (c : Char) (line column : Nat) :
    (ofChar? c line column).toList.map char = if isBracket c then [c] else [] := by
  obtain ⟨hsome, hspec⟩ := ofChar?_spec c line column
  cases h : ofChar? c line column with
  | none => simp [← hsome, h]
  | some b => simp [← hsome, h, (hspec b h).1]

/-! ## The brackets of a line -/

theorem onLineFrom_char (line column : Nat) (t : Text) :
    (onLineFrom line column t).map char = t.filter isBracket := by
  induction t generalizing column with
  | nil => rfl
  | cons c rest ih =>
    rw [onLineFrom, List.map_append, ofChar?_char, ih, List.filter_cons]
    split <;> simp

theorem mem_onLineFrom {line column : Nat} {t : Text} {b : Bracket}
    (h : b ∈ onLineFrom line column t) :
    b.line = line ∧ ∃ i, t[i]? = some b.char ∧ b.column = column + i := by
  induction t generalizing column with
  | nil => cases h
  | cons c rest ih =>
    rcases List.mem_append.mp h with h | h
    · obtain ⟨hc, hl, hcol⟩ := (ofChar?_spec c line column).2 b (by simpa using h)
      exact ⟨hl, 0, by simp [hc], hcol⟩
    · obtain ⟨hl, i, hi, hcol⟩ := ih h
      exact ⟨hl, i + 1, by simpa using hi, by omega⟩

/-- Whether a bracket stands before another one. -/
def Before (a b : Bracket) : Prop := a.line < b.line ∨ (a.line = b.line ∧ a.column < b.column)

theorem onLineFrom_rising (line column : Nat) (t : Text) :
    (onLineFrom line column t).Pairwise Before := by
  induction t generalizing column with
  | nil => exact .nil
  | cons c rest ih =>
    refine List.pairwise_append.mpr ⟨?_, ih (column + 1), fun a ha b hb => ?_⟩
    · cases ofChar? c line column <;> simp
    · obtain ⟨_, hl, hcol⟩ := (ofChar?_spec c line column).2 a (by simpa using ha)
      obtain ⟨hl', i, _, hcol'⟩ := mem_onLineFrom hb
      exact .inr ⟨by omega, by omega⟩

/-! ## The brackets of all lines -/

/-- The brackets of lines, the first of which has the given number. -/
def ofLines : Nat → List Text → List Bracket
  | _, [] => []
  | number, line :: rest => onLine number line ++ ofLines (number + 1) rest

theorem ofLines_char (number : Nat) (ls : List Text) :
    (ofLines number ls).map char = ls.flatMap fun line => line.filter isBracket := by
  induction ls generalizing number with
  | nil => rfl
  | cons line rest ih =>
    rw [ofLines, List.map_append, onLine, onLineFrom_char, ih, List.flatMap_cons]

theorem mem_ofLines {number : Nat} {ls : List Text} {b : Bracket} (h : b ∈ ofLines number ls) :
    ∃ j row i, ls[j]? = some row ∧ row[i]? = some b.char ∧
      b.line = number + j ∧ b.column = i + 1 := by
  induction ls generalizing number with
  | nil => cases h
  | cons line rest ih =>
    rcases List.mem_append.mp h with h | h
    · obtain ⟨hl, i, hi, hcol⟩ := mem_onLineFrom h
      exact ⟨0, line, i, rfl, hi, hl, by omega⟩
    · obtain ⟨j, line', i, hj, hi, hl, hcol⟩ := ih h
      exact ⟨j + 1, line', i, by simpa using hj, hi, by omega, hcol⟩

theorem ofLines_rising (number : Nat) (ls : List Text) : (ofLines number ls).Pairwise Before := by
  induction ls generalizing number with
  | nil => exact .nil
  | cons line rest ih =>
    refine List.pairwise_append.mpr ⟨onLineFrom_rising number 1 line, ih (number + 1), ?_⟩
    intro a ha b hb
    obtain ⟨hl, _⟩ := mem_onLineFrom ha
    obtain ⟨j, _, _, _, _, hl', _⟩ := mem_ofLines hb
    exact .inl (by omega)

theorem ofLines_places_nodup (number : Nat) (ls : List Text) :
    ((ofLines number ls).map place).Nodup := by
  rw [List.Nodup, List.pairwise_map]
  refine (ofLines_rising number ls).imp fun {a b} h heq => ?_
  obtain ⟨hline, hcolumn⟩ := Prod.mk.inj heq
  rcases h with h | ⟨_, h⟩ <;> omega

end Bracket

/-- The characters of a text that are no newline, taken line by line. -/
theorem Text.flatMap_splitOn_filter {p : Char → Bool} {sep : Char} (hp : p sep = false) (t : Text) :
    (Text.splitOn sep t).flatMap (fun line => line.filter p) = t.filter p := by
  induction t with
  | nil => rfl
  | cons c rest ih =>
    simp only [Text.splitOn]
    split
    · rename_i h
      have hc : c = sep := by simpa using h
      simp [hc, hp, ih]
    · cases hs : Text.splitOn sep rest with
      | nil => exact absurd hs (Text.splitOn_ne_nil sep rest)
      | cons part parts =>
        rw [hs] at ih
        rw [List.filter_cons, ← ih]
        by_cases hc : p c = true <;> simp [hc]

/-! ## Findings about brackets -/

/-- Whether a finding is about a bracket. -/
def SyntaxFinding.aboutBracket (f : SyntaxFinding) : Bool :=
  ["UNEXPECTED_BRACKET", "MISMATCHED_BRACKET", "UNCLOSED_BRACKET"].contains f.code

/-- The findings of a report that are about brackets. -/
def SyntaxReport.bracketFindings (r : SyntaxReport) : List SyntaxFinding :=
  r.findings.filter (·.aboutBracket)

/-- The findings of a report with a code. -/
def SyntaxReport.countOf (code : String) (r : SyntaxReport) : Nat :=
  r.findings.countP (·.code == code)

/-- Findings with a code that is about brackets are counted among the bracket findings. -/
theorem SyntaxReport.countOf_eq {code : String} (r : SyntaxReport)
    (h : ["UNEXPECTED_BRACKET", "MISMATCHED_BRACKET", "UNCLOSED_BRACKET"].contains code = true) :
    r.countOf code = r.bracketFindings.countP (·.code == code) := by
  rw [SyntaxReport.countOf, SyntaxReport.bracketFindings, List.countP_filter]
  refine List.countP_congr fun f _ => ?_
  by_cases hf : f.code = code
  · simp only [SyntaxFinding.aboutBracket, hf, h, Bool.and_true]
  · simp [hf]

namespace Bracket

/-- A scan finds nothing but unexpected and mismatched brackets. -/
theorem code_of_mem_scan {stack bs : List Bracket} {f : SyntaxFinding}
    (h : f ∈ (scan stack bs).1) :
    f.code = "UNEXPECTED_BRACKET" ∨ f.code = "MISMATCHED_BRACKET" := by
  induction bs generalizing stack with
  | nil => simp [scan] at h
  | cons b rest ih =>
    cases hb : b.opens with
    | true => exact ih (scan_open hb stack rest ▸ h)
    | false =>
      cases stack with
      | nil =>
        rw [scan_close_nil hb] at h
        rcases List.mem_cons.mp h with rfl | h
        · exact .inl rfl
        · exact ih h
      | cons o below =>
        rw [scan_close_cons hb] at h
        split at h
        · exact ih h
        · rcases List.mem_cons.mp h with rfl | h
          · exact .inr rfl
          · exact ih h

theorem aboutBracket_of_mem_scan {stack bs : List Bracket} {f : SyntaxFinding}
    (h : f ∈ (scan stack bs).1) : f.aboutBracket = true := by
  rcases code_of_mem_scan h with hf | hf <;> simp [SyntaxFinding.aboutBracket, hf]

end Bracket

namespace SyntaxCheck
open SourceAudit.Bracket

theorem aboutBracket_missingColon (number : Nat) (line : Text) :
    (missingColon number line).aboutBracket = false := rfl

theorem aboutBracket_missingSemicolon (number : Nat) (line : Text) :
    (missingSemicolon number line).aboutBracket = false := rfl

/-- Going line by line finds the same brackets, and leaves the same open, as one scan over the
brackets of all lines; no warning is about a bracket. -/
theorem scanFrom_brackets (language : String) (number : Nat) (stack : List Bracket)
    (ls : List Text) :
    (scanFrom language number stack ls).1.filter (·.aboutBracket) =
        (scan stack (ofLines number ls)).1 ∧
      (scanFrom language number stack ls).2.2 = (scan stack (ofLines number ls)).2 ∧
      ∀ w ∈ (scanFrom language number stack ls).2.1, w.aboutBracket = false := by
  induction ls generalizing number stack with
  | nil => simp [scanFrom, ofLines, scan]
  | cons line rest ih =>
    obtain ⟨herrors, hleft, hwarnings⟩ := ih (number + 1) (scan stack (onLine number line)).2
    have hfound : (scan stack (onLine number line)).1.filter (·.aboutBracket) =
        (scan stack (onLine number line)).1 :=
      List.filter_eq_self.mpr fun f hf => aboutBracket_of_mem_scan hf
    simp only [scanFrom, ofLines, scan_append]
    refine ⟨?_, hleft, ?_⟩
    · rw [List.filter_append, hfound, ← herrors]
      -- a missing colon, if one is found, is not about a bracket
      split
      · rw [List.filter_cons_of_neg (by simp [aboutBracket_missingColon])]
      · rfl
    · intro w hw
      split at hw
      · rcases List.mem_cons.mp hw with rfl | hw
        · exact aboutBracket_missingSemicolon number line.trimRight
        · exact hwarnings w hw
      · exact hwarnings w hw

/-- The brackets of all lines, in their order, are the bracket characters of the masked text. -/
theorem ofLines_prepare_char (l : Language) (t : Text) :
    (ofLines 1 (prepare l t).maskedLines).map char = (prepare l t).masked.filter isBracket := by
  rw [ofLines_char]
  exact Text.flatMap_splitOn_filter (by decide) (prepare l t).masked

/-- A blank source has no brackets. -/
theorem ofLines_of_isBlank {l : Language} {t : Text} (h : (prepare l t).isBlank = true) :
    ofLines 1 (prepare l t).maskedLines = [] := by
  have hnone : (prepare l t).masked.filter isBracket = [] := by
    rw [List.filter_eq_nil_iff]
    intro c hc hb
    have hblank : Unicode.isBlank c = true := List.all_eq_true.mp (mask_isBlank h) c hc
    rw [isBlank_of_isBracket hb] at hblank
    cases hblank
  exact List.map_eq_nil_iff.mp ((ofLines_prepare_char l t).trans hnone)

/-- The bracket findings of a report are those of one scan over the brackets of all lines, and one
for each bracket that it leaves open. -/
theorem bracketFindings_perm (l : Language) (t : Text) :
    (ofSource (prepare l t)).bracketFindings ~
      (scan [] (ofLines 1 (prepare l t).maskedLines)).1 ++
        (scan [] (ofLines 1 (prepare l t).maskedLines)).2.map unclosed := by
  obtain ⟨herrors, hleft, hwarnings⟩ :=
    scanFrom_brackets (prepare l t).language.name 1 [] (prepare l t).maskedLines
  unfold ofSource
  split
  · rename_i hblank
    rw [ofLines_of_isBlank hblank]
    exact .nil
  · -- the order of the errors does not matter, and the warnings drop out
    have hnowarning : (scanFrom (prepare l t).language.name 1 []
        (prepare l t).maskedLines).2.1.filter (·.aboutBracket) = [] :=
      List.filter_eq_nil_iff.mpr fun w hw => by simp [hwarnings w hw]
    have hunclosed : ∀ bs : List Bracket,
        (bs.map unclosed).filter (·.aboutBracket) = bs.map unclosed := fun bs =>
      List.filter_eq_self.mpr fun f hf => by
        obtain ⟨b, _, rfl⟩ := List.mem_map.mp hf
        rfl
    simp only [SyntaxReport.bracketFindings, SyntaxReport.findings, List.filter_append,
      hnowarning, List.append_nil]
    refine ((List.mergeSort_perm _ _).filter _).trans ?_
    rw [List.filter_append, herrors, hleft, hunclosed]
    exact ((List.reverse_perm _).map unclosed).append_left _

/-- The errors of a report go by line and column. -/
theorem errors_sorted (p : Prepared) :
    (ofSource p).errors.Pairwise fun a b =>
      a.line < b.line ∨ (a.line = b.line ∧ a.column ≤ b.column) := by
  unfold ofSource
  split
  · exact .nil
  · refine (List.pairwise_mergeSort ?_ ?_ _).imp ?_
    · intro a b c hab hbc
      simp only [precedes, Bool.or_eq_true, Bool.and_eq_true, decide_eq_true_eq, beq_iff_eq] at *
      omega
    · intro a b
      simp only [precedes, Bool.or_eq_true, Bool.and_eq_true, decide_eq_true_eq, beq_iff_eq]
      omega
    · intro a b hab
      simpa [precedes] using hab

/-- A finding stands at a character of some lines. -/
def StandsAt (ls : List Text) (f : SyntaxFinding) (c : Char) : Prop :=
  ∃ (i j : Nat) (row : Text),
    ls[i]? = some row ∧ row[j]? = some c ∧ f.line = i + 1 ∧ f.column = j + 1

/-- The places of the bracket findings are places of brackets, each taken once. -/
theorem bracketFindings_places (l : Language) (t : Text) :
    (ofSource (prepare l t)).bracketFindings.map SyntaxFinding.place <+~
      (ofLines 1 (prepare l t).maskedLines).map place := by
  obtain ⟨closing, hplace, bs, hbs, hsub⟩ := scan_places [] (ofLines 1 (prepare l t).maskedLines)
  have hperm := (bracketFindings_perm l t).map SyntaxFinding.place
  rw [List.map_append, hplace, List.map_map] at hperm
  have hmap := hbs.map place
  rw [List.map_append] at hmap
  exact ⟨bs.map place, hmap.trans hperm.symm, hsub.map place⟩

/-- The two counts of a report against the opening and closing brackets of its text. -/
theorem unclosed_balance (l : Language) (t : Text) :
    (ofSource (prepare l t)).countOf "UNCLOSED_BRACKET" + (prepare l t).masked.countP isCloser =
      (prepare l t).masked.countP isOpener +
        (ofSource (prepare l t)).countOf "UNEXPECTED_BRACKET" := by
  have hbalance := scan_balance [] (ofLines 1 (prepare l t).maskedLines)
  have hchar := ofLines_prepare_char l t
  have hperm := bracketFindings_perm l t
  generalize ofLines 1 (prepare l t).maskedLines = bs at hbalance hchar hperm
  -- brackets against characters
  have hopeners : bs.countP (·.opens) = (prepare l t).masked.countP isOpener := by
    have h := countP_char (p := isOpener) (fun c h => by simp [isBracket, h]) hchar
    simpa only [isOpener_char] using h
  have hclosers : bs.countP (fun b => !b.opens) = (prepare l t).masked.countP isCloser := by
    have h := countP_char (p := isCloser) (fun c h => by simp [isBracket, h]) hchar
    simpa only [isCloser_char] using h
  -- findings against the scan
  have hunclosed : (ofSource (prepare l t)).countOf "UNCLOSED_BRACKET" = (scan [] bs).2.length := by
    rw [SyntaxReport.countOf_eq _ (by decide), hperm.countP_eq, List.countP_append,
      List.countP_eq_zero.mpr, List.countP_map, Nat.zero_add]
    · exact List.countP_eq_length.mpr fun b _ => rfl
    · intro f hf
      rcases code_of_mem_scan hf with h | h <;> simp [h]
  have hunexpected : (ofSource (prepare l t)).countOf "UNEXPECTED_BRACKET" =
      (scan [] bs).1.countP (·.code == "UNEXPECTED_BRACKET") := by
    have hnone : ((scan [] bs).2.map unclosed).countP (·.code == "UNEXPECTED_BRACKET") = 0 :=
      List.countP_eq_zero.mpr fun f hf => by
        obtain ⟨b, _, rfl⟩ := List.mem_map.mp hf
        simp [unclosed]
    rw [SyntaxReport.countOf_eq _ (by decide), hperm.countP_eq, List.countP_append, hnone,
      Nat.add_zero]
  rw [hunclosed, hunexpected, ← hopeners, ← hclosers, hbalance, List.length_nil, Nat.zero_add]

theorem bracketFindings_eq_nil_iff (l : Language) (t : Text) :
    (ofSource (prepare l t)).bracketFindings = [] ↔
      WellNested ((prepare l t).masked.filter isBracket) := by
  rw [← ofLines_prepare_char, ← scan_clean_iff, Prod.ext_iff]
  constructor
  · intro h
    have hnil := (h ▸ bracketFindings_perm l t).symm.eq_nil
    simpa using hnil
  · rintro ⟨hfound, hleft⟩
    have hperm := bracketFindings_perm l t
    rw [hfound, hleft] at hperm
    exact hperm.eq_nil

/-- The bracket findings on any source. There is none exactly if the brackets of the masked text
are a well-nested word. Balanced or not, the unclosed brackets less the unexpected ones are the
opening brackets less the closing ones. Each finding stands at a bracket of the masked text, no two
stand at the same one, and the errors go by line and column. -/
theorem report_brackets (l : Language) (t : Text) :
    ((ofSource (prepare l t)).bracketFindings = [] ↔
        WellNested ((prepare l t).masked.filter isBracket)) ∧
      ((ofSource (prepare l t)).countOf "UNCLOSED_BRACKET" : Int) -
          (ofSource (prepare l t)).countOf "UNEXPECTED_BRACKET" =
        (prepare l t).masked.countP isOpener - (prepare l t).masked.countP isCloser ∧
      (∀ f ∈ (ofSource (prepare l t)).bracketFindings,
        ∃ c, isBracket c = true ∧ StandsAt (prepare l t).maskedLines f c) ∧
      ((ofSource (prepare l t)).bracketFindings.map SyntaxFinding.place).Nodup ∧
      (ofSource (prepare l t)).errors.Pairwise fun a b =>
        a.line < b.line ∨ (a.line = b.line ∧ a.column ≤ b.column) := by
  have hplaces := bracketFindings_places l t
  refine ⟨bracketFindings_eq_nil_iff l t, ?_, fun f hf => ?_, ?_, errors_sorted _⟩
  · have := unclosed_balance l t
    omega
  · obtain ⟨b, hb, hplace⟩ := List.mem_map.mp (hplaces.subset (List.mem_map_of_mem hf))
    obtain ⟨i, line, j, hi, hj, hline, hcolumn⟩ := mem_ofLines hb
    obtain ⟨hl, hc⟩ := Prod.mk.inj hplace
    exact ⟨b.char, isBracket_char b, i, j, line, hi, hj, by omega, by omega⟩
  · obtain ⟨places, hperm, hsub⟩ := hplaces
    exact hperm.nodup_iff.mp (hsub.nodup (ofLines_places_nodup 1 _))

end SyntaxCheck
end SourceAudit
