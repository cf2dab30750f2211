import SourceAudit.Detector.Risk
import SourceAudit.Language.JavaScript
import SourceAudit.Proofs.Context.BraceLevel
import SourceAudit.Proofs.Pattern.Search

/-!
  The body of a protected block between braces.

  A block starts on the line of the word that opens it; its body reaches from the
  brace behind that word to the brace that closes it (`Opening.IsBody`). The scan
  of a block counts braces, but it ends the body at the first later line that names
  a handler, wherever on the line and at whatever depth. What is proved:
    1. `braceReach_quiet` — lines of the body without a handler are passed.
    2. `braceReach_named` — the first one that names a handler decides where the
       body ends, whatever follows.
    3. `length_le_reach_iff` — so the lines of the body are all taken exactly if none
       of them names a handler but the last, and that one does not begin with it.
    4. `covers_body_iff` — the same of the block that starts on a line of any source
       with balanced braces; `not_covers_chained` is a source where it fails.
-/
namespace SourceAudit

namespace TryBlock

/-! ## The scan of a block -/

/-- Whether a line begins with one of the words that start a handler. -/
def startsHandler (row : Text) : Bool := row.trimLeft.startsWithAny ["catch", "finally", "except"]

/-- Of some lines none names a handler, but the last one may, if it does not begin with one. -/
def NamesHandlerLast (handler : Pattern) (ls : List Text) : Prop :=
  (∀ row ∈ ls.dropLast, handler.occurs row = false) ∧
    ∀ row ∈ ls.getLast?, handler.occurs row = true → startsHandler row = false

instance (handler : Pattern) (ls : List Text) : Decidable (NamesHandlerLast handler ls) :=
  inferInstanceAs (Decidable ((∀ row ∈ ls.dropLast, handler.occurs row = false) ∧
    ∀ row ∈ ls.getLast?, handler.occurs row = true → startsHandler row = false))

theorem braceCount_eq (n : Int) (c : Char) : braceCount n c = n + braceLevel [c] := by
  by_cases hopen : c = '\x7b'
  · rw [hopen]
    rfl
  · by_cases hclose : c = '\x7d'
    · rw [hclose]
      rfl
    · have hzero : braceLevel [c] = 0 := by
        simp [braceLevel, hopen, hclose]
      simp [braceCount, hopen, hclose, hzero]

theorem foldl_braceCount (n : Int) (t : Text) : t.foldl braceCount n = n + braceLevel t := by
  induction t generalizing n with
  | nil => simp [braceLevel_nil]
  | cons c t ih =>
    rw [List.foldl_cons, ih, braceCount_eq, braceLevel_cons c t]
    omega

theorem le_handlerLine (passed : Nat) (row : Text) : passed ≤ handlerLine passed row + 1 := by
  unfold handlerLine
  split <;> omega

theorem le_handlerLine_iff (passed more : Nat) (row : Text) :
    passed + 1 + more ≤ handlerLine (passed + 1) row ↔ more = 0 ∧ startsHandler row = false := by
  have hline : handlerLine (passed + 1) row = if startsHandler row then passed else passed + 1 := rfl
  rw [hline]
  cases startsHandler row with
  | true =>
    simp only [if_true, Bool.true_eq_false, and_false, iff_false]
    omega
  | false =>
    simp only [Bool.false_eq_true, if_false, and_true]
    omega

section
variable (handler : Pattern)

/-- Where the body ends stays as it is once it is known. -/
theorem braceReach_known (passed : Nat) (level : Int) (opened : Bool) (b : Nat) (ls : List Text) :
    (braceReach handler passed level opened (some b) ls).body = b := by
  induction ls generalizing passed level opened with
  | nil => rfl
  | cons row ls ih =>
    simp only [braceReach, Option.isNone_some, Bool.and_false, Bool.false_and, Bool.false_eq_true,
      if_false]
    split
    · rfl
    · exact ih _ _ _

/-- On a later line that names a handler the body ends, there or before it. -/
theorem braceReach_named {passed : Nat} {row : Text} (hpassed : passed ≠ 0)
    (hrow : handler.occurs row = true) (level : Int) (opened : Bool) (ls : List Text) :
    (braceReach handler passed level opened none (row :: ls)).body = handlerLine passed row := by
  have hnamed : (passed != 0 && (none : Option Nat).isNone && handler.occurs row) = true := by
    simp [hpassed, hrow]
  simp only [braceReach, hnamed, if_true]
  split
  · rfl
  · exact braceReach_known handler _ _ _ _ _

/-- A line is passed if braces are open at its end and the body does not end there. -/
theorem braceReach_cons (passed : Nat) {row : Text} {level : Int}
    (hrow : passed = 0 ∨ handler.occurs row = false) (hlevel : 0 < level + braceLevel row)
    (opened : Bool) (ls : List Text) :
    ∃ opened', braceReach handler passed level opened none (row :: ls) =
      braceReach handler (passed + 1) (level + braceLevel row) opened' none ls := by
  have hnamed : (passed != 0 && (none : Option Nat).isNone && handler.occurs row) = false := by
    rcases hrow with h | h <;> simp [h]
  have hopen : decide (level + braceLevel row ≤ 0) = false := by simpa using hlevel
  refine ⟨opened || row.contains '\x7b', ?_⟩
  simp only [braceReach, hnamed, foldl_braceCount, hopen, Bool.and_false, Bool.false_and,
    Bool.false_eq_true, if_false]

/-- Lines without a handler, with braces open at the end of each, are passed. -/
theorem braceReach_quiet {ls : List Text} {level : Int}
    (hquiet : ∀ row ∈ ls, handler.occurs row = false)
    (hopen : ∀ u, u <+: ls → 0 < level + braceLevel u.flatten) (passed : Nat) (opened : Bool)
    (more : List Text) :
    ∃ level' opened', braceReach handler passed level opened none (ls ++ more) =
      braceReach handler (passed + ls.length) level' opened' none more := by
  induction ls generalizing passed level opened with
  | nil => exact ⟨level, opened, rfl⟩
  | cons row ls ih =>
    obtain ⟨hrow, hls⟩ := List.forall_mem_cons.mp hquiet
    have hlevel : 0 < level + braceLevel row := by
      have hone := hopen [row] (List.prefix_append [row] ls)
      rwa [List.flatten_singleton] at hone
    obtain ⟨opened₁, hstep⟩ := braceReach_cons handler passed (.inr hrow) hlevel opened (ls ++ more)
    -- what is open at the end of a later line counts from the end of this one
    have hnext : ∀ u, u <+: ls → 0 < level + braceLevel row + braceLevel u.flatten := by
      intro u hu
      have hgo := hopen (row :: u) ((List.prefix_cons_inj row).mpr hu)
      rw [List.flatten_cons, braceLevel_append] at hgo
      omega
    obtain ⟨level₂, opened₂, hrun⟩ := ih hls hnext (passed + 1) opened₁
    refine ⟨level₂, opened₂, ?_⟩
    rw [List.cons_append, hstep, hrun, List.length_cons]
    congr 1
    omega

/-- As long as no line has named a handler, all lines so far belong to the body. -/
theorem le_braceReach (passed : Nat) (level : Int) (opened : Bool) (ls : List Text) :
    passed ≤ (braceReach handler passed level opened none ls).body + 1 := by
  induction ls generalizing passed level opened with
  | nil =>
    rw [braceReach]
    show passed ≤ passed - 1 + 1
    omega
  | cons row ls ih =>
    by_cases hnamed : passed ≠ 0 ∧ handler.occurs row = true
    · rw [braceReach_named handler hnamed.1 hnamed.2]
      exact le_handlerLine passed row
    · have hfalse : (passed != 0 && (none : Option Nat).isNone && handler.occurs row) = false := by
        simpa using hnamed
      simp only [braceReach, hfalse, Bool.false_eq_true, if_false]
      split
      · show passed ≤ passed + 1
        omega
      · have hgo := ih (passed + 1) (row.foldl braceCount level) (opened || row.contains '\x7b')
        omega

theorem namesHandlerLast_of_quiet {ls : List Text}
    (hquiet : ∀ row ∈ ls, handler.occurs row = false) : NamesHandlerLast handler ls := by
  refine ⟨fun row hrow => hquiet row (List.mem_of_mem_dropLast hrow), fun row hrow hnamed => ?_⟩
  rw [hquiet row (List.mem_of_getLast? hrow)] at hnamed
  cases hnamed

theorem namesHandlerLast_append_iff {quiet later : List Text} {row : Text}
    (hquiet : ∀ row ∈ quiet, handler.occurs row = false) (hrow : handler.occurs row = true) :
    NamesHandlerLast handler (quiet ++ row :: later) ↔
      later = [] ∧ startsHandler row = false := by
  cases later with
  | nil =>
    refine ⟨fun h => ⟨rfl, h.2 row (by simp) hrow⟩, fun h => ⟨fun other hother => ?_, ?_⟩⟩
    · rw [List.dropLast_concat] at hother
      exact hquiet other hother
    · intro other hother _
      rw [List.getLast?_concat] at hother
      obtain rfl : row = other := Option.some.inj hother
      exact h.2
  | cons next later =>
    refine ⟨fun h => ?_, fun h => absurd h.1 (List.cons_ne_nil _ _)⟩
    have hmem : row ∈ (quiet ++ row :: next :: later).dropLast := by
      rw [List.dropLast_append_cons, List.dropLast_cons_cons]
      simp
    rw [h.1 row hmem] at hrow
    cases hrow

/-- Of the first line of a block and the later lines of its body, all are taken exactly if none
of the later ones names a handler but the last, and that one does not begin with one. -/
theorem length_le_reach_iff {first : Text} {inner : List Text}
    (hopen : ∀ u, u <+: inner → 0 < braceLevel first + braceLevel u.flatten) (more : List Text) :
    inner.length ≤ (braceReach handler 0 0 false none (first :: (inner ++ more))).body ↔
      NamesHandlerLast handler inner := by
  have hfirst : 0 < (0 : Int) + braceLevel first := by
    have hnil := hopen [] List.nil_prefix
    rw [List.flatten_nil, braceLevel_nil] at hnil
    omega
  obtain ⟨opened, hstep⟩ := braceReach_cons handler 0 (.inl rfl) hfirst false (inner ++ more)
  rw [hstep, Int.zero_add, Nat.zero_add]
  -- the first of the lines that names a handler decides, if there is one
  cases hfind : inner.find? handler.occurs with
  | none =>
    have hquiet : ∀ row ∈ inner, handler.occurs row = false := by
      simpa using List.find?_eq_none.mp hfind
    obtain ⟨level, opened', hrun⟩ := braceReach_quiet handler hquiet hopen 1 opened more
    have hle := le_braceReach handler (1 + inner.length) level opened' more
    rw [hrun]
    exact iff_of_true (by omega) (namesHandlerLast_of_quiet handler hquiet)
  | some row =>
    obtain ⟨hrow, quiet, later, rfl, hbefore⟩ := List.find?_eq_some_iff_append.mp hfind
    have hquiet : ∀ row ∈ quiet, handler.occurs row = false := by simpa using hbefore
    obtain ⟨level, opened', hrun⟩ := braceReach_quiet handler hquiet
      (fun u hu => hopen u (hu.trans (List.prefix_append ..))) 1 opened (row :: later ++ more)
    have hlength : (quiet ++ row :: later).length = quiet.length + 1 + later.length := by
      rw [List.length_append, List.length_cons]
      omega
    rw [List.append_assoc, hrun, List.cons_append, braceReach_named handler (by omega) hrow,
      Nat.add_comm 1, hlength, le_handlerLine_iff, namesHandlerLast_append_iff handler hquiet hrow,
      List.length_eq_zero_iff]

end

/-! ## The block of a line -/

/-- The pattern for the words that start a handler. -/
def handlerForm (l : Language) : Pattern := .boundedAny (handlerWords l)

theorem mem_all_iff {p : Prepared} {word : String} (hword : p.language.tryWord = some word)
    (b : TryBlock) :
    b ∈ all p ↔ ∃ i line m, p.maskedLines[i]? = some line ∧
      (Pattern.bounded word.toList).find? line = some m ∧
        b = startingAt p (handlerForm p.language) i m.stop := by
  simp only [all, hword, List.mem_filterMap, Prod.exists, Option.map_eq_some_iff,
    List.mem_zipIdx_iff_getElem?, handlerForm]
  constructor
  · rintro ⟨line, i, hline, m, hm, rfl⟩
    exact ⟨i, line, m, hline, hm, rfl⟩
  · rintro ⟨i, line, m, hline, hm, rfl⟩
    exact ⟨line, i, hline, m, hm, rfl⟩

/-- A line with index `i` on which one protected block starts: it holds the word once, and
behind it the brace that opens the body. -/
structure Opening (p : Prepared) (i : Nat) where
  word : String
  line : Text
  opener : Match
  lead : Text
  rest : Text
  isWord : p.language.tryWord = some word
  isLine : p.maskedLines[i]? = some line
  only : (Pattern.bounded word.toList).findAll line = [opener]
  opens : line.drop opener.stop = lead ++ '\x7b' :: rest
  balanced : BalancedBraces lead

/-- The lines of a body that begins on line `i` after this one, up to the one before the line of the
closing brace. -/
def laterLines (p : Prepared) (i : Nat) (body : Text) : List Text :=
  (p.maskedLines.drop (i + 1)).take (body.count '\n' - 1)

namespace Opening
variable {l : Language} {t : Text} {i : Nat} (o : Opening (prepare l t) i)

/-- What stands behind the brace that opens the body. -/
def behind : Text := Text.joinLines (o.rest :: (prepare l t).maskedLines.drop (i + 1))

/-- The body of the block: what stands between its two braces. -/
def IsBody (body : Text) : Prop := BalancedBraces body ∧ body ++ ['\x7d'] <+: o.behind

instance (body : Text) : Decidable (o.IsBody body) :=
  inferInstanceAs (Decidable (BalancedBraces body ∧ body ++ ['\x7d'] <+: o.behind))

/-- The block that starts on the line. -/
def block : TryBlock := startingAt (prepare l t) (handlerForm l) i o.opener.stop

theorem block_mem : o.block ∈ all (prepare l t) := by
  refine (mem_all_iff o.isWord _).mpr ⟨i, o.line, o.opener, o.isLine, ?_, rfl⟩
  rw [Pattern.find?_eq_head?, o.only]
  rfl

theorem eq_block {b : TryBlock} (hb : b ∈ all (prepare l t)) (hstart : b.start = i + 1) :
    b = o.block := by
  obtain ⟨j, line, m, hline, hm, rfl⟩ := (mem_all_iff o.isWord b).mp hb
  obtain rfl : j = i := Nat.succ.inj hstart
  obtain rfl : o.line = line := Option.some.inj (o.isLine.symm.trans hline)
  rw [Pattern.find?_eq_head?, o.only] at hm
  obtain rfl : o.opener = m := Option.some.inj hm
  rfl

theorem drop_maskedLines :
    (prepare l t).maskedLines.drop i = o.line :: (prepare l t).maskedLines.drop (i + 1) := by
  rw [List.drop_eq_getElem?_toList_append, o.isLine]
  rfl

theorem bodyEnd_block (hbraces : l.usesBraces = true) :
    o.block.bodyEnd = i + (braceReach (handlerForm l) 0 0 false none
      (o.line.drop o.opener.stop :: (prepare l t).maskedLines.drop (i + 1))).body + 1 := by
  have hlanguage : (prepare l t).language.usesBraces = true := hbraces
  simp only [block, startingAt, o.drop_maskedLines, hlanguage, if_true, List.headD_cons,
    List.drop_succ_cons, List.drop_zero]

theorem masked_line : (prepare l t).masked.lines[i]? =
    some (o.line.take o.opener.stop ++ o.lead ++ '\x7b' :: o.rest) := by
  rw [List.append_assoc, ← o.opens, List.take_append_drop]
  exact o.isLine

/-- Between balanced braces every block has a body. -/
theorem exists_isBody (h : BalancedBraces (prepare l t).masked) : ∃ body, o.IsBody body :=
  exists_body h o.masked_line

/-- As long as the body goes on, braces are open. -/
theorem braceLevel_pos {body : Text} (hbalanced : BalancedBraces body) {inner : List Text}
    (hinner : Text.joinLines (o.rest :: inner) <+: body) :
    0 < braceLevel (o.line.drop o.opener.stop) + braceLevel inner.flatten := by
  have hlead : braceLevel o.lead = 0 := o.balanced.closed
  have hone := braceLevel_open
  have hbody : 0 ≤ braceLevel (Text.joinLines (o.rest :: inner)) := hbalanced.sane _ hinner
  rw [braceLevel_joinLines, List.flatten_cons, braceLevel_append] at hbody
  rw [o.opens, braceLevel_append, braceLevel_cons]
  omega

theorem block_covers_iff (hbraces : l.usesBraces = true) (count : Nat) :
    (∀ k, i ≤ k → k < i + (count + 1) → o.block.covers (k + 1) = true) ↔
      count ≤ (braceReach (handlerForm l) 0 0 false none
        (o.line.drop o.opener.stop :: (prepare l t).maskedLines.drop (i + 1))).body := by
  have hstart : o.block.start = i + 1 := rfl
  simp only [covers, Bool.and_eq_true, decide_eq_true_eq, hstart, o.bodyEnd_block hbraces]
  constructor
  · intro hall
    have hlast := (hall (i + count) (by omega) (by omega)).2
    omega
  · intro hle k hlow hhigh
    exact ⟨by omega, by omega⟩

/-- The lines of the body up to the one before the closing brace are all covered exactly if none
after the first names a handler but the last. -/
theorem covers_iff (hbraces : l.usesBraces = true) {body : Text} (h : o.IsBody body) :
    (∀ k, i ≤ k → k < i + body.count '\n' → o.block.covers (k + 1) = true) ↔
      NamesHandlerLast (handlerForm l) (laterLines (prepare l t) i body) := by
  obtain ⟨hbalanced, hends⟩ := h
  obtain ⟨inner, left, right, more, hcut, hbody, hcount⟩ := exists_lines_of_body o.masked_line hends
  have hlines : o.rest :: (prepare l t).maskedLines.drop (i + 1) =
      inner ++ (left ++ '\x7d' :: right) :: more := hcut
  cases inner with
  | nil =>
    -- the closing brace is on the first line: there is no line to cover
    have hnone : body.count '\n' = 0 := hcount.symm
    have hlater : laterLines (prepare l t) i body = [] := by rw [laterLines, hnone, List.take_zero]
    rw [hnone, hlater]
    refine iff_of_true (fun k hlow hhigh => ?_) (namesHandlerLast_of_quiet _ (by simp))
    omega
  | cons first inner =>
    rw [List.cons_append] at hlines hbody
    rw [List.length_cons] at hcount
    obtain ⟨rfl, hdrop⟩ := List.cons.inj hlines
    -- the body is balanced, so at the end of each of its lines its own brace is still open
    have hopen : ∀ u, u <+: inner →
        0 < braceLevel (o.line.drop o.opener.stop) + braceLevel u.flatten := by
      rintro u ⟨v, rfl⟩
      refine o.braceLevel_pos hbalanced ?_
      rw [hbody, List.append_assoc, ← List.cons_append]
      exact Text.joinLines_isPrefix (List.cons_ne_nil _ _)
    have hlater : laterLines (prepare l t) i body = inner := by
      rw [laterLines, hdrop, ← hcount, Nat.add_sub_cancel, List.take_left]
    rw [hlater, ← hcount, o.block_covers_iff hbraces, hdrop,
      length_le_reach_iff (handlerForm l) hopen]

end Opening

/-! ## Lines that are left alone -/

theorem isProtected_of_covers {p : Prepared} {b : TryBlock} (hb : b ∈ all p) {k : Nat}
    (hk : b.covers k = true) {row name : Text} (hrow : name ∈ (Context.ofSource p).namesOn row)
    (hscope : name ∈ b.scope) : (Context.ofSource p).isProtected k row = true := by
  have hname : ((Context.ofSource p).namesOn row).any (fun name => b.scope.contains name) = true :=
    List.any_eq_true.mpr ⟨name, hrow, List.contains_iff_mem.mpr hscope⟩
  exact List.any_eq_true.mpr ⟨b, hb, by rw [hk, hname]; rfl⟩

theorem isUnguarded_of_isProtected (op : RiskyOperation) (p : Prepared) {c : Context} {k : Nat}
    {row : Text} (h : c.isProtected (k + 1) row = true) : op.isUnguarded p c k row = false := by
  simp only [RiskyOperation.isUnguarded, h, if_true, ite_self]

/-- Of a block whose word stands once on a line, with the brace of the body behind it, in a source
with balanced braces. It covers the lines of the body up to the one before the closing brace exactly
if none of them after the first names a handler; only the last may, if it does not begin with it.
Then no operation that can fail is reported on any of them that has a name of the block's scope. -/
theorem covers_body_iff (l : Language) (t : Text) (i : Nat) (o : Opening (prepare l t) i)
    (hbraces : l.usesBraces = true) (hbalanced : BalancedBraces (prepare l t).masked) :
    ∃ b ∈ all (prepare l t), b.start = i + 1 ∧
      (∀ other ∈ all (prepare l t), other.start = i + 1 → other = b) ∧
      (∃ body, o.IsBody body) ∧
      ∀ body, o.IsBody body →
        ((∀ k, i ≤ k → k < i + body.count '\n' → b.covers (k + 1) = true) ↔
          NamesHandlerLast (handlerForm l) (laterLines (prepare l t) i body)) ∧
        (NamesHandlerLast (handlerForm l) (laterLines (prepare l t) i body) →
          ∀ k, i ≤ k → k < i + body.count '\n' → ∀ (row name : Text),
            name ∈ (Context.ofSource (prepare l t)).namesOn row → name ∈ b.scope →
              (Context.ofSource (prepare l t)).isProtected (k + 1) row = true ∧
                ∀ op : RiskyOperation,
                  op.isUnguarded (prepare l t) (Context.ofSource (prepare l t)) k row = false) := by
  refine ⟨o.block, o.block_mem, rfl, fun other => o.eq_block, o.exists_isBody hbalanced, ?_⟩
  intro body hbody
  have hiff := o.covers_iff hbraces hbody
  refine ⟨hiff, fun hlast k hlow hhigh row name hrow hscope => ?_⟩
  have hprotected := isProtected_of_covers o.block_mem (hiff.mpr hlast k hlow hhigh) hrow hscope
  exact ⟨hprotected, fun op => isUnguarded_of_isProtected op _ hprotected⟩

/-- The block of a source in JavaScript that begins with its word and a brace on the first line. -/
def firstOpening {t : Text}
    (h : (prepare Language.javaScript t).maskedLines[0]? = some "try \x7b".toList) :
    Opening (prepare Language.javaScript t) 0 where
  word := "try"
  line := "try \x7b".toList
  opener := ⟨0, 3, "try".toList, []⟩
  lead := " ".toList
  rest := []
  isWord := rfl
  isLine := h
  only := by decide +kernel
  opens := rfl
  balanced := by decide

/-- A body whose last line names a handler. -/
def settling : Text :=
  "try \x7b\n  const d = JSON.parse(x);\n  g().finally(h);\n\x7d catch (e) \x7b\n\x7d\n".toList

/-- It is covered as a whole. -/
theorem covers_settling :
    Language.javaScript.usesBraces = true ∧
      BalancedBraces (prepare Language.javaScript settling).masked ∧
      NamesHandlerLast (handlerForm Language.javaScript)
        ["  const d = JSON.parse(x);".toList, "  g().finally(h);".toList] ∧
      ∃ b ∈ all (prepare Language.javaScript settling), b.start = 1 ∧
        (∀ k < 3, b.covers (k + 1) = true) ∧
        ∀ op : RiskyOperation, op.isUnguarded (prepare Language.javaScript settling)
          (Context.ofSource (prepare Language.javaScript settling)) 1
            "  const d = JSON.parse(x);".toList = false := by
  have hbalanced : BalancedBraces (prepare Language.javaScript settling).masked := by decide +kernel
  have hlast : NamesHandlerLast (handlerForm Language.javaScript)
      ["  const d = JSON.parse(x);".toList, "  g().finally(h);".toList] := by decide +kernel
  let o : Opening (prepare Language.javaScript settling) 0 := firstOpening (by decide +kernel)
  have hbody : o.IsBody "\n  const d = JSON.parse(x);\n  g().finally(h);\n".toList := by
    decide +kernel
  have hlater : laterLines (prepare Language.javaScript settling) 0
      "\n  const d = JSON.parse(x);\n  g().finally(h);\n".toList =
        ["  const d = JSON.parse(x);".toList, "  g().finally(h);".toList] := by decide +kernel
  obtain ⟨b, hb, hstart, hunique, -, hall⟩ :=
    covers_body_iff Language.javaScript settling 0 o rfl hbalanced
  obtain rfl : o.block = b := hunique o.block o.block_mem rfl
  obtain ⟨hiff, hprotected⟩ := hall _ hbody
  rw [hlater] at hiff hprotected
  refine ⟨rfl, hbalanced, hlast, o.block, hb, hstart, ?_, ?_⟩
  · intro k hk
    exact hiff.mpr hlast k (Nat.zero_le k) (by simpa using hk)
  · exact (hprotected hlast 1 (by decide) (by decide) "  const d = JSON.parse(x);".toList
      "x".toList (by decide +kernel) (by decide +kernel)).2

/-- A body in which a handler is named before the last line. -/
def chained : Text :=
  "try \x7b\n  a.catch(f);\n  const d = JSON.parse(x);\n\x7d catch (e) \x7b\n\x7d\n".toList

/-- Its last line is not covered, and left unprotected. -/
theorem not_covers_chained :
    Language.javaScript.usesBraces = true ∧
      BalancedBraces (prepare Language.javaScript chained).masked ∧
      ∃ (o : Opening (prepare Language.javaScript chained) 0) (body : Text),
        o.IsBody body ∧ body.count '\n' = 3 ∧
        (∃ b ∈ all (prepare Language.javaScript chained), b.start = 1) ∧
        (∀ b ∈ all (prepare Language.javaScript chained), b.covers 3 = false) ∧
        (Context.ofSource (prepare Language.javaScript chained)).isProtected 3
          "  const d = JSON.parse(x);".toList = false := by
  exact ⟨rfl, by decide +kernel, firstOpening (by decide +kernel),
    "\n  a.catch(f);\n  const d = JSON.parse(x);\n".toList, by decide +kernel, by decide,
    by decide +kernel, by decide +kernel, by decide +kernel⟩

end TryBlock
end SourceAudit
