import SourceAudit.Language.Python
import SourceAudit.Proofs.Context.ProtectedBody
import SourceAudit.Proofs.Detector.FindingLines

/-!
  The lines of protected blocks, and which of them are left alone.

  A scan sets the end of the body and the end of the block at different moments, and it
  stops where the block closes, on a line that does not belong to it, or with the
  source. What is proved:
    1. `braceReach_ordered`, `indentReach_ordered` — however a scan stops, the body ends no
       later than the block, and the block among the lines that are gone through.
    2. `indentReach_body` — the body of an indented block ends with the last line that is
       not blank of the run of lines below its first one that are blank or deeper, whatever
       words these lines begin with.
    3. `blocks_in_order` — so the blocks of a source start one below the other, each lies
       on lines of the source, and the run decides where the body of an indented one ends.
    4. `mem_scopeWithin` — the names on the first lines of a body are in the scope of the
       block, and so these lines are left alone (`named_lines_unreported`).
-/
namespace SourceAudit
namespace TryBlock

/-! ## Where a scan stops -/

section
variable (handler : Pattern)

theorem getD_le {body : Option Nat} {last : Nat} (h : ∀ n ∈ body, n ≤ last) :
    body.getD last ≤ last := by
  cases body with
  | none => exact Nat.le_refl _
  | some n => exact h n rfl

/-- A body between braces ends no later than its block, and the block among the lines that are gone
through. -/
theorem braceReach_ordered (ls : List Text) {passed : Nat} {body : Option Nat}
    (hbody : ∀ n ∈ body, n < passed) (hlines : 0 < passed + ls.length) (level : Int)
    (opened : Bool) :
    (braceReach handler passed level opened body ls).body ≤
        (braceReach handler passed level opened body ls).stop ∧
      (braceReach handler passed level opened body ls).stop < passed + ls.length := by
  induction ls generalizing passed level opened body with
  | nil =>
    refine ⟨getD_le fun n hn => ?_, Nat.sub_lt hlines Nat.one_pos⟩
    have hlt := hbody n hn
    omega
  | cons row ls ih =>
    rw [braceReach, List.length_cons]
    -- what is known of the end of the body behind this line
    generalize hnew : (if passed != 0 && body.isNone && handler.occurs row then
      some (handlerLine passed row) else body) = known
    have hknown : ∀ n ∈ known, n ≤ passed := by
      intro n hn
      rw [← hnew] at hn
      split at hn
      · obtain rfl := Option.some.inj hn
        unfold handlerLine
        split <;> omega
      · exact Nat.le_of_lt (hbody n hn)
    split
    · exact ⟨getD_le hknown, by show passed < _; omega⟩
    · have hnext : ∀ n ∈ known, n < passed + 1 := fun n hn => Nat.lt_succ_of_le (hknown n hn)
      have hgo := ih hnext (by omega) (row.foldl braceCount level) (opened || row.contains '\x7b')
      exact ⟨hgo.1, by omega⟩

/-- An indented body ends no later than its block, and the block among the lines that are gone
through. -/
theorem indentReach_ordered (width : Nat) (ls : List Text) {passed last : Nat}
    {body : Option Nat} (hbody : ∀ n ∈ body, n ≤ last) (hlast : last ≤ passed) :
    (indentReach handler width passed last body ls).body ≤
        (indentReach handler width passed last body ls).stop ∧
      (indentReach handler width passed last body ls).stop ≤ passed + ls.length := by
  induction ls generalizing passed last body with
  | nil => exact ⟨getD_le hbody, hlast⟩
  | cons row ls ih =>
    rw [indentReach, List.length_cons]
    split
    · have hgo := ih hbody (show last ≤ passed + 1 by omega)
      exact ⟨hgo.1, by omega⟩
    split
    · -- a deeper line is taken
      have hgrown : ∀ n ∈ body, n ≤ passed + 1 := by
        intro n hn
        have hle := hbody n hn
        omega
      have hgo := ih hgrown (Nat.le_refl (passed + 1))
      exact ⟨hgo.1, by omega⟩
    split
    · -- a handler is taken, and the body ends before the first one
      have hfixed : ∀ n ∈ some (body.getD last), n ≤ passed + 1 := by
        intro n hn
        obtain rfl := Option.some.inj hn
        have hle := getD_le hbody
        omega
      have hgo := ih hfixed (Nat.le_refl (passed + 1))
      exact ⟨hgo.1, by omega⟩
    · exact ⟨getD_le hbody, by show last ≤ _; omega⟩

/-- Where the body of an indented block ends stays as it is once it is known. -/
theorem indentReach_known (width passed last b : Nat) (ls : List Text) :
    (indentReach handler width passed last (some b) ls).body = b := by
  induction ls generalizing passed last with
  | nil => rfl
  | cons row ls ih =>
    rw [indentReach]
    split
    · exact ih _ _
    split
    · exact ih _ _
    split
    · exact ih _ _
    · rfl

/-- The lines at the front of some that are blank or deeper than a width. -/
def deeper (width : Nat) (ls : List Text) : List Text :=
  ls.takeWhile fun row => row.isBlank || decide (width < row.indentWidth)

theorem deeper_cons {width : Nat} {row : Text}
    (h : row.isBlank = true ∨ width < row.indentWidth) (ls : List Text) :
    deeper width (row :: ls) = row :: deeper width ls := by
  rw [deeper, List.takeWhile_cons_of_pos (by simpa using h), deeper]

theorem deeper_cons_eq_nil {width : Nat} {row : Text} (hblank : row.isBlank ≠ true)
    (hwidth : ¬ width < row.indentWidth) (ls : List Text) : deeper width (row :: ls) = [] := by
  rw [deeper, List.takeWhile_cons_of_neg (by simp [hblank, hwidth])]

/-- The body of an indented block ends with the last line of the run that is not blank; if there
is none, it ends where it did before the run. -/
theorem indentReach_body (width passed last : Nat) (ls : List Text) :
    ((indentReach handler width passed last none ls).body = last ∧
        ∀ row ∈ deeper width ls, row.isBlank = true) ∨
      ∃ k row, (indentReach handler width passed last none ls).body = passed + k + 1 ∧
        (deeper width ls)[k]? = some row ∧ row.isBlank = false ∧
          ∀ row ∈ (deeper width ls).drop (k + 1), row.isBlank = true := by
  induction ls generalizing passed last with
  | nil => exact .inl ⟨rfl, fun row hrow => absurd hrow List.not_mem_nil⟩
  | cons row ls ih =>
    rw [indentReach]
    split
    · next hblank =>
      rw [deeper_cons (.inl hblank)]
      rcases ih (passed + 1) last with ⟨hbody, hall⟩ | ⟨k, other, hbody, hk, hother, hall⟩
      · exact .inl ⟨hbody, List.forall_mem_cons.mpr ⟨hblank, hall⟩⟩
      · exact .inr ⟨k + 1, other, by rw [hbody]; omega, hk, hother, hall⟩
    next hblank =>
    split
    · next hwidth =>
      rw [deeper_cons (.inr hwidth)]
      rcases ih (passed + 1) (passed + 1) with
        ⟨hbody, hall⟩ | ⟨k, other, hbody, hk, hother, hall⟩
      · exact .inr ⟨0, row, hbody, rfl, Bool.eq_false_iff.mpr hblank, hall⟩
      · exact .inr ⟨k + 1, other, by rw [hbody]; omega, hk, hother, hall⟩
    · next hwidth =>
      -- neither blank nor deeper: the run ends here, whether a handler follows or not
      rw [deeper_cons_eq_nil hblank hwidth]
      refine .inl ⟨?_, fun row hrow => absurd hrow List.not_mem_nil⟩
      split
      · exact indentReach_known handler width _ _ _ ls
      · rfl

end

/-! ## The blocks of a source -/

/-- How far the block reaches whose opening word ends at an offset of line `i`. -/
def reachAt (p : Prepared) (i offset : Nat) : Reach :=
  if p.language.usesBraces then
    braceReach (handlerForm p.language) 0 0 false none
      ((p.maskedLines.getD i []).drop offset :: p.maskedLines.drop (i + 1))
  else
    indentReach (handlerForm p.language) (p.maskedLines.getD i []).indentWidth 0 0 none
      (p.maskedLines.drop (i + 1))

/-- A block starts on a line of the source, and a scan from there decides how far it reaches. -/
theorem exists_of_mem_all {p : Prepared} {b : TryBlock} (hb : b ∈ all p) :
    ∃ i < p.maskedLines.length, ∃ offset, b = ⟨i + 1, i + (reachAt p i offset).body + 1,
      i + (reachAt p i offset).stop + 1,
      scopeWithin p.language (reachAt p i offset).body (p.maskedLines.drop i)⟩ := by
  cases hword : p.language.tryWord with
  | none =>
    rw [all, hword] at hb
    exact absurd hb List.not_mem_nil
  | some word =>
    obtain ⟨i, line, m, hline, -, rfl⟩ := (mem_all_iff hword b).mp hb
    refine ⟨i, (List.getElem?_eq_some_iff.mp hline).1, m.stop, ?_⟩
    simp only [startingAt, reachAt, List.drop_drop, List.headD_eq_head?_getD, List.head?_drop,
      List.getD_eq_getElem?_getD]

/-- The blocks start one below the other. -/
theorem all_pairwise (p : Prepared) : (all p).Pairwise fun b c => b.start < c.start := by
  unfold all
  split
  · exact List.Pairwise.nil
  · refine List.Pairwise.filterMap _ ?_ (Text.pairwise_zipIdx p.maskedLines)
    rintro ⟨row, i⟩ ⟨other, j⟩ hlt b hb c hc
    obtain ⟨m, -, rfl⟩ := Option.map_eq_some_iff.mp hb
    obtain ⟨n, -, rfl⟩ := Option.map_eq_some_iff.mp hc
    exact Nat.succ_lt_succ hlt

theorem reachAt_ordered {p : Prepared} {i : Nat} (hi : i < p.maskedLines.length) (offset : Nat) :
    (reachAt p i offset).body ≤ (reachAt p i offset).stop ∧
      i + (reachAt p i offset).stop < p.maskedLines.length := by
  have hnone : ∀ {k : Nat}, ∀ n ∈ (none : Option Nat), n < k := fun n hn => absurd hn (Option.not_mem_none n)
  have hlines : (p.maskedLines.drop (i + 1)).length = p.maskedLines.length - (i + 1) :=
    List.length_drop
  unfold reachAt
  split
  · have hscan := braceReach_ordered (handlerForm p.language)
      ((p.maskedLines.getD i []).drop offset :: p.maskedLines.drop (i + 1)) (hnone (k := 0))
      (by rw [List.length_cons]; omega) 0 false
    refine ⟨hscan.1, ?_⟩
    have hstop := hscan.2
    rw [List.length_cons] at hstop
    omega
  · have hscan := indentReach_ordered (handlerForm p.language)
      (p.maskedLines.getD i []).indentWidth (p.maskedLines.drop (i + 1))
      (fun n hn => Nat.le_of_lt (hnone n hn)) (Nat.le_refl 0)
    exact ⟨hscan.1, by omega⟩

/-- Whether a block lies on lines of a text: its body begins with it and ends no later. -/
structure Lies (t : Text) (b : TryBlock) : Prop where
  first : 1 ≤ b.start
  body : b.start ≤ b.bodyEnd
  ordered : b.bodyEnd ≤ b.stop
  last : b.stop ≤ t.lines.length

theorem lies_of_mem_all {l : Language} {t : Text} {b : TryBlock} (hb : b ∈ all (prepare l t)) :
    b.Lies t := by
  obtain ⟨i, hi, offset, rfl⟩ := exists_of_mem_all hb
  obtain ⟨hordered, hstop⟩ := reachAt_ordered hi offset
  rw [length_maskedLines] at hstop
  constructor
  · show 1 ≤ i + 1
    omega
  · show i + 1 ≤ i + _ + 1
    omega
  · show i + _ + 1 ≤ i + _ + 1
    omega
  · exact hstop

/-- The run of lines below the first one of a block that are blank or deeper than it. -/
def run (p : Prepared) (b : TryBlock) : List Text :=
  deeper (p.maskedLines.getD (b.start - 1) []).indentWidth (p.maskedLines.drop b.start)

/-- Whether a body ends with the last line of a run below its first one that is not blank, or with
the first one if the run has no such line. -/
structure EndsWith (b : TryBlock) (run : List Text) : Prop where
  within : b.bodyEnd ≤ b.start + run.length
  filled : ∀ k, b.bodyEnd = b.start + k + 1 → ∃ row, run[k]? = some row ∧ row.isBlank = false
  behind : ∀ row ∈ run.drop (b.bodyEnd - b.start), row.isBlank = true

theorem endsWith_run {p : Prepared} {b : TryBlock} (hb : b ∈ all p)
    (hindented : p.language.usesBraces = false) : b.EndsWith (b.run p) := by
  obtain ⟨i, -, offset, hblock⟩ := exists_of_mem_all hb
  have hstart : b.start = i + 1 := by rw [hblock]
  have hend : b.bodyEnd = i + (reachAt p i offset).body + 1 := by rw [hblock]
  have hrun : b.run p =
      deeper (p.maskedLines.getD i []).indentWidth (p.maskedLines.drop (i + 1)) := by
    rw [run, hstart, Nat.add_sub_cancel]
  rw [reachAt, hindented, if_neg Bool.false_ne_true] at hend
  rcases indentReach_body (handlerForm p.language) (p.maskedLines.getD i []).indentWidth 0 0
    (p.maskedLines.drop (i + 1)) with ⟨hbody, hall⟩ | ⟨k, row, hbody, hk, hrow, hall⟩
  · rw [hbody] at hend
    rw [← hrun] at hall
    constructor
    · omega
    · intro k hk
      omega
    · intro row hrow
      exact hall row (List.mem_of_mem_drop hrow)
  · rw [hbody] at hend
    rw [← hrun] at hk hall
    have hlt : k < (b.run p).length := (List.getElem?_eq_some_iff.mp hk).1
    constructor
    · omega
    · intro j hj
      obtain rfl : j = k := by omega
      exact ⟨row, hk, hrow⟩
    · have htaken : b.bodyEnd - b.start = k + 1 := by omega
      rwa [htaken]

/-- The blocks of a source start one below the other, and each lies on lines of the source: its body
begins with it and ends no later. By indentation the body ends with the last line of the run below its
first one that is not blank, so no such line of the run is left out, whatever it begins with. -/
theorem blocks_in_order (l : Language) (t : Text) :
    ((all (prepare l t)).Pairwise fun b c => b.start < c.start) ∧
      ∀ b ∈ all (prepare l t), b.Lies t ∧
        (l.usesBraces = false →
          b.EndsWith (b.run (prepare l t)) ∧
            ∀ k row, (b.run (prepare l t))[k]? = some row → row.isBlank = false →
              b.covers (b.start + k + 1) = true) := by
  refine ⟨all_pairwise _, fun b hb => ⟨lies_of_mem_all hb, fun hindented => ?_⟩⟩
  have hends := endsWith_run hb hindented
  refine ⟨hends, ?_⟩
  intro k row hk hrow
  -- a line behind the end of the body would be blank
  have hlt : k < b.bodyEnd - b.start := by
    by_contra hge
    have hdropped : row ∈ (b.run (prepare l t)).drop (b.bodyEnd - b.start) :=
      List.mem_iff_getElem?.mpr ⟨k - (b.bodyEnd - b.start), by
        rw [List.getElem?_drop, Nat.add_sub_of_le (Nat.le_of_not_lt hge), hk]⟩
    rw [hends.behind row hdropped] at hrow
    cases hrow
  rw [covers, Bool.and_eq_true, decide_eq_true_eq, decide_eq_true_eq]
  exact ⟨by omega, by omega⟩

/-- Two blocks, one in the other, each with a handler. -/
def nested : Text :=
  "try:\n    a()\n    try:\n        b()\n    except E:\n        c()\n\nexcept F:\n    d()\n".toList

/-- The handler of the inner block stands in the body of the outer one, which ends behind it. -/
theorem blocks_in_order_nested :
    Language.python.usesBraces = false ∧
      (all (prepare Language.python nested)).map (fun b => (b.start, b.bodyEnd, b.stop)) =
        [(1, 6, 9), (3, 4, 6)] ∧
      ∃ b ∈ all (prepare Language.python nested), b.Lies nested ∧
        b.EndsWith (b.run (prepare Language.python nested)) ∧
        (b.run (prepare Language.python nested))[3]? = some "    except E:".toList ∧
        b.covers 5 = true := by
  have hplaces : (all (prepare Language.python nested)).map
      (fun b => (b.start, b.bodyEnd, b.stop)) = [(1, 6, 9), (3, 4, 6)] := by decide +kernel
  obtain ⟨b, rest, hblocks⟩ : ∃ b rest, all (prepare Language.python nested) = b :: rest :=
    List.exists_cons_of_ne_nil (by rintro hnil; rw [hnil] at hplaces; cases hplaces)
  rw [hblocks] at hplaces
  have hstart : b.start = 1 := by
    injection hplaces with hfirst
    exact congrArg Prod.fst hfirst
  have hb : b ∈ all (prepare Language.python nested) := hblocks ▸ List.mem_cons_self
  obtain ⟨hlies, hindented⟩ := (blocks_in_order Language.python nested).2 b hb
  obtain ⟨hends, hcovers⟩ := hindented rfl
  have hline : (b.run (prepare Language.python nested))[3]? = some "    except E:".toList := by
    rw [run, hstart]
    decide +kernel
  have hcovered := hcovers 3 _ hline (by decide)
  rw [hstart] at hcovered
  exact ⟨rfl, hblocks ▸ hplaces, b, hb, hlies, hends, hline, hcovered⟩

end TryBlock

/-! ## Names of a body -/

theorem Text.ne_nil_of_mem_namesFrom {name under t : Text} (h : name ∈ namesFrom under t) :
    name ≠ [] := by
  induction t generalizing under with
  | nil =>
    cases under with
    | nil => exact absurd h List.not_mem_nil
    | cons d under =>
      rw [namesFrom, List.mem_singleton] at h
      · rw [h]
        simp
      · simp
  | cons c rest ih =>
    cases under with
    | nil =>
      rw [namesFrom] at h
      split at h
      · exact ih h
      · exact ih h
    | cons d under =>
      rw [namesFrom] at h
      split at h
      · exact ih h
      · rcases List.mem_cons.mp h with rfl | h
        · simp
        · exact ih h

namespace TryBlock

/-- The names on a line of the body, if it is one of the lines that give a block its scope, are in
the scope, common words aside. -/
theorem mem_scopeWithin {l : Language} {body j : Nat} {lines : List Text} {row name : Text}
    (hrow : lines[j]? = some row) (hscope : j < scopeLines) (hbody : j ≤ body)
    (hname : name ∈ Text.names row) (hcommon : Names.commonWords.contains name = false) :
    name ∈ scopeWithin l body lines := by
  have hempty : name.isEmpty = false :=
    List.isEmpty_eq_false_iff.mpr (Text.ne_nil_of_mem_namesFrom hname)
  have htaken : (lines.take scopeLines)[j]? = some row := by
    rw [List.getElem?_take_of_lt hscope, hrow]
  refine List.mem_filter.mpr ⟨List.mem_flatMap.mpr ⟨(row, j), ?_, ?_⟩, ?_⟩
  · exact List.mk_mem_zipIdx_iff_getElem?.mpr htaken
  · have hin : decide (j ≤ body) = true := decide_eq_true hbody
    show name ∈ scopeOf l (decide (j ≤ body)) row
    rw [scopeOf, hin, if_pos rfl]
    exact List.mem_append_right _ hname
  · rw [hempty, hcommon]
    rfl

/-- A name on a line of the body that counts there as a variable is in the scope of the block, if
the line is one of those that give the scope. -/
theorem mem_scope {p : Prepared} {b : TryBlock} (hb : b ∈ all p) {k : Nat} {row name : Text}
    (hrow : p.maskedLines[k]? = some row) (hlow : b.start ≤ k + 1) (hbody : k + 1 ≤ b.bodyEnd)
    (hscope : k + 1 < b.start + scopeLines) (hname : name ∈ (Context.ofSource p).namesOn row) :
    name ∈ b.scope := by
  obtain ⟨i, -, offset, rfl⟩ := exists_of_mem_all hb
  obtain ⟨hmem, hfilter⟩ := List.mem_filter.mp hname
  have hcommon : Names.commonWords.contains name = false := by
    simpa using (Bool.and_eq_true_iff.mp hfilter).1
  obtain ⟨j, rfl⟩ := Nat.exists_eq_add_of_le (Nat.le_of_succ_le_succ hlow)
  dsimp only at hbody hscope
  have hline : (p.maskedLines.drop i)[j]? = some row := by rw [List.getElem?_drop, hrow]
  exact mem_scopeWithin hline (by omega) (by omega) hmem hcommon

/-- The first lines of the body of a block, as many as give it its scope, are protected as soon as a
name on them counts as a variable. Then no operation is reported there, of whichever list and up to
whichever number of lines, and so none by the check under any thresholds. -/
theorem named_lines_unreported (l : Language) (t : Text) (b : TryBlock) (k : Nat) (row : Text)
    (hb : b ∈ all (prepare l t)) (hrow : (prepare l t).maskedLines[k]? = some row)
    (hlow : b.start ≤ k + 1) (hhigh : k + 1 ≤ min b.bodyEnd (b.start + 9))
    (hnames : (Context.ofSource (prepare l t)).namesOn row ≠ []) :
    (Context.ofSource (prepare l t)).isProtected (k + 1) row = true ∧
      (∀ (limit : Nat) (ops : List RiskyOperation),
        ∀ i ∈ RiskyOperation.report limit ops (prepare l t) (Context.ofSource (prepare l t)),
          i.line ≠ k + 1) ∧
      ∀ (th : Thresholds) (found : List RawIssue),
        Detector.riskyOperations th (prepare l t) (Context.ofSource (prepare l t)) = .ok found →
          ∀ i ∈ found, i.line ≠ k + 1 := by
  obtain ⟨name, hname⟩ := List.exists_mem_of_ne_nil _ hnames
  obtain ⟨hbody, hnine⟩ := Nat.le_min.mp hhigh
  have hscope : name ∈ b.scope :=
    mem_scope hb hrow hlow hbody (by rw [scopeLines]; omega) hname
  have hcovers : b.covers (k + 1) = true := by
    rw [covers, Bool.and_eq_true, decide_eq_true_eq, decide_eq_true_eq]
    exact ⟨hlow, hbody⟩
  have hprotected := isProtected_of_covers hb hcovers hname hscope
  have hreport : ∀ (limit : Nat) (ops : List RiskyOperation),
      ∀ i ∈ RiskyOperation.report limit ops (prepare l t) (Context.ofSource (prepare l t)),
        i.line ≠ k + 1 := by
    intro limit ops i hi hline
    obtain ⟨op, -, j, other, hother, hj, hunguarded⟩ := RiskyOperation.exists_of_mem_report hi
    obtain rfl : j = k := by omega
    obtain rfl : row = other := Option.some.inj (hrow.symm.trans hother)
    rw [isUnguarded_of_isProtected op _ hprotected] at hunguarded
    cases hunguarded
  refine ⟨hprotected, hreport, ?_⟩
  intro th found hfound
  rcases Detector.eq_nil_or_eq_ok_of_ite hfound with rfl | hfound
  · exact fun i hi => absurd hi List.not_mem_nil
  · obtain ⟨n, rfl⟩ := Detector.eq_of_map_eq_ok hfound
    exact hreport _ _

/-- A body with a call on the last line that gives the block its scope. -/
def farCall : Text :=
  "try \x7b\n\n\n\n\n\n\n\n\n  JSON.parse(x);\n\x7d catch (e) \x7b\n\x7d\n".toList

/-- The call is left alone, also if one line is all that may be reported. -/
theorem named_lines_unreported_farCall :
    (prepare Language.javaScript farCall).maskedLines[9]? = some "  JSON.parse(x);".toList ∧
      (Context.ofSource (prepare Language.javaScript farCall)).isProtected 10
        "  JSON.parse(x);".toList = true ∧
      ∀ i ∈ RiskyOperation.report 1 RiskyOperation.catalogue
        (prepare Language.javaScript farCall)
        (Context.ofSource (prepare Language.javaScript farCall)), i.line ≠ 10 := by
  have hb : ⟨1, 11, 12, ["JSON", "parse", "x"].map String.toList⟩ ∈
      all (prepare Language.javaScript farCall) := by decide +kernel
  have hrow : (prepare Language.javaScript farCall).maskedLines[9]? =
      some "  JSON.parse(x);".toList := by decide +kernel
  have hnames : (Context.ofSource (prepare Language.javaScript farCall)).namesOn
      "  JSON.parse(x);".toList ≠ [] := by decide +kernel
  obtain ⟨hprotected, hreport, -⟩ :=
    named_lines_unreported Language.javaScript farCall _ 9 _ hb hrow (by decide) (by decide) hnames
  exact ⟨hrow, hprotected, fun i hi => hreport 1 RiskyOperation.catalogue i hi⟩

end TryBlock
end SourceAudit
