import Mathlib.Data.List.Find
import SourceAudit.Language.JavaScript
import SourceAudit.Proofs.Detector.FindingLines
import SourceAudit.Proofs.Text.MarkedText
import SourceAudit.Proofs.Violation.LineMerge
import SourceAudit.Score.Advice

/-!
  What a name does to the finding that it is unused.

  Category and advice go by the words of a message, and this message quotes the name.
  What is proved:
    1. `small_unusedMessage` — in small letters the message is the name in small letters,
       in its frame.
    2. `answer?_unusedMessage` — a rule that comes before the one for unused variables
       applies to the message exactly if it applies to the name.
    3. `unused_overruled` — so a finding has the category and the advice of unused
       variables exactly if its name holds none of the words of earlier rules, and two
       findings have the same exactly if the same earlier rule applies to both names.
-/
namespace SourceAudit

/-! ## Rules that go by words -/

/-- Rules in order, each with the words that call for its answer. -/
abbrev WordRules := List (List String × String)

namespace WordRules

/-- The answer of the first rule one of whose words stands in a text. -/
def answer? (rules : WordRules) (t : Text) : Option String :=
  (rules.find? fun rule => rule.1.any fun w => Text.holds w.toList t).map (·.2)

/-- The rules that come before the one with an answer. -/
def before (rules : WordRules) (own : String) : WordRules :=
  rules.takeWhile fun rule => rule.2 != own

/-- The words of rules. -/
def words (rules : WordRules) : List String := rules.flatMap (·.1)

variable {rules : WordRules} {own : String} {t : Text}

theorem answer?_cons_of_any (rule : List String × String)
    (h : (rule.1.any fun w => Text.holds w.toList t) = true) (rest : WordRules) :
    answer? (rule :: rest) t = some rule.2 := by
  have hfound : (rule :: rest).find? (fun rule => rule.1.any fun w => Text.holds w.toList t) =
      some rule := List.find?_cons_of_pos h
  rw [answer?, hfound]
  rfl

theorem answer?_append (first second : WordRules) (t : Text) :
    answer? (first ++ second) t = (first.answer? t).or (second.answer? t) := by
  rw [answer?, List.find?_append, Option.map_or]
  rfl

/-- Texts that hold the same words of the rules get the same answer. -/
theorem answer?_congr {s : Text}
    (h : ∀ w ∈ rules.words, Text.holds w.toList t = Text.holds w.toList s) :
    rules.answer? t = rules.answer? s := by
  have hrule : ∀ rule ∈ rules, (rule.1.any fun w => Text.holds w.toList t) =
      rule.1.any fun w => Text.holds w.toList s := by
    intro rule hrule
    have hwords : ∀ w ∈ rule.1, Text.holds w.toList t = Text.holds w.toList s := fun w hw =>
      h w (List.mem_flatMap.mpr ⟨rule, hrule, hw⟩)
    rw [Bool.eq_iff_iff, List.any_eq_true, List.any_eq_true]
    exact exists_congr fun w => and_congr_right fun hw => by rw [hwords w hw]
  unfold answer?
  rw [List.find?_congr hrule]

theorem answer?_eq_none_iff : rules.answer? t = none ↔ ∀ w ∈ rules.words, Text.holds w.toList t = false := by
  simp only [answer?, words, Option.map_eq_none_iff, List.find?_eq_none, List.any_eq_true,
    List.mem_flatMap, not_exists, not_and, Bool.not_eq_true, forall_exists_index, and_imp]
  exact ⟨fun h w rule hrule hw => h rule hrule w hw, fun h rule hrule w hw => h w rule hrule hw⟩

/-- Rules that come before an answer have another one. -/
theorem ne_of_answer?_before {a : String} (h : (rules.before own).answer? t = some a) : a ≠ own := by
  obtain ⟨rule, hrule, rfl⟩ := Option.map_eq_some_iff.mp h
  have hmem := List.mem_of_find?_eq_some hrule
  simpa using List.all_eq_true.mp (List.all_takeWhile) rule hmem

theorem getD_answer?_before_eq_iff :
    ((rules.before own).answer? t).getD own = own ↔
      ∀ w ∈ (rules.before own).words, Text.holds w.toList t = false := by
  rw [← answer?_eq_none_iff]
  cases h : (rules.before own).answer? t with
  | none => simp
  | some a => simpa using ne_of_answer?_before h

theorem getD_answer?_before_inj {s : Text} :
    ((rules.before own).answer? t).getD own = ((rules.before own).answer? s).getD own ↔
      (rules.before own).answer? t = (rules.before own).answer? s := by
  cases ht : (rules.before own).answer? t with
  | none =>
    cases hs : (rules.before own).answer? s with
    | none => simp
    | some b => simpa using (ne_of_answer?_before hs).symm
  | some a =>
    cases hs : (rules.before own).answer? s with
    | none => simpa using ne_of_answer?_before ht
    | some b => simp

end WordRules

/-- The rules for categories. -/
def Category.wordRules : WordRules := Category.rules

/-- The rules for advice, one word each. -/
def Advice.wordRules : WordRules := Advice.rules.map fun rule => ([rule.1], rule.2)

theorem Category.of_eq {message c : String}
    (h : Category.wordRules.answer? (Message.small message) = some c) :
    Category.of message = c := by
  obtain ⟨rule, hrule, rfl⟩ := Option.map_eq_some_iff.mp h
  unfold Category.of
  dsimp only
  rw [show Category.rules.find? _ = some rule from hrule]

theorem Advice.suggestion_eq {message a : String}
    (h : Advice.wordRules.answer? (Message.small message) = some a) :
    Advice.suggestion message = a := by
  unfold WordRules.answer? Advice.wordRules at h
  rw [List.find?_map, Option.map_map] at h
  obtain ⟨rule, hrule, rfl⟩ := Option.map_eq_some_iff.mp h
  have hfound : Advice.rules.find? (fun rule => Text.holds rule.1.toList (Message.small message)) =
      some rule := by
    simpa [Function.comp_def] using hrule
  unfold Advice.suggestion
  dsimp only
  rw [hfound]
  rfl

namespace Detector

/-! ## The message about a name -/

/-- The message that a name is unused. -/
def unusedMessage (name : Text) : String := "Unused variable '" ++ String.ofList name ++ "'"

/-- A finding about unused variables quotes a name that is declared. -/
theorem message_of_mem_unusedVariables {p : Prepared} {r : RawIssue} (h : r ∈ unusedVariables p) :
    ∃ d ∈ declarations p, r.message = unusedMessage d.1 := by
  obtain ⟨⟨name, line⟩, hunused, rfl⟩ := List.mem_map.mp h
  obtain ⟨d, hd, heq⟩ := List.mem_map.mp (mem_firstOfEach (List.mem_filter.mp hunused).1)
  obtain ⟨rfl, rfl⟩ := Prod.mk.inj heq
  exact ⟨d, hd, rfl⟩

/-- The characters of a text that is put into a frame. -/
theorem toList_framed (lead tail : String) (t : Text) :
    (lead ++ String.ofList t ++ tail).toList = lead.toList ++ (t ++ tail.toList) := by
  rw [String.toList_append, String.toList_append, String.toList_ofList, List.append_assoc]

theorem toList_unusedMessage (name : Text) :
    (unusedMessage name).toList = "Unused variable".toList ++ ' ' :: '\'' :: (name ++ ['\'']) := by
  have hlead : "Unused variable '".toList = "Unused variable".toList ++ [' ', '\''] := by
    decide
  have hclose : "'".toList = ['\''] := by decide
  refine (toList_framed _ _ name).trans ?_
  rw [hlead, hclose]
  exact List.append_assoc _ [' ', '\''] _

/-- The message tells the name. -/
theorem unusedMessage_inj {x y : Text} (h : unusedMessage x = unusedMessage y) : x = y := by
  have hlists := congrArg String.toList h
  rw [toList_unusedMessage, toList_unusedMessage, List.append_cancel_left_eq] at hlists
  simpa using hlists

/-- In small letters the message is the name in small letters, in its frame: neither the blank nor
the closing apostrophe lets a sigma see what stands behind it. -/
theorem small_unusedMessage (name : Text) :
    Message.small (unusedMessage name) =
      "unused variable ".toList ++ '\'' :: (Text.lower name ++ ['\'']) := by
  have hlead : Unicode.lowerAfter false "Unused variable".toList = "unused variable".toList := by
    decide
  have hblank : Unicode.goesOnCased (' ' :: '\'' :: (name ++ ['\''])) = false := by
    rw [Unicode.goesOnCased_cons (by decide)]
    decide
  have hclose : Unicode.goesOnCased ['\''] = false := by decide
  have hend : ∀ flag, Unicode.lowerAfter flag ['\''] = ['\''] := by decide
  have hframe : ∀ flag, Unicode.lowerAfter flag (' ' :: '\'' :: (name ++ ['\''])) =
      ' ' :: '\'' :: (Unicode.lowerAfter false name ++ ['\'']) := by
    intro flag
    rw [Unicode.lowerAfter_cons (by decide), Unicode.lowerAfter_cons (by decide),
      show Unicode.isInert ' ' = false by decide,
      show Unicode.isInert '\'' = true by decide,
      show Unicode.isCased ' ' = false by decide,
      show Unicode.lowers ' ' = [' '] by decide,
      show Unicode.lowers '\'' = ['\''] by decide,
      Unicode.lowerAfter_append hclose, hend]
    rfl
  have hblanks : "unused variable ".toList = "unused variable".toList ++ [' '] := by decide
  rw [Message.small, Text.lower, Text.lower, Unicode.lowerText_eq, Unicode.lowerText_eq,
    toList_unusedMessage, Unicode.lowerAfter_append hblank, hlead, hframe, hblanks]
  exact (List.append_assoc _ [' '] _).symm

/-- A word without an apostrophe that does not stand in the frame stands in the message exactly if
it stands in the name. -/
theorem holds_unusedMessage {w : Text} (hmark : '\'' ∉ w)
    (hframe : Text.holds w "unused variable ".toList = false) (name : Text) :
    Text.holds w (Message.small (unusedMessage name)) = Text.holds w (Text.lower name) := by
  have hend : Text.holds w [] = false := by
    cases w with
    | nil => exact absurd hframe (by decide)
    | cons c w => rfl
  rw [small_unusedMessage, Text.holds_append_mark hmark, Text.holds_append_mark hmark, hframe, hend,
    Bool.false_or, Bool.or_false]

/-- Rules whose own answer for the message is the one for unused variables, if no rule before it
applies to the name. -/
structure SuitsUnused (rules : WordRules) (own : String) : Prop where
  before : ∀ w ∈ (rules.before own).words,
    '\'' ∉ w.toList ∧ Text.holds w.toList "unused variable ".toList = false
  own : (rules.dropWhile fun rule => rule.2 != own).head? = some (["unused variable"], own)

/-- A rule that comes before the one for unused variables applies to the message exactly if it
applies to the name. -/
theorem answer?_unusedMessage {rules : WordRules} {own : String} (h : SuitsUnused rules own)
    (name : Text) :
    rules.answer? (Message.small (unusedMessage name)) =
      some (((rules.before own).answer? (Text.lower name)).getD own) := by
  have hbefore : (rules.before own).answer? (Message.small (unusedMessage name)) =
      (rules.before own).answer? (Text.lower name) :=
    WordRules.answer?_congr fun w hw =>
      holds_unusedMessage (h.before w hw).1 (h.before w hw).2 name
  obtain ⟨rest, hrest⟩ := List.head?_eq_some_iff.mp h.own
  have hown : Text.holds "unused variable".toList (Message.small (unusedMessage name)) = true := by
    have hlead : Text.holds "unused variable".toList "unused variable ".toList = true := by
      decide
    rw [small_unusedMessage, Text.holds_append_mark (by decide), hlead]
    rfl
  have hcut : rules = rules.before own ++ (["unused variable"], own) :: rest := by
    rw [← hrest]
    exact List.takeWhile_append_dropWhile.symm
  have hfirst : (["unused variable"].any fun w =>
      Text.holds w.toList (Message.small (unusedMessage name))) = true := by
    rw [List.any_cons, hown, Bool.true_or]
  have hrule := WordRules.answer?_cons_of_any (["unused variable"], own) hfirst rest
  rw [hcut, WordRules.answer?_append, hbefore, hrule, ← hcut]
  cases (rules.before own).answer? (Text.lower name) <;> rfl

end Detector

/-! ## Category and advice -/

/-- The category of unused variables. -/
def Category.unused : String := "Unused variables"

/-- The advice on unused variables. -/
def Advice.unused : String := "Remove unused variables to reduce clutter and improve readability."

/-- The rules for categories that come before the one for unused variables. -/
def Category.overruling : WordRules := Category.wordRules.before Category.unused

/-- The rules for advice that come before the one for unused variables. -/
def Advice.overruling : WordRules := Advice.wordRules.before Advice.unused

namespace Detector

theorem suitsUnused_category : SuitsUnused Category.wordRules Category.unused :=
  ⟨by decide, by decide⟩

theorem suitsUnused_advice : SuitsUnused Advice.wordRules Advice.unused :=
  ⟨by decide, by decide⟩

theorem category_unusedMessage (name : Text) :
    Category.of (unusedMessage name) =
      (Category.overruling.answer? (Text.lower name)).getD Category.unused :=
  Category.of_eq (answer?_unusedMessage suitsUnused_category name)

theorem suggestion_unusedMessage (name : Text) :
    Advice.suggestion (unusedMessage name) =
      (Advice.overruling.answer? (Text.lower name)).getD Advice.unused :=
  Advice.suggestion_eq (answer?_unusedMessage suitsUnused_advice name)

/-- A finding alone on its line gives a violation with its message. -/
theorem issues_singleton (r : RawIssue) :
    Merge.issues [r] =
      [⟨r.line, r.message, Merge.severityOf [r], Category.of r.message, r.kind⟩] := by
  have hlines : Merge.linesOf [r] = [r.line] := rfl
  have halone : Merge.onLine r.line [r] = [r] := by simp [Merge.onLine]
  rw [Merge.issues, hlines, List.filterMap_cons, List.filterMap_nil, halone]
  rfl

/-- What the finding about a name comes to: its violation has the category of unused variables, and
the advice on them, exactly if no word of an earlier rule stands in the name. -/
structure Tells (name : Text) (r : RawIssue) (i : Issue) : Prop where
  message : r.message = unusedMessage name
  violation : Merge.issues [r] = [i]
  category : i.category = Category.unused ↔
    ∀ w ∈ Category.overruling.words, Text.holds w.toList (Text.lower name) = false
  advice : (Advice.ofIssue i).suggestion = Advice.unused ↔
    ∀ w ∈ Advice.overruling.words, Text.holds w.toList (Text.lower name) = false

theorem tells_of_message {name : Text} {r : RawIssue} (h : r.message = unusedMessage name) :
    Tells name r ⟨r.line, r.message, Merge.severityOf [r], Category.of r.message, r.kind⟩ where
  message := h
  violation := issues_singleton r
  category := by
    rw [h, category_unusedMessage]
    exact WordRules.getD_answer?_before_eq_iff
  advice := by
    rw [Advice.ofIssue, h, suggestion_unusedMessage]
    exact WordRules.getD_answer?_before_eq_iff

/-- Findings about unused variables, of the same source or of two. Each quotes a declared name, and
has the category and the advice of unused variables exactly if no word of an earlier rule stands
in that name. Both have the same category, and the same advice, exactly if the same earlier rule
applies to both names, or none. -/
theorem unused_overruled {p q : Prepared} {r s : RawIssue} (hr : r ∈ unusedVariables p)
    (hs : s ∈ unusedVariables q) :
    ∃ x ∈ declarations p, ∃ y ∈ declarations q, ∃ i j, Tells x.1 r i ∧ Tells y.1 s j ∧
      (i.category = j.category ↔
        Category.overruling.answer? (Text.lower x.1) =
          Category.overruling.answer? (Text.lower y.1)) ∧
      ((Advice.ofIssue i).suggestion = (Advice.ofIssue j).suggestion ↔
        Advice.overruling.answer? (Text.lower x.1) =
          Advice.overruling.answer? (Text.lower y.1)) := by
  obtain ⟨x, hx, hrx⟩ := message_of_mem_unusedVariables hr
  obtain ⟨y, hy, hsy⟩ := message_of_mem_unusedVariables hs
  refine ⟨x, hx, y, hy, _, _, tells_of_message hrx, tells_of_message hsy, ?_, ?_⟩
  · rw [hrx, hsy, category_unusedMessage, category_unusedMessage]
    exact WordRules.getD_answer?_before_inj
  · rw [Advice.ofIssue, Advice.ofIssue, hrx, hsy, suggestion_unusedMessage,
      suggestion_unusedMessage]
    exact WordRules.getD_answer?_before_inj

/-- The words that take a name to another category. -/
example : Category.overruling.words =
    ["nesting", "long function", "function length", "await", "promise", "error handling",
     "comment", "documentation", "magic number", "constant"] := by
  decide

/-- The words that bring other advice on a name. -/
example : Advice.overruling.words =
    ["null", "array", "division", "json", "file", "cast", "throw", "raise", "promise",
     "error handling", "magic number"] := by
  decide

/-- A source that declares one name and never uses it. -/
def declaring (name : String) : Prepared :=
  prepare Language.javaScript ("let " ++ name ++ " = 1;\n").toList

/-- The finding in such a source. -/
def aboutName (name : String) : RawIssue :=
  ⟨1, unusedMessage name.toList, .minor, "unused-variables"⟩

theorem promise_mem : aboutName "promise" ∈ unusedVariables (declaring "promise") := by decide

/-- A plain name is told as an unused variable, and a promise is not. -/
theorem unused_overruled_promise :
    (∃ i, Merge.issues [aboutName "total"] = [i] ∧ i.category = Category.unused ∧
      (Advice.ofIssue i).suggestion = Advice.unused) ∧
    ∃ j, Merge.issues [aboutName "promise"] = [j] ∧ j.category ≠ Category.unused ∧
      (Advice.ofIssue j).suggestion ≠ Advice.unused := by
  have htotal : aboutName "total" ∈ unusedVariables (declaring "total") := by decide
  obtain ⟨x, -, y, -, i, j, hi, hj, -, -⟩ := unused_overruled htotal promise_mem
  have hxname : x.1 = "total".toList := unusedMessage_inj hi.message.symm
  have hyname : y.1 = "promise".toList := unusedMessage_inj hj.message.symm
  refine ⟨⟨i, hi.violation, hi.category.mpr ?_, hi.advice.mpr ?_⟩, j, hj.violation,
    mt hj.category.mp ?_, mt hj.advice.mp ?_⟩
  · rw [hxname]
    decide
  · rw [hxname]
    decide
  · rw [hyname]
    decide
  · rw [hyname]
    decide

/-- Not every finding about an unused variable is told as one: the name of a promise gives it the
category and the advice of unhandled promises. -/
theorem promise_not_unused : ¬ ∀ p : Prepared, ∀ r ∈ unusedVariables p,
    Category.of r.message = Category.unused ∧ Advice.suggestion r.message = Advice.unused := by
  intro hunused
  have hcategory : Category.of (aboutName "promise").message = "Unhandled promises" := by
    decide
  have hsame := (hunused _ _ promise_mem).1
  rw [hcategory] at hsame
  exact absurd hsame (by decide)

end Detector
end SourceAudit
