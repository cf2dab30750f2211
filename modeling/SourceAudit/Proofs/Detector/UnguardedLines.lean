import Mathlib.Data.List.Nodup
import SourceAudit.Language.JavaScript
import SourceAudit.Detector.Battery
import SourceAudit.Proofs.Source.PreparedLines

/-!
  Which operations stand unguarded, seen from what is known of the names.

  A context is within another one if the other knows of every name at least as
  much and has every protected block with at least its scope. What is proved:
    1. `isGuarded_mono`, `inTryBlock_mono`, `isProtected_mono` — one lemma for each
       thing that can guard an operation: what guards it within a context guards it
       within a larger one.
    2. `isUnguarded_anti` — so what is unguarded in the larger context is unguarded
       in the smaller one.
    3. `mem_unguardedLines`, `unguardedLines_pairwise` — the lines of an operation
       are all that it stands unguarded on, in increasing order.
    4. `report_filter` — of these the first are reported, if the operations have
       different names.
    5. `unguarded_antitone` — all of it for the operations that are looked for.
-/
namespace SourceAudit

/-- Whether a block has the lines of another one and no less in its scope. -/
structure TryBlock.IsWithin (b b' : TryBlock) : Prop where
  start : b'.start = b.start
  bodyEnd : b'.bodyEnd = b.bodyEnd
  stop : b'.stop = b.stop
  scope : b.scope ⊆ b'.scope

/-- Whether another context has the same keywords, knows of every name at least as much, and has
every block with no less in its scope. -/
structure Context.IsWithin (c c' : Context) : Prop where
  keywords : ∀ word, word ∈ c.keywords ↔ word ∈ c'.keywords
  bound : c.bound ⊆ c'.bound
  nullChecked : c.nullChecked ⊆ c'.nullChecked
  zeroChecked : c.zeroChecked ⊆ c'.zeroChecked
  tryBlocks : ∀ b ∈ c.tryBlocks, ∃ b' ∈ c'.tryBlocks, b.IsWithin b'

namespace Context

variable {c c' : Context}

theorem contains_mono {names others : List Text} (h : names ⊆ others) {name : Text}
    (hname : names.contains name = true) : others.contains name = true :=
  List.contains_iff_mem.mpr (h (List.contains_iff_mem.mp hname))

/-- The names on a line do not depend on the order of the keywords. -/
theorem namesOn_congr (h : ∀ word, word ∈ c.keywords ↔ word ∈ c'.keywords) (line : Text) :
    c.namesOn line = c'.namesOn line := by
  have hsame : ∀ word, c.keywords.contains word = c'.keywords.contains word := fun word => by
    rw [Bool.eq_iff_iff, List.contains_iff_mem, List.contains_iff_mem, h]
  simp only [namesOn, Names.onLine, hsame]

/-- A protected line stays protected. -/
theorem isProtected_mono (h : c.IsWithin c') {n : Nat} {line : Text}
    (hprotected : c.isProtected n line = true) : c'.isProtected n line = true := by
  rw [isProtected, List.any_eq_true] at hprotected ⊢
  obtain ⟨b, hb, hboth⟩ := hprotected
  obtain ⟨hcovers, hnamed⟩ := Bool.and_eq_true_iff.mp hboth
  obtain ⟨name, hname, hscope⟩ := List.any_eq_true.mp hnamed
  obtain ⟨b', hb', hwithin⟩ := h.tryBlocks b hb
  refine ⟨b', hb', Bool.and_eq_true_iff.mpr ⟨?_, List.any_eq_true.mpr ⟨name, ?_, ?_⟩⟩⟩
  · rwa [TryBlock.covers, hwithin.start, hwithin.bodyEnd]
  · rwa [← namesOn_congr h.keywords]
  · exact contains_mono hwithin.scope hscope

end Context

namespace RiskyOperation

variable {c c' : Context}

/-! ## What guards an operation -/

theorem isKnown_mono (h : c.IsWithin c') {name : Option Text} (hname : isKnown c name = true) :
    isKnown c' name = true := by
  cases name with
  | none => exact hname
  | some name => exact Context.contains_mono h.nullChecked hname

theorem isBound_mono (h : c.IsWithin c') {name : Option Text} (hname : isBound c name = true) :
    isBound c' name = true := by
  cases name with
  | none => exact hname
  | some name => exact Context.contains_mono h.bound hname

/-- What a match works on stays safe, whatever the guard is. -/
theorem isGuarded_mono (h : c.IsWithin c') {guard : Guard} {m : Match}
    (hsafe : isGuarded guard c m = true) : isGuarded guard c' m = true := by
  cases guard with
  | none => exact hsafe
  | declared => exact hsafe
  | nonNull => exact isKnown_mono h hsafe
  | typed => exact isKnown_mono h hsafe
  | receiver =>
    simp only [isGuarded, Bool.or_eq_true] at hsafe ⊢
    exact hsafe.imp_right (isKnown_mono h)
  | bounds =>
    simp only [isGuarded, Bool.or_eq_true] at hsafe ⊢
    rcases hsafe with ((hindex | hsubject) | hindex) | hsubject
    · exact .inl (.inl (.inl (isBound_mono h hindex)))
    · exact .inl (.inl (.inr (isBound_mono h hsubject)))
    · exact .inl (.inr (isKnown_mono h hindex))
    · exact .inr (isKnown_mono h hsubject)
  | nonZero =>
    simp only [isGuarded] at hsafe ⊢
    split at hsafe
    · exact hsafe
    · split at hsafe
      · next hdigit => rw [if_pos hdigit]; exact hsafe
      · next hdigit => rw [if_neg hdigit]; exact Context.contains_mono h.zeroChecked hsafe

theorem inTryBlock_mono (h : c.IsWithin c') {i : Nat} (hin : inTryBlock c i = true) :
    inTryBlock c' i = true := by
  rw [inTryBlock, List.any_eq_true] at hin ⊢
  obtain ⟨b, hb, hlines⟩ := hin
  obtain ⟨b', hb', hwithin⟩ := h.tryBlocks b hb
  exact ⟨b', hb', by rwa [hwithin.start, hwithin.stop]⟩

/-- An operation stands unguarded on a line if some match is not safe, and neither a block nor a
declaration guards the line. -/
theorem isUnguarded_iff {op : RiskyOperation} {p : Prepared} {i : Nat} {line : Text} :
    op.isUnguarded p c i line = true ↔
      (∃ m ∈ op.form.findAll line, isGuarded op.guard c m = false) ∧
        (op.statement = true → inTryBlock c i = false) ∧ c.isProtected (i + 1) line = false ∧
          (op.guard = .declared →
            declaresThrows p.language (p.maskedLines.take (i + 1)).reverse = false) := by
  have hmatch : (op.form.findAll line).any (fun m => !isGuarded op.guard c m) = true ↔
      ∃ m ∈ op.form.findAll line, isGuarded op.guard c m = false := by
    simp only [List.any_eq_true, Bool.not_eq_true']
  rw [← hmatch]
  unfold isUnguarded
  dsimp only
  split
  · next hnone => simp [List.isEmpty_iff.mp hnone]
  · split
    · next hin => simp_all
    · split
      · next hprotected => simp [hprotected]
      · split
        · next hdeclared => simp_all
        · simp_all

/-- What stands unguarded though more is known stands unguarded if less is. -/
theorem isUnguarded_anti (h : c.IsWithin c') {op : RiskyOperation} {p : Prepared} {i : Nat}
    {line : Text} (hunguarded : op.isUnguarded p c' i line = true) :
    op.isUnguarded p c i line = true := by
  obtain ⟨⟨m, hm, hunsafe⟩, hblock, hprotected, hdeclared⟩ := isUnguarded_iff.mp hunguarded
  refine isUnguarded_iff.mpr ⟨⟨m, hm, ?_⟩, fun hstatement => ?_, ?_, hdeclared⟩
  · rw [Bool.eq_false_iff] at hunsafe ⊢
    exact mt (isGuarded_mono h) hunsafe
  · have hout := hblock hstatement
    rw [Bool.eq_false_iff] at hout ⊢
    exact mt (inTryBlock_mono h) hout
  · rw [Bool.eq_false_iff] at hprotected ⊢
    exact mt (Context.isProtected_mono h) hprotected

/-! ## The lines of an operation -/

/-- Whether an operation stands unguarded on a line, counted from one: the line is there and not
blank, and the operation is looked for and found on it without a guard. -/
def StandsUnguarded (op : RiskyOperation) (p : Prepared) (c : Context) (n : Nat) : Prop :=
  ∃ i line, p.maskedLines[i]? = some line ∧ n = i + 1 ∧ line.isBlank = false ∧
    op.isExempt line = false ∧ op.isUnguarded p c i line = true

theorem mem_unguardedLines {op : RiskyOperation} {p : Prepared} {n : Nat} :
    n ∈ op.unguardedLines p c ↔ op.StandsUnguarded p c n := by
  simp only [unguardedLines, List.mem_filterMap, Prod.exists, List.mk_mem_zipIdx_iff_getElem?,
    Option.ite_none_right_eq_some, Option.some.injEq, Bool.and_eq_true, Bool.not_eq_true']
  constructor
  · rintro ⟨line, i, hline, ⟨⟨hblank, hexempt⟩, hunguarded⟩, rfl⟩
    exact ⟨i, line, hline, rfl, hblank, hexempt, hunguarded⟩
  · rintro ⟨i, line, hline, rfl, hblank, hexempt, hunguarded⟩
    exact ⟨line, i, hline, ⟨⟨hblank, hexempt⟩, hunguarded⟩, rfl⟩

theorem unguardedLines_pairwise (op : RiskyOperation) (p : Prepared) (c : Context) :
    (op.unguardedLines p c).Pairwise (· < ·) := by
  refine List.Pairwise.filterMap _ ?_ (Text.pairwise_zipIdx p.maskedLines)
  rintro ⟨row, i⟩ ⟨other, j⟩ hlt m hm n hn
  simp only [Option.ite_none_right_eq_some, Option.some.injEq] at hm hn
  obtain ⟨-, rfl⟩ := hm
  obtain ⟨-, rfl⟩ := hn
  exact Nat.succ_lt_succ hlt

/-! ## What is reported -/

/-- Of what some members give, all of it marked with the key of the member it comes from, the part
of one key is what its member gives. -/
theorem filter_flatMap_of_nodup {α β : Type} {key : α → String} {mark : β → String}
    {give : α → List β} (hgive : ∀ x, ∀ y ∈ give x, mark y = key x) {xs : List α}
    (hkeys : (xs.map key).Nodup) {x : α} (hx : x ∈ xs) :
    (xs.flatMap give).filter (fun y => mark y == key x) = give x := by
  induction xs with
  | nil => cases hx
  | cons first rest ih =>
    rw [List.map_cons, List.nodup_cons] at hkeys
    rw [List.flatMap_cons, List.filter_append]
    rcases List.mem_cons.mp hx with rfl | hx
    · -- no later member has this key
      rw [List.filter_eq_self.mpr fun y hy => by simp [hgive x y hy],
        List.filter_eq_nil_iff.mpr, List.append_nil]
      intro y hy
      obtain ⟨other, hother, hy⟩ := List.mem_flatMap.mp hy
      rw [hgive other y hy, beq_iff_eq]
      exact fun hkey => hkeys.1 (hkey ▸ List.mem_map_of_mem hother)
    · rw [ih hkeys.2 hx, List.filter_eq_nil_iff.mpr, List.nil_append]
      intro y hy
      rw [hgive first y hy, beq_iff_eq]
      exact fun hkey => hkeys.1 (hkey ▸ List.mem_map_of_mem hx)

/-- The finding of an operation on a line. -/
def finding (op : RiskyOperation) (line : Nat) : RawIssue := ⟨line, op.message, .major, op.id⟩

/-- What is reported of an operation that is looked for: the first lines on which it stands
unguarded. -/
theorem report_filter {ops : List RiskyOperation} (hids : (ops.map (·.id)).Nodup)
    {op : RiskyOperation} (hop : op ∈ ops) (limit : Nat) (p : Prepared) (c : Context) :
    (report limit ops p c).filter (fun i => i.kind == op.id) =
      if op.languages.contains p.language.name then
        ((op.unguardedLines p c).take limit).map op.finding
      else [] := by
  have hreport : report limit ops p c = (applicable ops p.language).flatMap fun op =>
      ((op.unguardedLines p c).take limit).map op.finding := rfl
  have hmark : ∀ op : RiskyOperation, ∀ i ∈ ((op.unguardedLines p c).take limit).map op.finding,
      i.kind = op.id := by
    intro op i hi
    obtain ⟨line, -, rfl⟩ := List.mem_map.mp hi
    rfl
  rw [hreport]
  split
  · next happlies =>
    have hsub : (applicable ops p.language).Sublist ops := List.filter_sublist
    exact filter_flatMap_of_nodup hmark (hids.sublist (hsub.map _))
      (List.mem_filter.mpr ⟨hop, happlies⟩)
  · next hnot =>
    rw [List.filter_eq_nil_iff]
    intro i hi
    obtain ⟨other, hother, hi⟩ := List.mem_flatMap.mp hi
    obtain ⟨hmem, happlies⟩ := List.mem_filter.mp hother
    rw [hmark other i hi, beq_iff_eq]
    intro hid
    obtain rfl := List.inj_on_of_nodup_map hids hmem hop hid
    exact hnot happlies

theorem nodup_ids_catalogue : (catalogue.map (·.id)).Nodup := by decide

/-- With a whole number as limit the detector does not fail. -/
theorem riskyOperations_eq (th : Thresholds) (limit : Nat) (p : Prepared) (c : Context) :
    Detector.riskyOperations { th with maxRiskyLines := .ok limit } p c =
      .ok (report limit catalogue p c) := by
  unfold Detector.riskyOperations
  split
  · next hnone => rw [report, List.isEmpty_iff.mp hnone, List.flatMap_nil]
  · rfl

/-- Guards are monotone. For any source and any two contexts of which one is within the other, a
line on which an operation stands unguarded in the larger context is one in the smaller. And
whatever the limit is, the detector reports of each operation of the catalogue that is looked for
in the language, in increasing order, the first of all the lines on which it stands unguarded, as
many as the limit says; of the others it reports none. -/
theorem unguarded_antitone (p : Prepared) {c c' : Context} (h : c.IsWithin c')
    {op : RiskyOperation} (hop : op ∈ catalogue) (th : Thresholds) (limit : Nat) :
    (∀ i line, op.isUnguarded p c' i line = true → op.isUnguarded p c i line = true) ∧
      (∀ n, op.StandsUnguarded p c' n → op.StandsUnguarded p c n) ∧
      (∀ n, n ∈ op.unguardedLines p c ↔ op.StandsUnguarded p c n) ∧
      (op.unguardedLines p c).Pairwise (· < ·) ∧
      ∃ found, Detector.riskyOperations { th with maxRiskyLines := .ok limit } p c = .ok found ∧
        found.filter (fun i => i.kind == op.id) =
          if op.languages.contains p.language.name then
            ((op.unguardedLines p c).take limit).map op.finding
          else [] := by
  refine ⟨fun i line => isUnguarded_anti h, ?_, fun n => mem_unguardedLines,
    unguardedLines_pairwise op p c, _, riskyOperations_eq th limit p c,
    report_filter nodup_ids_catalogue hop limit p c⟩
  rintro n ⟨i, line, hline, rfl, hblank, hexempt, hunguarded⟩
  exact ⟨i, line, hline, rfl, hblank, hexempt, isUnguarded_anti h hunguarded⟩

/-- Four readings of a name each, on lines of their own. -/
def fourReadings : Text :=
  "JSON.parse(w);\nJSON.parse(x);\n\nJSON.parse(y);\nJSON.parse(z);".toList

/-- Once the second name is known and the scope of a block holds the last one, two lines are left.
With less known all four are, and three of them are reported. -/
theorem unguarded_fourReadings :
    let p := prepare Language.javaScript fourReadings
    let op := catalogue.head (by decide)
    let more : Context :=
      { nullChecked := ["x".toList], tryBlocks := [⟨5, 6, 7, ["z".toList]⟩] }
    let less : Context := { tryBlocks := [⟨5, 6, 7, []⟩] }
    less.IsWithin more ∧ op ∈ catalogue ∧ op.unguardedLines p more = [1, 4] ∧
      op.StandsUnguarded p more 4 ∧ op.StandsUnguarded p less 4 ∧
      ∃ found, Detector.riskyOperations { maxRiskyLines := .ok 3 } p less = .ok found ∧
        found.filter (fun i => i.kind == "json-parse") = [1, 2, 4].map op.finding := by
  intro p op more less
  have hwithin : less.IsWithin more := by
    refine ⟨fun word => Iff.rfl, List.nil_subset _, List.nil_subset _, List.nil_subset _, ?_⟩
    intro b hb
    obtain rfl := List.mem_singleton.mp hb
    exact ⟨_, List.mem_singleton.mpr rfl, rfl, rfl, rfl, List.nil_subset _⟩
  have hop : op ∈ catalogue := List.head_mem _
  have hmore : op.unguardedLines p more = [1, 4] := by decide +kernel
  have hless : op.unguardedLines p less = [1, 2, 4, 5] := by decide +kernel
  have hfourth : op.StandsUnguarded p more 4 := mem_unguardedLines.mp (hmore ▸ by decide)
  obtain ⟨-, hanti, -, -, found, hfound, hreported⟩ := unguarded_antitone p hwithin hop {} 3
  rw [hless] at hreported
  exact ⟨hwithin, hop, hmore, hfourth, hanti 4 hfourth, found, hfound, hreported⟩

end RiskyOperation
end SourceAudit
