import SourceAudit.Proofs.Remote.PayloadTables

/-!
  A payload that is written in an answer is read from it.

  The object in an answer may be wrapped, and prose and the fences of a code block may stand around
  it. What is proved of a payload that is written as any of its tables:
    1. `Payload.IsWritten.unfenced` — the table whose strings lost their fences is written for the
       payload whose texts lost theirs.
    2. `Answer.ofBody_of_isWritten` — that payload is what is read from the answer.
    3. `Answer.ofBody_eq_payload_iff` — so the payload itself is read exactly if none of its texts
       holds a fence.
-/
namespace SourceAudit
namespace Remote

/-! ## Texts -/

/-- The texts of a remark on the syntax. -/
def SyntaxRemark.texts (r : SyntaxRemark) : List String :=
  [r.message, r.type, r.code] ++ r.quickFix.toList

/-- The texts of a remark on the security. -/
def SecurityRemark.texts (r : SecurityRemark) : List String :=
  [r.title, r.description, r.recommendation]

/-- The texts of a remark on the performance. -/
def PerformanceRemark.texts (r : PerformanceRemark) : List String :=
  [r.issue, r.description, r.optimization]

/-- All texts of a payload that its author may choose. -/
def Payload.texts (p : Payload) : List String :=
  (p.errors ++ p.warnings ++ p.suggestions).flatMap SyntaxRemark.texts ++
    p.security.flatMap SecurityRemark.texts ++ p.performance.flatMap PerformanceRemark.texts ++
    [p.figures.timeComplexity, p.figures.spaceComplexity]

/-- A remark on the syntax with its texts changed by a function. -/
def SyntaxRemark.mapTexts (g : String → String) (r : SyntaxRemark) : SyntaxRemark :=
  { r with
    message := g r.message, type := g r.type, code := g r.code, quickFix := r.quickFix.map g }

/-- A remark on the security with its texts changed by a function. -/
def SecurityRemark.mapTexts (g : String → String) (r : SecurityRemark) : SecurityRemark :=
  { r with
    title := g r.title, description := g r.description, recommendation := g r.recommendation }

/-- A remark on the performance with its texts changed by a function. -/
def PerformanceRemark.mapTexts (g : String → String) (r : PerformanceRemark) : PerformanceRemark :=
  { r with issue := g r.issue, description := g r.description, optimization := g r.optimization }

/-- A payload with its texts changed by a function. -/
def Payload.mapTexts (g : String → String) (p : Payload) : Payload where
  errors := p.errors.map (SyntaxRemark.mapTexts g)
  warnings := p.warnings.map (SyntaxRemark.mapTexts g)
  suggestions := p.suggestions.map (SyntaxRemark.mapTexts g)
  security := p.security.map (SecurityRemark.mapTexts g)
  performance := p.performance.map (PerformanceRemark.mapTexts g)
  figures := { p.figures with
    timeComplexity := g p.figures.timeComplexity, spaceComplexity := g p.figures.spaceComplexity }

theorem map_eq_self_iff {α : Type} (f : α → α) (l : List α) : l.map f = l ↔ ∀ x ∈ l, f x = x :=
  calc l.map f = l ↔ l.map f = l.map id := by rw [List.map_id]
    _ ↔ ∀ x ∈ l, f x = x := List.map_inj_left

theorem SyntaxRemark.mapTexts_eq_iff (g : String → String) (r : SyntaxRemark) :
    r.mapTexts g = r ↔ ∀ s ∈ r.texts, g s = s := by
  obtain ⟨line, column, message, type, code, quickFix⟩ := r
  cases quickFix <;> simp [mapTexts, texts]

theorem SecurityRemark.mapTexts_eq_iff (g : String → String) (r : SecurityRemark) :
    r.mapTexts g = r ↔ ∀ s ∈ r.texts, g s = s := by
  obtain ⟨title, severity, description, recommendation, line⟩ := r
  simp [mapTexts, texts]

theorem PerformanceRemark.mapTexts_eq_iff (g : String → String) (r : PerformanceRemark) :
    r.mapTexts g = r ↔ ∀ s ∈ r.texts, g s = s := by
  obtain ⟨issue, impact, description, optimization, line⟩ := r
  simp [mapTexts, texts]

/-- A payload stays as it is exactly if each of its texts does. -/
theorem Payload.mapTexts_eq_iff (g : String → String) (p : Payload) :
    p.mapTexts g = p ↔ ∀ s ∈ p.texts, g s = s := by
  have hflat {α : Type} (l : List α) (texts : α → List String) :
      (∀ s ∈ l.flatMap texts, g s = s) ↔ ∀ r ∈ l, ∀ s ∈ texts r, g s = s := by
    simp only [List.mem_flatMap, forall_exists_index, and_imp]
    exact ⟨fun h r hr s hs => h s r hr hs, fun h s r hr hs => h r hr s hs⟩
  obtain ⟨errors, warnings, suggestions, security, performance, figures⟩ := p
  obtain ⟨cyclomatic, time, space, maintainability, readability, score⟩ := figures
  simp only [mapTexts, texts, mk.injEq, RemoteAssessment.mk.injEq, map_eq_self_iff,
    SyntaxRemark.mapTexts_eq_iff, SecurityRemark.mapTexts_eq_iff,
    PerformanceRemark.mapTexts_eq_iff, List.forall_mem_append, hflat, List.forall_mem_cons,
    List.not_mem_nil]
  simp [and_assoc]

/-! ## Tables without fences -/

variable {v : Value}

/-- A name without fences stays as it is. -/
theorem unfenced_of_mem {fields : List Field}
    (h : ((fields.flatMap Field.names).all fun name =>
      !Text.holds Answer.fence name.toList) = true) :
    ∀ name ∈ fields.flatMap Field.names, Answer.unfenced name = name := by
  intro name hname
  rw [Answer.unfenced_eq_iff]
  simpa using List.all_eq_true.mp h name hname

theorem unfenced_degree (r : Risk) : Answer.unfenced r.name = r.name := by
  cases r <;> decide +kernel

theorem mapTexts_textOrNull (g : String → String) (s : Option String) :
    (Value.textOrNull s).mapTexts g = .textOrNull (s.map g) := by
  cases s <;> rfl

theorem mapTexts_wholeOrNull (g : String → String) (n : Option Int) :
    (Value.wholeOrNull n).mapTexts g = .wholeOrNull n := by
  cases n <;> rfl

theorem SyntaxRemark.hasFields_unfenced (r : SyntaxRemark) (h : v.HasFields r.fields) :
    (v.mapTexts Answer.unfenced).HasFields (r.mapTexts Answer.unfenced).fields := by
  refine h.mapTexts (unfenced_of_mem rfl) ?_
  simp only [fields, List.forall₂_cons, true_and, forall_eq]
  exact ⟨rfl, rfl, rfl, rfl, rfl, mapTexts_textOrNull _ _, .nil⟩

theorem SecurityRemark.hasFields_unfenced (r : SecurityRemark) (h : v.HasFields r.fields) :
    (v.mapTexts Answer.unfenced).HasFields (r.mapTexts Answer.unfenced).fields := by
  refine h.mapTexts (unfenced_of_mem rfl) ?_
  simp only [fields, List.forall₂_cons, true_and, forall_eq]
  exact ⟨rfl, congrArg Value.text (unfenced_degree _), rfl, rfl, mapTexts_wholeOrNull _ _, .nil⟩

theorem PerformanceRemark.hasFields_unfenced (r : PerformanceRemark) (h : v.HasFields r.fields) :
    (v.mapTexts Answer.unfenced).HasFields (r.mapTexts Answer.unfenced).fields := by
  refine h.mapTexts (unfenced_of_mem rfl) ?_
  simp only [fields, List.forall₂_cons, true_and, forall_eq]
  exact ⟨rfl, congrArg Value.text (unfenced_degree _), rfl, rfl, mapTexts_wholeOrNull _ _, .nil⟩

theorem complexityFields_unfenced (a : RemoteAssessment) (h : v.HasFields (complexityFields a)) :
    (v.mapTexts Answer.unfenced).HasFields (complexityFields { a with
      timeComplexity := Answer.unfenced a.timeComplexity
      spaceComplexity := Answer.unfenced a.spaceComplexity }) := by
  refine h.mapTexts (unfenced_of_mem rfl) ?_
  simp only [complexityFields, List.forall₂_cons, true_and, forall_eq]
  exact ⟨rfl, rfl, rfl, rfl, rfl, .nil⟩

theorem qualityFields_unfenced (a : RemoteAssessment) (h : v.HasFields (qualityFields a)) :
    (v.mapTexts Answer.unfenced).HasFields (qualityFields a) := by
  refine h.mapTexts (unfenced_of_mem rfl) ?_
  simp only [qualityFields, List.forall₂_cons, true_and, forall_eq]
  exact ⟨rfl, .nil⟩

/-- The table of a payload, without the fences in its strings, is the table of the payload without
the fences in its texts. -/
theorem Payload.IsWritten.unfenced {p : Payload} (h : p.IsWritten v) :
    (p.mapTexts Answer.unfenced).IsWritten (v.mapTexts Answer.unfenced) := by
  have hremarks : ∀ (items : List SyntaxRemark) (x : Value),
      x.IsListOf (fun r w => w.HasFields r.fields) items →
      (x.mapTexts Answer.unfenced).IsListOf (fun r w => w.HasFields r.fields)
        (items.map (SyntaxRemark.mapTexts Answer.unfenced)) :=
    fun _ _ hx => hx.mapTexts fun r _ => r.hasFields_unfenced
  refine Value.HasFields.mapTexts h (unfenced_of_mem rfl) ?_
  simp only [fields, List.forall₂_cons, true_and]
  exact ⟨hremarks _, hremarks _, hremarks _,
    fun _ hx => hx.mapTexts fun r _ => r.hasFields_unfenced,
    fun _ hx => hx.mapTexts fun r _ => r.hasFields_unfenced,
    fun _ => complexityFields_unfenced _, fun _ => qualityFields_unfenced _, .nil⟩

theorem Payload.IsShort.mapTexts {p : Payload} (h : p.IsShort) (g : String → String) :
    (p.mapTexts g).IsShort where
  grammar := by
    have hall := h.grammar
    simp only [Payload.mapTexts, ← List.map_append, List.forall_mem_map]
    exact hall
  security := by
    simp only [Payload.mapTexts, List.forall_mem_map]
    exact h.security
  performance := by
    simp only [Payload.mapTexts, List.forall_mem_map]
    exact h.performance
  cyclomaticComplexity := h.cyclomaticComplexity
  maintainability := h.maintainability
  readability := h.readability
  overallScore := h.overallScore

/-! ## Answers -/

namespace Answer

section Body

variable {p : Payload} {before after : Text}

/-- What is read from the text of a table, between texts without braces. -/
theorem ofBody_table {entries : List (String × Value)} {n : Nat}
    (hproper : (Value.table entries).IsProper)
    (hreadable : ((Value.table entries).mapTexts unfenced).IsReadable n) (hn : n ≤ Json.maxDepth)
    (hvalue : Payload.ofValue? (unwrapped ((Value.table entries).mapTexts unfenced)) = some p)
    (hbefore : '\x7b' ∉ before) (hafter : '\x7d' ∉ after) :
    ofBody (before ++ ((Json.compact (.table entries)).toList ++ after)) = .ok (.payload p) := by
  rw [ofBody, object?_compact hproper hbefore hafter]
  dsimp only
  rw [Json.read_compact hreadable hn]
  dsimp only
  rw [hvalue]

/-- What is read of a payload that is written in an answer has lost the fences in its texts. -/
theorem ofBody_of_isWritten (h : p.IsWritten v) (hshort : p.IsShort) (hbefore : '\x7b' ∉ before)
    (hafter : '\x7d' ∉ after) :
    ofBody (before ++ ((Json.compact v).toList ++ after)) =
      .ok (.payload (p.mapTexts unfenced)) := by
  have hreadable := h.unfenced.isReadable (hshort.mapTexts _)
  have hvalue := Payload.ofValue?_of_isWritten h.unfenced
  rw [← h.unfenced.unwrapped] at hvalue
  have hproper := (h.isReadable hshort).isProper
  obtain ⟨entries, -, rfl, -⟩ := h
  exact ofBody_table hproper hreadable (by decide) hvalue hbefore hafter

/-- So it has if the payload is wrapped. -/
theorem ofBody_wrapped_of_isWritten (h : p.IsWritten v) (hshort : p.IsShort)
    (hbefore : '\x7b' ∉ before) (hafter : '\x7d' ∉ after) :
    ofBody (before ++ ((Json.compact (.table [("analysis", v)])).toList ++ after)) =
      .ok (.payload (p.mapTexts unfenced)) := by
  have hwrap : (Value.table [("analysis", v)]).mapTexts unfenced =
      .table [("analysis", v.mapTexts unfenced)] := by
    have hname : unfenced "analysis" = "analysis" := by decide +kernel
    rw [Value.mapTexts, Value.mapEntries, Value.mapEntries, hname]
  have hinner := h.unfenced.isReadable (hshort.mapTexts _)
  have hreadable : ((Value.table [("analysis", v)]).mapTexts unfenced).IsReadable 4 := by
    rw [hwrap]
    exact .table (List.nodup_singleton _) (List.forall_mem_singleton.mpr hinner)
  have hvalue := Payload.ofValue?_of_isWritten h.unfenced
  rw [← h.unfenced.unwrapped_wrapped, ← hwrap] at hvalue
  have hproper : (Value.table [("analysis", v)]).IsProper :=
    .table (List.forall_mem_singleton.mpr (h.isReadable hshort).isProper)
  exact ofBody_table hproper hreadable (by decide) hvalue hbefore hafter

theorem payload_unfenced_eq_iff (r : Except BodyFault Answer)
    (h : r = .ok (.payload (p.mapTexts unfenced))) :
    r = .ok (.payload p) ↔ ∀ s ∈ p.texts, Text.holds fence s.toList = false := by
  rw [h, Except.ok.injEq, payload.injEq, Payload.mapTexts_eq_iff]
  simp only [unfenced_eq_iff]

/-- A payload that is written in an answer, plain or wrapped, is read from it exactly if none of its
texts holds a fence. -/
theorem ofBody_eq_payload_iff (h : p.IsWritten v) (hshort : p.IsShort) (hbefore : '\x7b' ∉ before)
    (hafter : '\x7d' ∉ after) :
    (ofBody (before ++ ((Json.compact v).toList ++ after)) = .ok (.payload p) ↔
      ∀ s ∈ p.texts, Text.holds fence s.toList = false) ∧
    (ofBody (before ++ ((Json.compact (.table [("analysis", v)])).toList ++ after)) =
      .ok (.payload p) ↔ ∀ s ∈ p.texts, Text.holds fence s.toList = false) :=
  ⟨payload_unfenced_eq_iff _ (ofBody_of_isWritten h hshort hbefore hafter),
    payload_unfenced_eq_iff _ (ofBody_wrapped_of_isWritten h hshort hbefore hafter)⟩

end Body

/-- A remark that quotes JSON and inline code: braces, quotes and two backquotes in a row. -/
def quoting : Payload where
  errors := [{ line := 3, message := "Close the \x7b and quote \"é\"", quickFix := some "``x``" }]
  security := [{ title := "Key", severity := .high, description := "\\\x7d\n", line := some (-4) }]

/-- It is read from an answer in a code block. -/
theorem ofBody_quoting :
    (∀ s ∈ quoting.texts, Text.holds fence s.toList = false) ∧
    ofBody ("Here:\n```json\n".toList ++
      ((Json.compact quoting.toValue).toList ++ "\n```\nDone.".toList)) =
        .ok (.payload quoting) ∧
    ofBody ("Here:\n```json\n".toList ++
      ((Json.compact (.table [("analysis", quoting.toValue)])).toList ++ "\n```\nDone.".toList)) =
        .ok (.payload quoting) := by
  have htexts : ∀ s ∈ quoting.texts, Text.holds fence s.toList = false := by decide +kernel
  have hshort : quoting.IsShort := by
    constructor <;> decide +kernel
  have hbefore : '\x7b' ∉ "Here:\n```json\n".toList := by decide
  have hafter : '\x7d' ∉ "\n```\nDone.".toList := by decide
  have hread := ofBody_eq_payload_iff quoting.isWritten_toValue hshort hbefore hafter
  exact ⟨htexts, hread.1.mpr htexts, hread.2.mpr htexts⟩

/-- A remark that mentions the fence of a code block. -/
def fencing : Payload where
  errors := [{ message := "Close the ```js block" }]

/-- The fence and its word are missing in what is read of it. -/
theorem ofBody_fencing :
    fencing.IsWritten fencing.toValue ∧ fencing.IsShort ∧
    ofBody (Json.compact fencing.toValue).toList =
      .ok (.payload { errors := [{ message := "Close the  block" }] }) ∧
    ofBody (Json.compact fencing.toValue).toList ≠ .ok (.payload fencing) := by
  have hshort : fencing.IsShort := by
    constructor <;> decide +kernel
  have hread := ofBody_of_isWritten fencing.isWritten_toValue hshort
    (List.not_mem_nil : '\x7b' ∉ ([] : Text)) (List.not_mem_nil : '\x7d' ∉ ([] : Text))
  rw [List.nil_append, List.append_nil] at hread
  -- The word goes with the fence, up to the blank behind it.
  have hlost : fencing.mapTexts unfenced = { errors := [{ message := "Close the  block" }] } := by
    decide +kernel
  rw [hlost] at hread
  refine ⟨fencing.isWritten_toValue, hshort, hread, ?_⟩
  rw [hread]
  decide +kernel

end Answer
end Remote
end SourceAudit
