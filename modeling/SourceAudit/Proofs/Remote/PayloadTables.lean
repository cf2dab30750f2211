import SourceAudit.Proofs.Document.KeyedTables
import SourceAudit.Proofs.Document.ReadBack
import SourceAudit.Proofs.Remote.Fences
import SourceAudit.Remote.Answer
import SourceAudit.Remote.Writing

/-!
  Payloads as tables.

  A table has some fields (`Value.HasFields`) if it holds one entry for each of them, under one of
  the names of the field and in any order. What is proved, if no name belongs to two fields:
    1. `field_of_hasFields` — a field is read from the one entry that is written for it.
    2. `Value.HasFields.isReadable` — the table is read from its text if its values are.
    3. `Value.HasFields.mapTexts` — a function on texts that leaves the names alone leaves a table
       with the fields it makes of them.

  A payload may be written in many ways (`Payload.IsWritten`): each field under any of the names
  that readers accept, and the fields in any order. What is proved:
    4. `Payload.isWritten_toValue` — one of them is the table that it is shown as.
    5. `Payload.ofValue?_of_isWritten` — the payload is read from each of them.
    6. `Payload.IsWritten.unwrapped` — none of them is taken for a wrapped table.
    7. `Payload.IsWritten.isReadable` — each is read from its text, if no number in it has more
       digits than are read.
-/
namespace SourceAudit

/-! ## Fields with several names -/

/-- A field of a table: the names it may have, and what may stand there. -/
structure Field where
  names : List String
  holds : Value → Prop

/-- Whether an entry is written for a field. -/
def Field.Admits (f : Field) (e : String × Value) : Prop := e.1 ∈ f.names ∧ f.holds e.2

/-- A table with an entry for each field, in any order, and no other entries. -/
def Value.HasFields (v : Value) (fields : List Field) : Prop :=
  ∃ entries listed, v = .table entries ∧ entries.Perm listed ∧
    List.Forall₂ (fun e f => Field.Admits f e) listed fields

/-- Whether no name belongs to two fields. -/
def Field.Apart (fields : List Field) : Prop := (fields.flatMap Field.names).Nodup

section Several

variable {v : Value} {fields : List Field}

theorem Field.Apart.eq_of_mem {f f' : Field} (h : Apart fields) (hf : f ∈ fields)
    (hf' : f' ∈ fields) {name : String} (hname : name ∈ f.names) (hname' : name ∈ f'.names) :
    f = f' := by
  by_contra hne
  obtain ⟨-, happart⟩ := List.nodup_flatMap.mp h
  have hsymm : Std.Symm (Function.onFun List.Disjoint names) :=
    ⟨fun _ _ hdisjoint => hdisjoint.symm⟩
  exact happart.forall hf hf' hne hname hname'

theorem exists_field_of_mem {listed : List (String × Value)}
    (h : List.Forall₂ (fun e f => Field.Admits f e) listed fields) {e : String × Value}
    (he : e ∈ listed) : ∃ f ∈ fields, f.Admits e := by
  induction h with
  | nil => cases he
  | cons hfirst _ ih =>
    rcases List.mem_cons.mp he with rfl | hrest
    · exact ⟨_, List.mem_cons_self, hfirst⟩
    · obtain ⟨f, hf, hadmits⟩ := ih hrest
      exact ⟨f, List.mem_cons_of_mem _ hf, hadmits⟩

theorem exists_entry_of_mem {listed : List (String × Value)}
    (h : List.Forall₂ (fun e f => Field.Admits f e) listed fields) {f : Field}
    (hf : f ∈ fields) : ∃ e ∈ listed, f.Admits e := by
  induction h with
  | nil => cases hf
  | cons hfirst _ ih =>
    rcases List.mem_cons.mp hf with rfl | hrest
    · exact ⟨_, List.mem_cons_self, hfirst⟩
    · obtain ⟨e, he, hadmits⟩ := ih hrest
      exact ⟨e, List.mem_cons_of_mem _ he, hadmits⟩

/-- Entries for fields that are apart have different names. -/
theorem nodup_listed {listed : List (String × Value)}
    (h : List.Forall₂ (fun e f => Field.Admits f e) listed fields) (happart : Field.Apart fields) :
    (listed.map (·.1)).Nodup := by
  induction h with
  | nil => exact .nil
  | @cons e f listed fields hfirst hrest ih =>
    rw [Field.Apart, List.flatMap_cons, List.nodup_append'] at happart
    obtain ⟨-, hothers, hdisjoint⟩ := happart
    rw [List.map_cons, List.nodup_cons]
    refine ⟨fun hmem => ?_, ih hothers⟩
    obtain ⟨e', he', hname⟩ := List.mem_map.mp hmem
    obtain ⟨f', hf', hadmits⟩ := exists_field_of_mem hrest he'
    exact hdisjoint hfirst.1 (List.mem_flatMap.mpr ⟨f', hf', hname ▸ hadmits.1⟩)

/-- The field at some place among the fields is read from the entry that is written for it. -/
theorem field_of_hasFields {f : Field} {α : Type} (h : v.HasFields fields)
    (happart : Field.Apart fields) (i : Nat) (hf : fields[i]? = some f) (read : Value → Option α)
    (usual : α) : ∃ x, f.holds x ∧ Remote.Reading.field v f.names read usual = read x := by
  have hf := List.mem_of_getElem? hf
  obtain ⟨entries, listed, rfl, hperm, hlisted⟩ := h
  have hnames : (entries.map (·.1)).Nodup :=
    (hperm.map _).nodup_iff.mpr (nodup_listed hlisted happart)
  obtain ⟨e, he, hname, hvalue⟩ := exists_entry_of_mem hlisted hf
  have hfind : (Value.table entries).get? e.1 = some e.2 :=
    (Value.find?_eq_some_iff hnames).mpr (hperm.mem_iff.mpr he)
  unfold Remote.Reading.field
  cases hfound : f.names.findSome? (Value.table entries).get? with
  | none =>
    rw [List.findSome?_eq_none_iff] at hfound
    rw [hfound e.1 hname] at hfind
    cases hfind
  | some x =>
    -- The first name that is present may be another one, but it is the name of the same field.
    obtain ⟨name, hmem, hget⟩ := List.exists_of_findSome?_eq_some hfound
    obtain ⟨f', hf', hadmits⟩ :=
      exists_field_of_mem hlisted (hperm.mem_iff.mp (Value.mem_of_find? hget))
    obtain rfl := happart.eq_of_mem hf hf' hmem hadmits.1
    exact ⟨x, hadmits.2, rfl⟩

/-- A field that is written for one value is read from that value; the number is the place of the
field among the fields. -/
theorem field_of_hasFields_eq {names : List String} {x : Value} {α : Type} (h : v.HasFields fields)
    (happart : Field.Apart fields) (i : Nat) (hf : fields[i]? = some ⟨names, (· = x)⟩)
    (read : Value → Option α) (usual : α) :
    Remote.Reading.field v names read usual = read x := by
  obtain ⟨y, rfl, hread⟩ := field_of_hasFields h happart i hf read usual
  exact hread

theorem Value.HasFields.isReadable {n : Nat} (h : v.HasFields fields)
    (happart : Field.Apart fields) (hfields : ∀ f ∈ fields, ∀ x, f.holds x → x.IsReadable n) :
    v.IsReadable (n + 1) := by
  obtain ⟨entries, listed, rfl, hperm, hlisted⟩ := h
  refine .table ((hperm.map _).nodup_iff.mpr (nodup_listed hlisted happart)) fun e he => ?_
  obtain ⟨f, hf, -, hvalue⟩ := exists_field_of_mem hlisted (hperm.mem_iff.mp he)
  exact hfields f hf e.2 hvalue

theorem Value.HasFields.mapTexts {g : String → String} {others : List Field}
    (h : v.HasFields fields) (hnames : ∀ name ∈ fields.flatMap Field.names, g name = name)
    (hfields : List.Forall₂ (fun f f' : Field =>
      f'.names = f.names ∧ ∀ x, f.holds x → f'.holds (x.mapTexts g)) fields others) :
    (v.mapTexts g).HasFields others := by
  obtain ⟨entries, listed, rfl, hperm, hlisted⟩ := h
  refine ⟨_, listed.map fun e => (g e.1, e.2.mapTexts g), rfl, ?_, ?_⟩
  · rw [Value.mapEntries_eq_map]
    exact hperm.map _
  · clear hperm
    induction hlisted generalizing others with
    | nil =>
      cases hfields
      exact .nil
    | @cons e f listed fields hfirst _ ih =>
      cases hfields with | cons hfield hrest =>
      rw [List.flatMap_cons, List.forall_mem_append] at hnames
      have hname : g e.1 ∈ f.names := by
        rw [hnames.1 e.1 hfirst.1]
        exact hfirst.1
      exact .cons ⟨hfield.1 ▸ hname, hfield.2 _ hfirst.2⟩ (ih hnames.2 hrest)

/-! ## Lists of tables -/

/-- A list of values that are written for some items. -/
def Value.IsListOf {α : Type} (written : α → Value → Prop) (items : List α) (v : Value) : Prop :=
  ∃ vs, v = .list vs ∧ List.Forall₂ written items vs

section Lists

variable {α : Type} {written : α → Value → Prop} {items : List α}

/-- A list is read if each of its tables is. -/
theorem tables?_of_isListOf {read : Value → Option α} (h : v.IsListOf written items)
    (htable : ∀ r w, written r w → ∃ entries, w = .table entries)
    (hread : ∀ r w, written r w → read w = some r) :
    Remote.Reading.tables? read v = some items := by
  obtain ⟨vs, rfl, hvs⟩ := h
  rw [Remote.Reading.tables?]
  induction hvs with
  | nil => rfl
  | cons hfirst _ ih =>
    obtain ⟨entries, rfl⟩ := htable _ _ hfirst
    rw [List.mapM_cons]
    dsimp only
    rw [hread _ _ hfirst, ih]
    rfl

theorem Value.IsListOf.isReadable {n : Nat} (h : v.IsListOf written items)
    (hitems : ∀ r ∈ items, ∀ w, written r w → w.IsReadable n) : v.IsReadable (n + 1) := by
  obtain ⟨vs, rfl, hvs⟩ := h
  refine .list fun w hw => ?_
  induction hvs with
  | nil => cases hw
  | cons hfirst _ ih =>
    rw [List.forall_mem_cons] at hitems
    rcases List.mem_cons.mp hw with rfl | hrest
    · exact hitems.1 _ hfirst
    · exact ih hitems.2 hrest

theorem Value.IsListOf.mapTexts {g : String → String} {change : α → α}
    (h : v.IsListOf written items)
    (hitems : ∀ r w, written r w → written (change r) (w.mapTexts g)) :
    (v.mapTexts g).IsListOf written (items.map change) := by
  obtain ⟨vs, rfl, hvs⟩ := h
  refine ⟨vs.map (Value.mapTexts g), ?_, ?_⟩
  · rw [Value.mapTexts, Value.mapItems_eq_map]
  · exact List.forall₂_map_left_iff.mpr (List.forall₂_map_right_iff.mpr
      (hvs.imp fun r w hw => hitems r w hw))

end Lists

end Several

namespace Remote

open Reading

/-! ## Tables that payloads are written as -/

/-- The fields of a remark on the syntax. -/
def SyntaxRemark.fields (r : SyntaxRemark) : List Field :=
  [⟨["line"], (· = .whole r.line)⟩, ⟨["column"], (· = .whole r.column)⟩,
    ⟨["message", "description"], (· = .text r.message)⟩, ⟨["type"], (· = .text r.type)⟩,
    ⟨["code"], (· = .text r.code)⟩, ⟨["quickFix", "quick_fix"], (· = .textOrNull r.quickFix)⟩]

/-- The fields of a remark on the security. -/
def SecurityRemark.fields (r : SecurityRemark) : List Field :=
  [⟨["issue", "title"], (· = .text r.title)⟩, ⟨["severity"], (· = .text r.severity.name)⟩,
    ⟨["description"], (· = .text r.description)⟩,
    ⟨["recommendation", "suggestion"], (· = .text r.recommendation)⟩,
    ⟨["line"], (· = .wholeOrNull r.line)⟩]

/-- The fields of a remark on the performance. -/
def PerformanceRemark.fields (r : PerformanceRemark) : List Field :=
  [⟨["issue", "title", "message"], (· = .text r.issue)⟩,
    ⟨["impact", "severity"], (· = .text r.impact.name)⟩,
    ⟨["description"], (· = .text r.description)⟩,
    ⟨["optimization", "suggestion"], (· = .text r.optimization)⟩,
    ⟨["line"], (· = .wholeOrNull r.line)⟩]

/-- The fields of the figures on complexity. -/
def complexityFields (a : RemoteAssessment) : List Field :=
  [⟨["cyclomaticComplexity", "cyclomatic_complexity"], (· = .whole a.cyclomaticComplexity)⟩,
    ⟨["timeComplexity", "time_complexity"], (· = .text a.timeComplexity)⟩,
    ⟨["spaceComplexity", "space_complexity"], (· = .text a.spaceComplexity)⟩,
    ⟨["maintainabilityIndex", "maintainability_index"], (· = .whole a.maintainability)⟩,
    ⟨["readabilityScore", "readability_score"], (· = .whole a.readability)⟩]

/-- The field of the score for the whole. -/
def qualityFields (a : RemoteAssessment) : List Field :=
  [⟨["overallScore", "overall_score"], (· = .whole a.overallScore)⟩]

/-- The fields of a payload. -/
def Payload.fields (p : Payload) : List Field :=
  [⟨["errors"], (·.IsListOf (fun r v => v.HasFields r.fields) p.errors)⟩,
    ⟨["warnings"], (·.IsListOf (fun r v => v.HasFields r.fields) p.warnings)⟩,
    ⟨["suggestions"], (·.IsListOf (fun r v => v.HasFields r.fields) p.suggestions)⟩,
    ⟨["security"], (·.IsListOf (fun r v => v.HasFields r.fields) p.security)⟩,
    ⟨["performance"], (·.IsListOf (fun r v => v.HasFields r.fields) p.performance)⟩,
    ⟨["complexity"], (·.HasFields (complexityFields p.figures))⟩,
    ⟨["quality"], (·.HasFields (qualityFields p.figures))⟩]

/-- Whether a value is a payload under names that readers accept. -/
def Payload.IsWritten (p : Payload) (v : Value) : Prop := v.HasFields p.fields

/-- Entries in the order of the fields. -/
theorem hasFields_table {entries : List (String × Value)} {fields : List Field}
    (h : List.Forall₂ (fun e f => Field.Admits f e) entries fields) :
    (Value.table entries).HasFields fields :=
  ⟨entries, entries, rfl, .refl _, h⟩

theorem isListOf_map {α : Type} {written : α → Value → Prop} {write : α → Value}
    (h : ∀ r, written r (write r)) (items : List α) :
    (Value.list (items.map write)).IsListOf written items :=
  ⟨_, rfl, List.forall₂_map_right_iff.mpr (List.forall₂_same.mpr fun r _ => h r)⟩

theorem SyntaxRemark.hasFields_toValue (r : SyntaxRemark) : r.toValue.HasFields r.fields := by
  refine hasFields_table ?_
  simp [fields, Field.Admits]

theorem SecurityRemark.hasFields_toValue (r : SecurityRemark) : r.toValue.HasFields r.fields := by
  refine hasFields_table ?_
  simp [fields, Field.Admits]

theorem PerformanceRemark.hasFields_toValue (r : PerformanceRemark) :
    r.toValue.HasFields r.fields := by
  refine hasFields_table ?_
  simp [fields, Field.Admits]

theorem complexityValue_hasFields (a : RemoteAssessment) :
    (complexityValue a).HasFields (complexityFields a) := by
  refine hasFields_table ?_
  simp [complexityFields, Field.Admits]

theorem qualityValue_hasFields (a : RemoteAssessment) :
    (Value.table [("overall_score", .whole a.overallScore)]).HasFields (qualityFields a) := by
  refine hasFields_table ?_
  simp [qualityFields, Field.Admits]

/-- A payload is written as it is shown. -/
theorem Payload.isWritten_toValue (p : Payload) : p.IsWritten p.toValue := by
  refine hasFields_table ?_
  simp only [fields, Field.Admits, List.forall₂_cons, List.mem_singleton, true_and]
  exact ⟨isListOf_map SyntaxRemark.hasFields_toValue _,
    isListOf_map SyntaxRemark.hasFields_toValue _, isListOf_map SyntaxRemark.hasFields_toValue _,
    isListOf_map SecurityRemark.hasFields_toValue _,
    isListOf_map PerformanceRemark.hasFields_toValue _, complexityValue_hasFields _,
    qualityValue_hasFields _, .nil⟩

/-! ## Reading -/

variable {v : Value}

theorem SyntaxRemark.apart (r : SyntaxRemark) : Field.Apart r.fields :=
  show (["line", "column", "message", "description", "type", "code", "quickFix",
    "quick_fix"] : List String).Nodup by decide

theorem SecurityRemark.apart (r : SecurityRemark) : Field.Apart r.fields :=
  show (["issue", "title", "severity", "description", "recommendation", "suggestion",
    "line"] : List String).Nodup by decide

theorem PerformanceRemark.apart (r : PerformanceRemark) : Field.Apart r.fields :=
  show (["issue", "title", "message", "impact", "severity", "description", "optimization",
    "suggestion", "line"] : List String).Nodup by decide

theorem complexityFields_apart (a : RemoteAssessment) : Field.Apart (complexityFields a) :=
  show (["cyclomaticComplexity", "cyclomatic_complexity", "timeComplexity", "time_complexity",
    "spaceComplexity", "space_complexity", "maintainabilityIndex", "maintainability_index",
    "readabilityScore", "readability_score"] : List String).Nodup by decide

theorem qualityFields_apart (a : RemoteAssessment) : Field.Apart (qualityFields a) :=
  show (["overallScore", "overall_score"] : List String).Nodup by decide

theorem Payload.apart (p : Payload) : Field.Apart p.fields :=
  show (["errors", "warnings", "suggestions", "security", "performance", "complexity",
    "quality"] : List String).Nodup by decide

theorem orNull_textOrNull (s : Option String) : orNull text? (.textOrNull s) = some s := by
  cases s <;> rfl

theorem orNull_wholeOrNull (n : Option Int) : orNull whole? (.wholeOrNull n) = some n := by
  cases n <;> rfl

/-- A degree is read from its name. -/
theorem degree_name (r : Risk) : degree (.text r.name) = r := by
  cases r <;> decide +kernel

theorem syntaxRemark?_of_hasFields (r : SyntaxRemark) (h : v.HasFields r.fields) :
    syntaxRemark? v = some r := by
  have hline : field v ["line"] whole? 1 = some r.line :=
    field_of_hasFields_eq h r.apart 0 rfl _ _
  have hcolumn : field v ["column"] whole? 1 = some r.column :=
    field_of_hasFields_eq h r.apart 1 rfl _ _
  have hmessage : field v ["message", "description"] text? "" = some r.message :=
    field_of_hasFields_eq h r.apart 2 rfl _ _
  have htype : field v ["type"] text? "syntax" = some r.type :=
    field_of_hasFields_eq h r.apart 3 rfl _ _
  have hcode : field v ["code"] text? "SYNTAX_ISSUE" = some r.code :=
    field_of_hasFields_eq h r.apart 4 rfl _ _
  have hfix : field v ["quickFix", "quick_fix"] (orNull text?) none = some r.quickFix :=
    (field_of_hasFields_eq h r.apart 5 rfl _ _).trans (orNull_textOrNull _)
  rw [syntaxRemark?, hline, hcolumn, hmessage, htype, hcode, hfix]
  rfl

theorem securityRemark?_of_hasFields (r : SecurityRemark) (h : v.HasFields r.fields) :
    securityRemark? v = some r := by
  have htitle : field v ["issue", "title"] text? "" = some r.title :=
    field_of_hasFields_eq h r.apart 0 rfl _ _
  have hseverity : field v ["severity"] (fun x => some (degree x)) .medium = some r.severity :=
    (field_of_hasFields_eq h r.apart 1 rfl _ _).trans (congrArg some (degree_name _))
  have hdescription : field v ["description"] text? "" = some r.description :=
    field_of_hasFields_eq h r.apart 2 rfl _ _
  have hrecommendation : field v ["recommendation", "suggestion"] text? "" =
      some r.recommendation :=
    field_of_hasFields_eq h r.apart 3 rfl _ _
  have hline : field v ["line"] (orNull whole?) none = some r.line :=
    (field_of_hasFields_eq h r.apart 4 rfl _ _).trans (orNull_wholeOrNull _)
  rw [securityRemark?, htitle, hseverity, hdescription, hrecommendation, hline]
  rfl

theorem performanceRemark?_of_hasFields (r : PerformanceRemark) (h : v.HasFields r.fields) :
    performanceRemark? v = some r := by
  have hissue : field v ["issue", "title", "message"] text? "" = some r.issue :=
    field_of_hasFields_eq h r.apart 0 rfl _ _
  have himpact : field v ["impact", "severity"] (fun x => some (degree x)) .info = some r.impact :=
    (field_of_hasFields_eq h r.apart 1 rfl _ _).trans (congrArg some (degree_name _))
  have hdescription : field v ["description"] text? "" = some r.description :=
    field_of_hasFields_eq h r.apart 2 rfl _ _
  have hoptimization : field v ["optimization", "suggestion"] text? "" = some r.optimization :=
    field_of_hasFields_eq h r.apart 3 rfl _ _
  have hline : field v ["line"] (orNull whole?) none = some r.line :=
    (field_of_hasFields_eq h r.apart 4 rfl _ _).trans (orNull_wholeOrNull _)
  rw [performanceRemark?, hissue, himpact, hdescription, hoptimization, hline]
  rfl

theorem complexity?_of_hasFields (a figures : RemoteAssessment)
    (h : v.HasFields (complexityFields figures)) :
    complexity? a v = some { figures with overallScore := a.overallScore } := by
  have happart := complexityFields_apart figures
  have hcyclomatic : field v ["cyclomaticComplexity", "cyclomatic_complexity"] whole? 5 =
      some figures.cyclomaticComplexity :=
    field_of_hasFields_eq h happart 0 rfl _ _
  have htime : field v ["timeComplexity", "time_complexity"] text? "O(n)" =
      some figures.timeComplexity :=
    field_of_hasFields_eq h happart 1 rfl _ _
  have hspace : field v ["spaceComplexity", "space_complexity"] text? "O(1)" =
      some figures.spaceComplexity :=
    field_of_hasFields_eq h happart 2 rfl _ _
  have hmaintainability : field v ["maintainabilityIndex", "maintainability_index"] whole? 70 =
      some figures.maintainability :=
    field_of_hasFields_eq h happart 3 rfl _ _
  have hreadability : field v ["readabilityScore", "readability_score"] whole? 75 =
      some figures.readability :=
    field_of_hasFields_eq h happart 4 rfl _ _
  rw [complexity?, hcyclomatic, htime, hspace, hmaintainability, hreadability]
  rfl

theorem quality?_of_hasFields (a figures : RemoteAssessment)
    (h : v.HasFields (qualityFields figures)) :
    quality? a v = some { a with overallScore := figures.overallScore } := by
  have hscore : field v ["overallScore", "overall_score"] whole? 70 = some figures.overallScore :=
    field_of_hasFields_eq h (qualityFields_apart figures) 0 rfl _ _
  rw [quality?, hscore]
  rfl

theorem table?_of_hasFields {α : Type} {fields : List Field} (h : v.HasFields fields)
    (read : Value → Option α) : table? read v = read v := by
  obtain ⟨entries, -, rfl, -⟩ := h
  rfl

/-- A list of remarks is read if each remark is. -/
theorem field_of_isListOf {α : Type} {p : Payload} {names : List String} {items : List α}
    {fields : α → List Field} (h : p.IsWritten v) (i : Nat)
    (hf : p.fields[i]? = some ⟨names, (·.IsListOf (fun r w => w.HasFields (fields r)) items)⟩)
    {read : Value → Option α} (hread : ∀ r w, w.HasFields (fields r) → read w = some r)
    (usual : List α) : field v names (tables? read) usual = some items := by
  obtain ⟨x, hx, hfield⟩ := field_of_hasFields h p.apart i hf (tables? read) usual
  refine hfield.trans (tables?_of_isListOf hx (fun r w hw => ?_) hread)
  obtain ⟨entries, -, rfl, -⟩ := hw
  exact ⟨entries, rfl⟩

/-- A payload is read from the table that it is written as. -/
theorem Payload.ofValue?_of_isWritten {p : Payload} (h : p.IsWritten v) : ofValue? v = some p := by
  have herrors : field v ["errors"] (tables? syntaxRemark?) [] = some p.errors :=
    field_of_isListOf h 0 rfl (fun r _ => syntaxRemark?_of_hasFields r) _
  have hwarnings : field v ["warnings"] (tables? syntaxRemark?) [] = some p.warnings :=
    field_of_isListOf h 1 rfl (fun r _ => syntaxRemark?_of_hasFields r) _
  have hsuggestions : field v ["suggestions"] (tables? syntaxRemark?) [] = some p.suggestions :=
    field_of_isListOf h 2 rfl (fun r _ => syntaxRemark?_of_hasFields r) _
  have hsecurity : field v ["security"] (tables? securityRemark?) [] = some p.security :=
    field_of_isListOf h 3 rfl (fun r _ => securityRemark?_of_hasFields r) _
  have hperformance : field v ["performance"] (tables? performanceRemark?) [] =
      some p.performance :=
    field_of_isListOf h 4 rfl (fun r _ => performanceRemark?_of_hasFields r) _
  -- The figures on complexity are read first; the score is added to them.
  have hcomplexity : field v ["complexity"] (table? (complexity? {})) {} =
      some { p.figures with overallScore := 70 } := by
    obtain ⟨x, hx, hread⟩ := field_of_hasFields h p.apart 5 rfl (table? (complexity? {})) {}
    rw [table?_of_hasFields hx, complexity?_of_hasFields _ _ hx] at hread
    exact hread
  have hquality : field v ["quality"] (table? (quality? { p.figures with overallScore := 70 }))
      { p.figures with overallScore := 70 } = some p.figures := by
    obtain ⟨x, hx, hread⟩ := field_of_hasFields h p.apart 6 rfl
      (table? (quality? { p.figures with overallScore := 70 }))
      { p.figures with overallScore := 70 }
    rw [table?_of_hasFields hx, quality?_of_hasFields _ _ hx] at hread
    exact hread
  rw [ofValue?, hcomplexity, Option.bind_eq_bind, Option.bind_some, herrors, hwarnings,
    hsuggestions, hsecurity, hperformance, hquality]
  rfl

/-! ## Wrapped tables -/

theorem Payload.IsWritten.unwrapped {p : Payload} (h : p.IsWritten v) : Answer.unwrapped v = v := by
  have hget : v.get? "analysis" = none := by
    obtain ⟨entries, listed, rfl, hperm, hlisted⟩ := h
    by_contra hsome
    obtain ⟨x, hx⟩ := Option.ne_none_iff_exists'.mp hsome
    obtain ⟨f, hf, hname, -⟩ :=
      exists_field_of_mem hlisted (hperm.mem_iff.mp (Value.mem_of_find? hx))
    have hmem : "analysis" ∈ (["errors", "warnings", "suggestions", "security", "performance",
        "complexity", "quality"] : List String) :=
      List.mem_flatMap.mpr ⟨f, hf, hname⟩
    exact absurd hmem (by decide)
  rw [Answer.unwrapped, hget]

theorem Payload.IsWritten.unwrapped_wrapped {p : Payload} (h : p.IsWritten v) :
    Answer.unwrapped (.table [("analysis", v)]) = v := by
  obtain ⟨entries, -, rfl, -⟩ := h
  rfl

/-! ## Texts of tables -/

/-- Whether a whole number has no more digits than are read. -/
def IsShort (n : Int) : Prop := (toString n.natAbs).toList.length ≤ Number.maxDigits

instance (n : Int) : Decidable (IsShort n) := inferInstanceAs (Decidable (_ ≤ _))

/-- Whether all numbers of a payload are short. -/
structure Payload.IsShort (p : Payload) : Prop where
  grammar : ∀ r ∈ p.errors ++ p.warnings ++ p.suggestions, Remote.IsShort r.line ∧
    Remote.IsShort r.column
  security : ∀ r ∈ p.security, ∀ n ∈ r.line, Remote.IsShort n
  performance : ∀ r ∈ p.performance, ∀ n ∈ r.line, Remote.IsShort n
  cyclomaticComplexity : Remote.IsShort p.figures.cyclomaticComplexity
  maintainability : Remote.IsShort p.figures.maintainability
  readability : Remote.IsShort p.figures.readability
  overallScore : Remote.IsShort p.figures.overallScore

theorem isReadable_text_or_null (n : Nat) (s : Option String) :
    (Value.textOrNull s).IsReadable n := by
  cases s with
  | none => exact .null
  | some s => exact .text s

theorem isReadable_whole_or_null (n : Nat) {k : Option Int} (h : ∀ i ∈ k, IsShort i) :
    (Value.wholeOrNull k).IsReadable n := by
  cases k with
  | none => exact .null
  | some k => exact .whole (h k rfl)

theorem isReadable_syntaxRemarks {items : List SyntaxRemark}
    (h : v.IsListOf (fun r w => w.HasFields r.fields) items)
    (hshort : ∀ r ∈ items, IsShort r.line ∧ IsShort r.column) : v.IsReadable 2 := by
  refine h.isReadable fun r hr w hw => hw.isReadable r.apart ?_
  simp only [SyntaxRemark.fields, List.forall_mem_cons, forall_eq]
  exact ⟨.whole (hshort r hr).1, .whole (hshort r hr).2, .text _, .text _, .text _,
    isReadable_text_or_null _ _, nofun⟩

theorem isReadable_securityRemarks {items : List SecurityRemark}
    (h : v.IsListOf (fun r w => w.HasFields r.fields) items)
    (hshort : ∀ r ∈ items, ∀ k ∈ r.line, IsShort k) : v.IsReadable 2 := by
  refine h.isReadable fun r hr w hw => hw.isReadable r.apart ?_
  simp only [SecurityRemark.fields, List.forall_mem_cons, forall_eq]
  exact ⟨.text _, .text _, .text _, .text _, isReadable_whole_or_null _ (hshort r hr), nofun⟩

theorem isReadable_performanceRemarks {items : List PerformanceRemark}
    (h : v.IsListOf (fun r w => w.HasFields r.fields) items)
    (hshort : ∀ r ∈ items, ∀ k ∈ r.line, IsShort k) : v.IsReadable 2 := by
  refine h.isReadable fun r hr w hw => hw.isReadable r.apart ?_
  simp only [PerformanceRemark.fields, List.forall_mem_cons, forall_eq]
  exact ⟨.text _, .text _, .text _, .text _, isReadable_whole_or_null _ (hshort r hr), nofun⟩

theorem Payload.IsWritten.isReadable {p : Payload} (h : p.IsWritten v) (hshort : p.IsShort) :
    v.IsReadable 3 := by
  have hgrammar := hshort.grammar
  rw [List.forall_mem_append, List.forall_mem_append] at hgrammar
  obtain ⟨⟨herrors, hwarnings⟩, hsuggestions⟩ := hgrammar
  have hcomplexity : ∀ x : Value, x.HasFields (complexityFields p.figures) → x.IsReadable 2 := by
    refine fun x hx => hx.isReadable (complexityFields_apart _) ?_
    simp only [complexityFields, List.forall_mem_cons, forall_eq]
    exact ⟨.whole hshort.cyclomaticComplexity, .text _, .text _, .whole hshort.maintainability,
      .whole hshort.readability, nofun⟩
  have hquality : ∀ x : Value, x.HasFields (qualityFields p.figures) → x.IsReadable 2 := by
    refine fun x hx => hx.isReadable (qualityFields_apart _) ?_
    simp only [qualityFields, List.forall_mem_cons, forall_eq]
    exact ⟨.whole hshort.overallScore, nofun⟩
  refine Value.HasFields.isReadable h p.apart ?_
  simp only [fields, List.forall_mem_cons]
  exact ⟨fun x hx => isReadable_syntaxRemarks hx herrors,
    fun x hx => isReadable_syntaxRemarks hx hwarnings,
    fun x hx => isReadable_syntaxRemarks hx hsuggestions,
    fun x hx => isReadable_securityRemarks hx hshort.security,
    fun x hx => isReadable_performanceRemarks hx hshort.performance, hcomplexity, hquality, nofun⟩

end Remote
end SourceAudit
