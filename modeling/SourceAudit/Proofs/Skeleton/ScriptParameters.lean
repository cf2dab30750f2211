import SourceAudit.Proofs.Skeleton.HeaderParameters
import SourceAudit.Proofs.Skeleton.ScriptDeclarations

/-!
  The parameters of the first function of a JavaScript source.

  They are read of the first parentheses behind the first place on the line where the name of the
  function stands, whatever form the declaration has. What is proved, for parameters that are names:
    1. `PlainList.namesIn_text` — of a list its names are read, but for those that are passed over.
    2. `ScriptDeclaration.parameterList_line` — the list of a declaration is what stands in these
       parentheses, if none opens between an earlier place of the name and the declaration; of a
       declaration without parentheses it is what stands in the first ones behind it.
    3. `ScriptDeclaration.ofSource?_names` — so the names are those of the parameters exactly if
       none of them is passed over, and for a single parameter before an arrow exactly if it happens
       to be what the first parentheses behind the arrow hold.
       `ScriptDeclaration.ofSource?_increment` is one that is missed.
-/
namespace SourceAudit
open FunctionSignature (beforeClose firstParens nameChars nameSpan parameterList parameterOf
  parametersOf)
open NamedParameter (passedOver)

/-! ## Parameters that are names -/

theorem beforeClose_append {u : Text} (hopen : '(' ∉ u) (hclose : ')' ∉ u) (depth : Nat)
    (v : Text) : beforeClose depth (u ++ v) = u ++ beforeClose depth v := by
  induction u with
  | nil => rfl
  | cons c u ih =>
    obtain ⟨hneOpen, hopen⟩ := not_or.mp (mt List.mem_cons.mpr hopen)
    obtain ⟨hneClose, hclose⟩ := not_or.mp (mt List.mem_cons.mpr hclose)
    rw [List.cons_append, beforeClose_cons (Ne.symm hneOpen) (Ne.symm hneClose), ih hopen hclose,
      List.cons_append]

namespace PlainParameter
variable (p : PlainParameter)

/-- No mark is part of a name. -/
theorem not_mem_name {c : Char} (hc : Text.isNamePart c = false) : c ∉ p.name := by
  intro hmem
  rw [p.isName.parts c hmem] at hc
  cases hc

theorem isBlank_of_mem {c : Char} (hc : c ∈ p.name) : Unicode.isBlank c = false := by
  rw [Bool.eq_false_iff]
  intro hblank
  exact p.not_mem_name (Recursion.isNamePart_of_isBlank hblank) hc

theorem trim_name : Text.trim p.name = p.name :=
  Text.trim_eq_self (fun _ hc => p.isBlank_of_mem (List.mem_of_mem_head? hc))
    (fun _ hc => p.isBlank_of_mem (List.mem_of_getLast? hc))

theorem trim_text : Text.trim p.text = p.name := by
  rw [text, Text.trim_append_left p.blank.1, Text.trim_append_right _ p.blank.2, p.trim_name]

theorem isWhole_text : IsWhole p.text := by
  have hname : IsWhole p.name := .of_quiet fun c hc => by
    have hmarks : ((',' :: Parameters.marks).all fun d => !Text.isNamePart d) = true := by decide
    have hother : c ∉ ',' :: Parameters.marks := fun hmem => by
      have hnot := List.all_eq_true.mp hmarks c hmem
      rw [p.isName.parts c hc] at hnot
      cases hnot
    exact ⟨fun heq => hother (heq ▸ List.mem_cons_self),
      fun hmem => hother (List.mem_cons_of_mem _ hmem)⟩
  exact (IsWhole.of_isBlank p.blank.1).append (hname.append (.of_isBlank p.blank.2))

/-- A name is read as it is, unless it is passed over. -/
theorem parse_name : Parameters.parse "javascript" p.name =
    if p.name ∈ passedOver then none else some (p.name, []) := by
  have hbefore : ∀ {mark : Char}, Text.isNamePart mark = false →
      p.name.takeWhile (· != mark) = p.name ∧ p.name.dropWhile (· != mark) = [] := by
    intro mark hmark
    have hall : ∀ c ∈ p.name, (c != mark) = true := by
      intro c hc
      rw [bne_iff_ne]
      rintro rfl
      exact p.not_mem_name hmark hc
    exact ⟨List.takeWhile_eq_self_iff.mpr hall, List.dropWhile_eq_nil_iff.mpr hall⟩
  obtain ⟨hdefault, -⟩ := hbefore (by decide : Text.isNamePart '=' = false)
  obtain ⟨hleft, hright⟩ := hbefore (by decide : Text.isNamePart ':' = false)
  have hstars : (p.name.dropWhile fun c => c == '*' || c == '.') = p.name := by
    obtain ⟨c, rest, hname⟩ := List.exists_cons_of_ne_nil p.isName.nonempty
    have hc : (c == '*' || c == '.') = false := by
      rw [Bool.or_eq_false_iff, beq_eq_false_iff_ne, beq_eq_false_iff_ne]
      constructor <;> rintro rfl <;>
        exact p.not_mem_name (by decide) (hname ▸ List.mem_cons_self)
    rw [hname, List.dropWhile_cons_of_neg (by rw [hc]; decide)]
  have hword : Parameters.without "mut ".toList p.name = p.name :=
    Parameters.without_of_not_mem (c := ' ') (by decide) (p.not_mem_name (by decide))
  have hempty : p.name.isEmpty = false := List.isEmpty_eq_false_iff.mpr p.isName.nonempty
  have hcolon : Parameters.colonLanguages.contains "javascript" = true := by decide
  have hmarkers : Parameters.markers.contains (String.ofList p.name) =
      decide (p.name ∈ passedOver) :=
    NamedParameter.contains_markers_of_not_mem (p.not_mem_name (by decide))
      (p.not_mem_name (by decide))
  rw [Parameters.parse, hdefault, p.trim_name, hempty, Bool.false_or, hmarkers, hcolon,
    Parameters.ofColon, hleft, hright, p.trim_name, hstars, hword, p.trim_name]
  simp only [decide_eq_true_eq, if_true]
  rfl

end PlainParameter

/-- The names that are read of a list. -/
def namesIn (list : Text) : List Text :=
  ((Parameters.split list).filterMap (Parameters.parse "javascript")).map (·.1)

namespace PlainList
variable (l : PlainList)

/-- The names of the parameters. -/
def names : List Text := l.params.map (·.name)

theorem split_text : Parameters.split l.text = l.names := by
  have hpad : Text.isBlank [] = true := rfl
  have hwhole : ∀ {ts : List Text}, (∀ t ∈ ts, IsWhole t) → Parameters.CutApart ts := fun hts =>
    ⟨fun t ht => (hts t (List.dropLast_subset _ ht)).rise, fun t ht => (hts t ht).commas⟩
  have htexts : ∀ t ∈ l.params.map (·.text), IsWhole t := by
    intro t ht
    obtain ⟨p, -, rfl⟩ := List.mem_map.mp ht
    exact p.isWhole_text
  have hnames : (l.params.map (·.text)).map Text.trim = l.names := by
    rw [List.map_map]
    exact List.map_congr_left fun p _ => p.trim_text
  have hsolid : l.names.filter (fun n => !n.isEmpty) = l.names := by
    refine List.filter_eq_self.mpr fun n hn => ?_
    obtain ⟨p, -, rfl⟩ := List.mem_map.mp hn
    rw [List.isEmpty_eq_false_iff.mpr p.isName.nonempty]
    rfl
  have hpadded := IsWhole.of_isBlank l.padBlank
  rw [text]
  cases hparams : l.params.map (·.text) with
  | nil =>
    have hlone : l.pad ++ Text.joinWith [','] [] = Text.joinWith [','] [l.pad] := List.append_nil _
    have hnil : l.names = [] := by rw [← hnames, hparams]; rfl
    rw [hlone, Parameters.trim_of_cutApart hpad (hwhole (by simpa using hpadded)), hnil,
      List.map_singleton, Text.trim_eq_nil_iff.mpr l.padBlank]
    rfl
  | cons t ts =>
    rw [hparams] at htexts hnames
    obtain ⟨ht, hts⟩ := List.forall_mem_cons.mp htexts
    rw [← Text.joinWith_append_head, Parameters.trim_of_cutApart hpad
      (hwhole (List.forall_mem_cons.mpr ⟨hpadded.append ht, hts⟩)), List.map_cons,
      Text.trim_append_left l.padBlank, ← List.map_cons, hnames, hsolid]

/-- Of a list its names are read, but for those that are passed over. -/
theorem namesIn_text : namesIn l.text = l.names.filter fun n => decide (n ∉ passedOver) := by
  rw [namesIn, split_text, names, List.filterMap_map]
  induction l.params with
  | nil => rfl
  | cons p ps ih =>
    rw [List.filterMap_cons, Function.comp_apply, p.parse_name, List.map_cons, List.filter_cons]
    by_cases hpassed : p.name ∈ passedOver
    · simpa [hpassed] using ih
    · simpa [hpassed] using ih

theorem namesIn_text_eq_iff : namesIn l.text = l.names ↔ ∀ n ∈ l.names, n ∉ passedOver := by
  rw [namesIn_text, List.filter_eq_self]
  simp only [decide_eq_true_eq]

end PlainList

/-! ## The list of a declaration -/

/-- What stands in the parentheses of a list. -/
theorem firstParens_listText (params : PlainList) (behind tail : Text) :
    firstParens (listText (some (params, behind)) ++ tail) = params.text := by
  rw [listText, List.cons_append, List.append_assoc, List.cons_append]
  exact FunctionSignature.firstParens_cons
    (beforeClose_append params.not_mem_text.1 params.not_mem_text.2)

/-- No part of a name stands before a text behind the given one. -/
theorem getLast?_append_gap {t u : Text} (hne : u ≠ [])
    (hu : ∀ c ∈ u, ScriptForm.inSeparation c = true) :
    (t ++ u).getLast?.any nameChars.has = false := by
  obtain ⟨e, he⟩ := Option.isSome_iff_exists.mp (List.getLast?_isSome.mpr hne)
  rw [List.getLast?_append_of_ne_nil t hne, he, Option.any_some, Bool.eq_false_iff]
  intro hpart
  have hgap := hu e (List.mem_of_getLast? he)
  rw [inSeparation_of_isNamePart hpart] at hgap
  cases hgap

/-- The first place of the name of a function ends no later than the name in its declaration. -/
theorem NamedFunction.nameSpan_le (f : NamedFunction) (t v : Text) :
    (nameSpan (t ++ (f.head ++ '(' :: v)) f.name.text).2 ≤ t.length + f.head.length := by
  have hline : t ++ (f.head ++ '(' :: v) = (t ++ ScriptForm.functionWord ++ f.gap.text) ++
      (f.name.text ++ (f.space ++ '(' :: v)) := by
    simp only [head, List.append_assoc]
  have hlast := getLast?_append_gap (t := t ++ ScriptForm.functionWord) f.apart
    fun c => f.gap.inSeparation_of_mem
  have hhead : (f.space ++ '(' :: v).head?.any nameChars.has = false :=
    head?_blank_append f.spaceBlank (by decide : Text.isNamePart '(' = false)
  rw [hline]
  refine Nat.le_trans (FunctionSignature.nameSpan_le hlast hhead) ?_
  simp only [head, List.length_append]
  omega

/-- The first place of the name of a variable ends no later than the name in its declaration. -/
theorem FunctionBinding.nameSpan_le (b : FunctionBinding) (t v : Text) :
    (nameSpan (t ++ (b.before ++ v)) b.name.text).2 ≤ t.length + b.before.length := by
  have hline : t ++ (b.before ++ v) = (t ++ b.word ++ b.gap) ++
      (b.name.text ++ (b.left ++ '=' :: (b.right ++ (DefForm.asyncText b.async ++ v)))) := by
    simp only [before, assigned, List.append_assoc, List.cons_append, List.nil_append]
  have hlast := getLast?_append_gap (t := t ++ b.word) b.gapBlank.1 fun c hc => by
    rw [ScriptForm.inSeparation, List.all_eq_true.mp b.gapBlank.2 c hc, Bool.true_or]
  have hhead : (b.left ++ '=' :: (b.right ++ (DefForm.asyncText b.async ++ v))).head?.any
      nameChars.has = false :=
    head?_blank_append b.leftBlank (by decide : Text.isNamePart '=' = false)
  rw [hline]
  refine Nat.le_trans (FunctionSignature.nameSpan_le hlast hhead) ?_
  simp only [before, assigned, List.length_append]
  omega

namespace ScriptDeclaration
variable (d : ScriptDeclaration) {lead tail : Text}

theorem nameSpan_le (lead tail : Text) :
    (nameSpan (lead ++ (d.text ++ tail)) d.known).2 ≤ (lead ++ d.head).length := by
  rw [List.length_append]
  cases d with
  | worded f =>
    rw [text_worded]
    exact f.nameSpan_le lead _
  | binding b =>
    have hvariable := b.nameSpan_le lead (b.value.head ++ (listText b.value.list? ++ tail))
    rw [← text_binding] at hvariable
    rw [known, head, List.length_append]
    cases hinner : b.value.inner? with
    | none =>
      dsimp only
      omega
    | some f =>
      dsimp only
      split
      · omega
      · have hfunction := f.nameSpan_le (lead ++ b.before) (f.params.text ++ ')' :: tail)
        rw [← text_worded, List.append_assoc, ← text_of_inner? hinner, List.length_append]
          at hfunction
        rw [BoundFunction.eq_named_of_inner? hinner]
        exact Nat.le_trans hfunction (Nat.le_of_eq (Nat.add_assoc ..))

/-- No parenthesis stands before the list. -/
theorem open_not_mem_head : '(' ∉ d.head := by
  have hword : '(' ∉ ScriptForm.functionWord := by decide
  have hname : ∀ n : ScriptName, '(' ∉ n.text := fun n => open_not_mem_of_isNamePart n.isName.parts
  have hfunction : ∀ f : NamedFunction, '(' ∉ f.head := by
    intro f
    simp [NamedFunction.head, hword, hname, f.gap.not_mem_text,
      open_not_mem_of_isBlank f.spaceBlank]
  cases d with
  | worded f => exact hfunction f
  | binding b =>
    have hasync : '(' ∉ DefForm.asyncText b.async := by
      cases hasync : b.async with
      | none => exact List.not_mem_nil
      | some gap =>
        rw [DefForm.asyncText, List.mem_append, not_or]
        exact ⟨by decide, open_not_mem_of_isBlank (b.asyncBlank gap hasync).2⟩
    have hvalue : '(' ∉ b.value.head := by
      cases b.value with
      | named f => exact hfunction f
      | anonymous gap params => simp [BoundFunction.head, hword, gap.not_mem_text]
      | listed params space blank => exact List.not_mem_nil
      | single param space blank =>
        simp [BoundFunction.head, hname, open_not_mem_of_isBlank blank]
    simp [head, FunctionBinding.before, b.open_not_mem_assigned,
      open_not_mem_of_isBlank b.rightBlank, hasync, hvalue]

/-- What is taken for the list of a declaration is what stands in its parentheses, or in the first
ones behind it if it has none. -/
theorem parameterList_line
    (hopen : '(' ∉ lead.drop (nameSpan (lead ++ (d.text ++ tail)) d.known).2) :
    parameterList (lead ++ (d.text ++ tail)) d.known =
      firstParens (listText d.list? ++ tail) := by
  have hline : lead ++ (d.text ++ tail) = (lead ++ d.head) ++ (listText d.list? ++ tail) := by
    simp only [text, List.append_assoc]
  refine FunctionSignature.parameterList_eq hline (d.nameSpan_le lead tail) fun hin => ?_
  rw [List.drop_append] at hin
  rcases List.mem_append.mp hin with hin | hin
  · exact hopen hin
  · exact d.open_not_mem_head (List.mem_of_mem_drop hin)

/-! ## Reading the names -/

end ScriptDeclaration

theorem names_parametersOf (line name : Text) :
    (parametersOf "javascript" line name).map (·.name) =
      (namesIn (parameterList line name)).map String.ofList := by
  have hgo : ("javascript" == "go") = false := by decide
  rw [parametersOf, hgo, DefHeader.parametersFrom_alone, namesIn, List.map_map, List.map_map]
  rfl

/-- The names of the parameters. -/
def BoundFunction.names : BoundFunction → List Text
  | named f => f.params.names
  | anonymous _ params => params.names
  | listed params .. => params.names
  | single param .. => [param.text]

namespace ScriptDeclaration

/-- The names of the parameters. -/
def names : ScriptDeclaration → List Text
  | worded f => f.params.names
  | binding b => b.value.names

theorem names_of_list? {d : ScriptDeclaration} {params : PlainList} {behind : Text}
    (h : d.list? = some (params, behind)) : d.names = params.names := by
  cases d with
  | worded f =>
    obtain ⟨rfl, -⟩ := Prod.mk.inj (Option.some.inj h)
    rfl
  | binding b =>
    have hvalue : b.value.list? = some (params, behind) := h
    show b.value.names = params.names
    cases hcase : b.value with
    | single param space blank =>
      rw [hcase] at hvalue
      cases hvalue
    | _ =>
      rw [hcase] at hvalue
      obtain ⟨rfl, -⟩ := Prod.mk.inj (Option.some.inj hvalue)
      rfl

/-- Whether the names of the parameters are read: none in the list is passed over; or without a
list, the first parentheses behind the declaration happen to hold the parameter. -/
def IsRead (d : ScriptDeclaration) (tail : Text) : Prop :=
  match d.list? with
  | some (params, _) => ∀ n ∈ params.names, n ∉ passedOver
  | none => namesIn (firstParens tail) = d.names

variable {t lead tail : Text} {before after : List Text}

theorem namesIn_line_iff (d : ScriptDeclaration) (tail : Text) :
    namesIn (firstParens (listText d.list? ++ tail)) = d.names ↔ d.IsRead tail := by
  rw [IsRead]
  cases hlist : d.list? with
  | none => exact Iff.rfl
  | some list =>
    obtain ⟨params, behind⟩ := list
    rw [firstParens_listText, names_of_list? hlist]
    exact params.namesIn_text_eq_iff

/-- The first function of a source is reported, under the name of its declaration or that of a
function with a word and a name behind a declaration without. In the first case, and if no
parenthesis opens between an earlier place of the name and the declaration, the names of its
parameters are reported exactly if they are read. -/
theorem ofSource?_names (d : ScriptDeclaration)
    (hlines : (prepare .javaScript t).maskedLines =
      before ++ (lead ++ (d.text ++ tail)) :: after)
    (hbefore : ∀ line ∈ before, FunctionSpan.nameOn .javaScript line = none)
    (hfirst : ∀ form ∈ Language.javaScript.functionForms, ∀ m,
      form.find? (lead ++ (d.text ++ tail)) = some m → lead.length ≤ m.start)
    (hlead : lead.getLast?.any Unicode.isWord = false)
    (hnever : String.ofList d.known ∉ FunctionSpan.neverNames) :
    ∃ s, FunctionSignature.ofSource? (prepare .javaScript t) = some s ∧
      (s.name = String.ofList d.known ∨ d.inner? = none ∧ ∃ m,
        ScriptForm.wordForm.find? (lead ++ (d.text ++ tail)) = some m ∧
          lead.length + d.text.length ≤ m.start ∧ s.name = String.ofList (m.part 1)) ∧
      (s.name = String.ofList d.known →
        '(' ∉ lead.drop (nameSpan (lead ++ (d.text ++ tail)) d.known).2 →
          (s.parameters.map (·.name) = d.names.map String.ofList ↔ d.IsRead tail)) := by
  obtain ⟨name, hname, hcases⟩ := d.nameOn_line hlead hfirst hnever
  refine ⟨_, FunctionSignature.ofSource?_of_lines hlines hbefore hname, ?_, ?_⟩
  · rcases hcases with rfl | ⟨hinner, m, hfind, hstart, rfl, -⟩
    · exact .inl rfl
    · exact .inr ⟨hinner, m, hfind, hstart, rfl⟩
  · intro hknown hopen
    obtain rfl : name = d.known := String.ofList_injective hknown
    have hread : (FunctionSignature.ofLine "javascript" (lead ++ (d.text ++ tail))
        d.known).parameters.map (·.name) =
          (namesIn (firstParens (listText d.list? ++ tail))).map String.ofList := by
      rw [← d.parameterList_line hopen]
      exact names_parametersOf _ _
    rw [← d.namesIn_line_iff tail]
    calc (FunctionSignature.ofLine "javascript" (lead ++ (d.text ++ tail)) d.known).parameters.map
          (·.name) = d.names.map String.ofList
        ↔ (namesIn (firstParens (listText d.list? ++ tail))).map String.ofList =
            d.names.map String.ofList := by rw [hread]
      _ ↔ namesIn (firstParens (listText d.list? ++ tail)) = d.names :=
          List.map_inj_right fun _ _ => String.ofList_injective

theorem blank_one : Text.isBlank [' '] = true := rfl

theorem gap_one : [' '] ≠ [] ∧ Text.isBlank [' '] = true := ⟨List.cons_ne_nil ' ' [], blank_one⟩

theorem blank_around_none : Text.isBlank [' '] = true ∧ Text.isBlank [] = true :=
  ⟨blank_one, List.all_nil⟩

theorem gap_of_async : ∀ t ∈ some [' '], t ≠ [] ∧ Text.isBlank t = true := by
  intro t ht
  obtain rfl := Option.some.inj ht
  exact gap_one

theorem gap_of_none : ∀ t ∈ (none : Option Text), t ≠ [] ∧ Text.isBlank t = true :=
  fun t ht => absurd ht (Option.not_mem_none t)

/-- A function with a name of its own that a variable is bound to. -/
def fetchAll : ScriptDeclaration := .binding {
  word := ['c', 'o', 'n', 's', 't']
  gap := [' ']
  name := ⟨'l', "oad".toList, by decide, List.all_eq_true.mp (by decide)⟩
  left := [' ']
  right := [' ']
  async := some [' ']
  value := .named {
    gap := ⟨[' '], false, [], blank_around_none⟩
    name := ⟨'f', "etchAll".toList, by decide, List.all_eq_true.mp (by decide)⟩
    space := []
    params := ⟨[], [
      ⟨[], "url".toList, [], ⟨by decide, List.all_eq_true.mp (by decide)⟩, by decide⟩,
      ⟨[' '], "$left".toList, [' '], ⟨by decide, List.all_eq_true.mp (by decide)⟩, by decide⟩],
      List.all_nil⟩
    apart := List.cons_ne_nil ' ' []
    spaceBlank := List.all_nil }
  isWord := by decide
  gapBlank := gap_one
  leftBlank := blank_one
  rightBlank := blank_one
  asyncBlank := gap_of_async }

/-- The line with the function: calls, an arrow and another function stand behind its list. -/
def fetchLine : Text :=
  "export const load = async function fetchAll(url, $left ) \x7b go(url, x => function g(y));".toList

/-- The parameters of the function are reported. -/
theorem ofSource?_names_fetchAll :
    ∃ s, FunctionSignature.ofSource? (prepare .javaScript fetchLine) = some s ∧
      s.name = "fetchAll" ∧ s.parameters.map (·.name) = ["url", "$left"] := by
  obtain ⟨lead, hlead⟩ : ∃ lead, lead = "export ".toList := ⟨_, rfl⟩
  obtain ⟨tail, htail⟩ :
      ∃ tail, tail = " \x7b go(url, x => function g(y));".toList := ⟨_, rfl⟩
  have hlines : (prepare .javaScript fetchLine).maskedLines =
      [] ++ (lead ++ (fetchAll.text ++ tail)) :: [] := by
    rw [hlead, htail]
    decide +kernel
  have hall : (Language.javaScript.functionForms.all fun form =>
      (form.find? (lead ++ (fetchAll.text ++ tail))).all fun m =>
        decide (lead.length ≤ m.start)) = true := by
    rw [hlead, htail]
    decide +kernel
  have hfirst : ∀ form ∈ Language.javaScript.functionForms, ∀ m,
      form.find? (lead ++ (fetchAll.text ++ tail)) = some m → lead.length ≤ m.start := by
    intro form hform m hm
    have hform := List.all_eq_true.mp hall form hform
    rw [hm] at hform
    exact of_decide_eq_true hform
  obtain ⟨s, hs, hname, hnames⟩ := ofSource?_names fetchAll hlines (by simp) hfirst
    (by rw [hlead]; decide) (by decide +kernel)
  have hknown : s.name = String.ofList fetchAll.known :=
    hname.resolve_right fun hother => Option.some_ne_none _ hother.1
  have hopen : '(' ∉ lead.drop (nameSpan (lead ++ (fetchAll.text ++ tail)) fetchAll.known).2 := by
    rw [hlead]
    exact fun hin => absurd (List.mem_of_mem_drop hin) (by decide)
  have hread : fetchAll.IsRead tail :=
    (by decide +kernel : ∀ n ∈ fetchAll.names, n ∉ passedOver)
  refine ⟨s, hs, hknown.trans (by decide +kernel), ?_⟩
  rw [(hnames hknown hopen).mpr hread]
  decide +kernel

/-- A function of a single parameter before an arrow. -/
def increment : ScriptDeclaration := .binding {
  word := ['c', 'o', 'n', 's', 't']
  gap := [' ']
  name := ⟨'n', "ext".toList, by decide, List.all_eq_true.mp (by decide)⟩
  left := [' ']
  right := [' ']
  async := none
  value := .single ⟨'x', [], by decide, List.forall_mem_nil _⟩ [' '] blank_one
  isWord := by decide
  gapBlank := gap_one
  leftBlank := blank_one
  rightBlank := blank_one
  asyncBlank := gap_of_none }

/-- The parameter is not reported, since it stands in no parentheses; and the list of another
function is taken for that of the first one if it stands behind an earlier place of the name, or if
that function has a word and a name. -/
theorem ofSource?_increment :
    increment.text = "const next = x =>".toList ∧ increment.names = ["x".toList] ∧
      (FunctionSignature.ofSource? (prepare .javaScript "const next = x => x + 1".toList)).map
        (fun s => s.parameters.map (·.name)) = some [] ∧
      (FunctionSignature.ofSource? (prepare .javaScript
        "run(key); function run(a) \x7b\x7d".toList)).map
          (fun s => s.parameters.map (·.name)) = some ["key"] ∧
      (FunctionSignature.ofSource? (prepare .javaScript
        "const make = (a) => function inner(b) \x7b\x7d".toList)).map
          (fun s => s.parameters.map (·.name)) = some ["b"] := by
  decide +kernel

end ScriptDeclaration
end SourceAudit
