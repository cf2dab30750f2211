import SourceAudit.Proofs.Skeleton.HeaderLine
import SourceAudit.Proofs.Skeleton.NamedParameters
import SourceAudit.Proofs.Source.PreparedLines
import SourceAudit.Proofs.Text.JoinedLines
import SourceAudit.Skeleton.Basic

/-!
  The parameters of the first function of a Python source.

  A header is a line of parameters with types and defaults, and of the markers `*` and `/`
  between them (`DefHeader`). The scan has no markers, and passes over `self`, `cls` and
  `this` where they stand alone. What is proved:
    1. `DefHeader.parametersOf_line` — the parameters that are found are those that are read
       of each, with what follows the commas of a default that stand in no brackets.
    2. `DefHeader.ofSource?_header` — these are the parameters of the header exactly if it has
       no marker, its receivers stand alone, and no other `this` does; then they have
       identifiers for names, and there is a sample value for each.
       `DefHeader.marker_reported` is a marker that is taken for a parameter.
-/
namespace SourceAudit
open FunctionSignature (beforeClose parameterOf parametersFrom parametersOf)
open NamedParameter (receivers)

/-! ## Headers -/

/-- A parameter of a header, or one of the markers between parameters. -/
inductive HeaderParameter where
  | marker (isStar : Bool) (left right : Text) (blank : left.isBlank = true ∧ right.isBlank = true)
  | named (q : NamedParameter)

namespace HeaderParameter

/-- The characters of the parameter, up to the first comma of its default. -/
def text : HeaderParameter → Text
  | marker isStar left right _ => left ++ ((if isStar then ['*'] else ['/']) ++ right)
  | named q => q.text

/-- What follows each comma of its default. -/
def further : HeaderParameter → List (BalancedText false)
  | marker .. => []
  | named q => (q.default.map (·.2)).getD []

/-- What the parameter is read as. -/
def own? : HeaderParameter → Option (Text × Text)
  | marker isStar .. => some (if isStar then [] else ['/'], [])
  | named q => if q.IsBare then none else some (q.name, q.declared)

/-- The parameter, with the text of its type, unless it is a marker or a receiver. -/
def due? : HeaderParameter → Option (Text × Text)
  | marker .. => none
  | named q => if q.IsReceiver then none else some (q.name, q.declared)

/-- The parameters that are read of it. -/
def reported (p : HeaderParameter) : List (Text × Text) :=
  p.own?.toList ++ p.further.filterMap fun t => Parameters.parse "python" (Text.trim t.text)

/-- Whether the parameter is no marker, and passed over exactly if it is a receiver. -/
def IsRead : HeaderParameter → Prop
  | marker .. => False
  | named q => q.IsBare ↔ q.IsReceiver

instance : (p : HeaderParameter) → Decidable p.IsRead
  | marker .. => inferInstanceAs (Decidable False)
  | named q => inferInstanceAs (Decidable (q.IsBare ↔ q.IsReceiver))

variable {p : HeaderParameter}

theorem isWhole_text (p : HeaderParameter) : IsWhole p.text := by
  cases p with
  | named q => exact q.isWhole_text
  | marker isStar left right blank =>
    have hsign : IsWhole (if isStar then ['*'] else ['/']) := by
      cases isStar <;> exact .singleton (by decide) (by decide)
    exact (IsWhole.of_isBlank blank.1).append (hsign.append (.of_isBlank blank.2))

theorem isWhole_further {t : BalancedText false} (ht : t ∈ p.further) : IsWhole t.text := by
  cases p with
  | marker => cases ht
  | named q =>
    cases hv : q.default with
    | none =>
      rw [further, hv] at ht
      cases ht
    | some v =>
      rw [further, hv] at ht
      exact BalancedText.isWhole ((q.defaultPlain v hv).2 t ht)

theorem parse_text (p : HeaderParameter) :
    Parameters.parse "python" (Text.trim p.text) = p.own? := by
  cases p with
  | named q => exact q.parse_text
  | marker isStar left right blank =>
    have hsign : Text.trim (if isStar then ['*'] else ['/']) = if isStar then ['*'] else ['/'] := by
      cases isStar <;> decide
    rw [text, Text.trim_append_left blank.1, Text.trim_append_right _ blank.2, hsign]
    cases isStar with
    | true => exact (by decide : Parameters.parse "python" ['*'] = some ([], []))
    | false => exact (by decide : Parameters.parse "python" ['/'] = some (['/'], []))

/-- What should be read is named by an identifier that is no receiver. -/
theorem of_due? {x : Text × Text} (h : p.due? = some x) :
    Unicode.isIdentifier x.1 = true ∧ x.1 ∉ receivers := by
  cases p with
  | marker => cases h
  | named q =>
    rw [due?] at h
    split at h
    · cases h
    · next hnot =>
      obtain rfl := Option.some.inj h
      exact ⟨q.isName, hnot⟩

theorem own?_of_isRead (h : p.IsRead) : p.own? = p.due? := by
  cases p with
  | marker => exact absurd h id
  | named q =>
    have hiff : q.IsBare ↔ q.IsReceiver := h
    simp only [own?, due?, hiff]

/-- A parameter that is read as one with the name of an identifier that is no receiver should be. -/
theorem due?_of_own? {x : Text × Text} (h : p.own? = some x)
    (hname : Unicode.isIdentifier x.1 = true) (hnot : x.1 ∉ receivers) : p.due? = some x := by
  cases p with
  | marker isStar =>
    obtain rfl := Option.some.inj h
    cases isStar <;> exact absurd hname (by decide)
  | named q =>
    rw [own?] at h
    split at h
    · cases h
    · obtain rfl := Option.some.inj h
      exact if_neg hnot

end HeaderParameter

/-- The line of a declaration with its parameters. -/
structure DefHeader extends DefLead where
  params : List HeaderParameter
  tail : Text

namespace DefHeader

/-- What stands between the parentheses, cut at the commas that stand in no brackets. -/
def pieces (h : DefHeader) : List Text :=
  h.params.flatMap fun p => p.text :: p.further.map (·.text)

/-- The line. -/
def line (h : DefHeader) : Text :=
  h.toDefLead.line (Text.joinWith [','] h.pieces ++ ')' :: h.tail)

/-- The parameters that are read of the line, with the texts of their types. -/
def reported (h : DefHeader) : List (Text × Text) := h.params.flatMap (·.reported)

/-- The parameters that should be read. -/
def due (h : DefHeader) : List (Text × Text) := h.params.filterMap (·.due?)

/-- Whether the commas of all defaults stand in brackets. -/
def HasWholeDefaults (h : DefHeader) : Prop := ∀ p ∈ h.params, p.further = []

variable (h : DefHeader)

theorem isWhole_of_mem_pieces {t : Text} (ht : t ∈ h.pieces) : IsWhole t := by
  obtain ⟨p, -, ht⟩ := List.mem_flatMap.mp ht
  rcases List.mem_cons.mp ht with rfl | ht
  · exact p.isWhole_text
  · obtain ⟨u, hu, rfl⟩ := List.mem_map.mp ht
    exact HeaderParameter.isWhole_further hu

theorem beforeClose_joinWith {ts : List Text} (hts : ∀ t ∈ ts, IsWhole t) (depth : Nat)
    (rest : Text) : beforeClose depth (Text.joinWith [','] ts ++ rest) =
      Text.joinWith [','] ts ++ beforeClose depth rest := by
  induction ts with
  | nil => rfl
  | cons t ts ih =>
    cases ts with
    | nil => exact (hts t List.mem_cons_self).closes depth rest
    | cons u us =>
      rw [Text.joinWith_cons_cons, List.append_assoc, (hts t List.mem_cons_self).closes,
        List.append_assoc, List.singleton_append, beforeClose_cons (by decide) (by decide),
        ih (fun v hv => hts v (List.mem_cons_of_mem t hv)), List.append_assoc, List.append_assoc]
      rfl

theorem parametersFrom_alone (parts : List (Text × Text)) :
    parametersFrom false [] parts = parts.map fun q => parameterOf q.1 q.2 := by
  induction parts with
  | nil => rfl
  | cons q parts ih =>
    obtain ⟨name, declared⟩ := q
    rw [parametersFrom, Bool.false_and, if_neg Bool.false_ne_true, ih]
    rfl

/-- The parameters that are read of the line. -/
theorem parametersOf_line : parametersOf "python" h.line h.name =
    h.reported.map fun q => parameterOf q.1 q.2 := by
  have hwhole : ∀ t ∈ h.pieces, IsWhole t := fun t => h.isWhole_of_mem_pieces
  have hlist : FunctionSignature.parameterList h.line h.name = Text.joinWith [','] h.pieces :=
    h.toDefLead.parameterList_line (beforeClose_joinWith hwhole)
  have hcut : Parameters.CutApart h.pieces :=
    ⟨fun t ht => (hwhole t (List.dropLast_subset _ ht)).rise, fun t ht => (hwhole t ht).commas⟩
  have hgo : ("python" == "go") = false := by decide
  have hnil : Parameters.parse "python" [] = none := by decide
  have hparts : (Parameters.split (Text.joinWith [','] h.pieces)).filterMap
      (Parameters.parse "python") = h.reported := by
    have hskip : ∀ t : Text, (if !t.isEmpty then Parameters.parse "python" t else none) =
        Parameters.parse "python" t := by
      intro t
      cases t with
      | nil => exact hnil.symm
      | cons c t => rfl
    have hpad : Text.isBlank [] = true := rfl
    rw [Parameters.trim_of_cutApart hpad hcut, List.filterMap_filter]
    simp only [hskip]
    rw [List.filterMap_map, pieces, List.filterMap_flatMap, reported]
    refine congrArg (List.flatMap · h.params) (funext fun p => ?_)
    rw [HeaderParameter.reported, ← p.parse_text]
    cases hp : Parameters.parse "python" (Text.trim p.text) <;>
      simp [hp, List.filterMap_map]
  rw [parametersOf, hlist, hparts, hgo, parametersFrom_alone]

/-! ### What is read and what should be -/

/-- Two ways to take some of a list that take equally many, where one takes all that the other
takes, take from the same places. -/
theorem isSome_of_length_filterMap {α β : Type} {f g : α → Option β} {xs : List α}
    (hall : ∀ x ∈ xs, (f x).isSome = true → (g x).isSome = true)
    (hlength : (xs.filterMap f).length = (xs.filterMap g).length) :
    ∀ x ∈ xs, (g x).isSome = true → (f x).isSome = true := by
  induction xs with
  | nil => exact fun x hx => absurd hx List.not_mem_nil
  | cons x xs ih =>
    obtain ⟨hx, htail⟩ := List.forall_mem_cons.mp hall
    have hle : (xs.filterMap f).length ≤ (xs.filterMap g).length := by
      rw [List.length_filterMap_eq_countP, List.length_filterMap_eq_countP]
      exact List.countP_mono_left htail
    refine List.forall_mem_cons.mpr ⟨fun hg => ?_, ih htail ?_⟩
    · cases hf : f x with
      | some a => rfl
      | none =>
        obtain ⟨b, hb⟩ := Option.isSome_iff_exists.mp hg
        rw [List.filterMap_cons_none hf, List.filterMap_cons_some hb, List.length_cons] at hlength
        omega
    · cases hf : f x with
      | some a =>
        obtain ⟨b, hb⟩ := Option.isSome_iff_exists.mp (hx (by rw [hf]; rfl))
        rw [List.filterMap_cons_some hf, List.filterMap_cons_some hb] at hlength
        exact Nat.succ.inj hlength
      | none =>
        cases hg : g x with
        | none => rwa [List.filterMap_cons_none hf, List.filterMap_cons_none hg] at hlength
        | some b =>
          rw [List.filterMap_cons_none hf, List.filterMap_cons_some hg, List.length_cons] at hlength
          omega

variable {h}

/-- Where no default is cut, what is read is what should be exactly if each parameter is read as
one, but for the receivers, which stand alone. -/
theorem reported_eq_due_iff (hwhole : h.HasWholeDefaults) :
    h.reported = h.due ↔ ∀ p ∈ h.params, p.IsRead := by
  have hown : h.reported = h.params.filterMap (·.own?) := by
    rw [reported, List.filterMap_eq_flatMap_toList]
    refine List.flatMap_congr fun p hp => ?_
    rw [HeaderParameter.reported, hwhole p hp]
    exact List.append_nil _
  rw [hown, due]
  constructor
  · intro heq
    have hdue : ∀ p ∈ h.params, ∀ x, p.own? = some x → p.due? = some x := by
      intro p hp x hx
      have hmem : x ∈ h.params.filterMap (·.due?) := heq ▸ List.mem_filterMap.mpr ⟨p, hp, hx⟩
      obtain ⟨p', -, hp'⟩ := List.mem_filterMap.mp hmem
      obtain ⟨hname, hnot⟩ := HeaderParameter.of_due? hp'
      exact HeaderParameter.due?_of_own? hx hname hnot
    have hsame := isSome_of_length_filterMap (fun p hp hsome => by
      obtain ⟨x, hx⟩ := Option.isSome_iff_exists.mp hsome
      rw [hdue p hp x hx]
      rfl) (congrArg List.length heq)
    intro p hp
    cases p with
    | marker isStar left right blank => exact Option.some_ne_none _ (hdue _ hp _ rfl).symm
    | named q =>
      constructor
      · intro hbare
        by_contra hnot
        have hsome := hsame (.named q) hp (by rw [HeaderParameter.due?, if_neg hnot]; rfl)
        rw [HeaderParameter.own?, if_pos hbare] at hsome
        cases hsome
      · intro hreceiver
        by_contra hbare
        have hsome := hdue (.named q) hp _ (if_neg hbare)
        rw [HeaderParameter.due?, if_pos hreceiver] at hsome
        cases hsome
  · exact fun hread => List.filterMap_congr fun p hp => HeaderParameter.own?_of_isRead (hread p hp)

end DefHeader

/-! ## The first line with a function -/

theorem FunctionSignature.ofSource?_of_lines {p : Prepared} {line name : Text}
    {before after : List Text} (hlines : p.maskedLines = before ++ line :: after)
    (hbefore : ∀ row ∈ before, FunctionSpan.nameOn p.language row = none)
    (hname : FunctionSpan.nameOn p.language line = some name) :
    ofSource? p = some (ofLine p.language.name line name) := by
  have hnone : before.findSome? (fun row =>
      (FunctionSpan.nameOn p.language row).map fun name => ofLine p.language.name row name) =
        none := by
    rw [List.findSome?_eq_none_iff]
    intro row hrow
    rw [hbefore row hrow]
    rfl
  rw [ofSource?, hlines, List.findSome?_append, hnone, Option.none_or, List.findSome?_cons, hname]
  rfl

/-! ## Sample values -/

/-- A skeleton holds one value for each parameter. -/
theorem TestSkeleton.input_of_mem_ofSignature {p : Prepared} {s : FunctionSignature}
    {k : TestSkeleton} (hk : k ∈ ofSignature p (some s)) (hne : s.parameters ≠ []) :
    ∃ case, k.input =
      ", ".intercalate (s.parameters.map fun q => Sample.value q.kind case p.language.name) := by
  unfold ofSignature at hk
  obtain ⟨case, -, rfl⟩ := List.mem_map.mp hk
  refine ⟨case, ?_⟩
  dsimp only [ofCase]
  rw [List.isEmpty_eq_false_iff.mpr hne, if_neg Bool.false_ne_true, List.map_map]
  rfl

theorem TestSkeleton.ofSignature_ne_nil (p : Prepared) (signature : Option FunctionSignature) :
    ofSignature p signature ≠ [] := by
  unfold ofSignature
  dsimp only
  rw [Ne, List.map_eq_nil_iff, List.filter_eq_nil_iff]
  exact fun hnone => hnone .normal (by decide) rfl

namespace DefHeader
variable (h : DefHeader) {t : Text} {before after : List Text}

/-- The first line with a function is the line of the header. -/
theorem ofSource?_eq (hlines : (prepare .python t).maskedLines = before ++ h.line :: after)
    (hfirst : ∀ line ∈ before, FunctionSpan.nameOn .python line = none) :
    FunctionSignature.ofSource? (prepare .python t) =
      some (FunctionSignature.ofLine "python" h.line h.name) :=
  FunctionSignature.ofSource?_of_lines hlines hfirst (h.toDefLead.nameOn_line _)

/-- A source with a header is not blank. -/
theorem isBlank_of_line (hlines : (prepare .python t).maskedLines = before ++ h.line :: after) :
    (prepare .python t).isBlank = false := by
  rw [Bool.eq_false_iff]
  intro hblank
  have hline : h.line ∈ (mask Language.python.lexemes t).lines := by
    show h.line ∈ (prepare .python t).maskedLines
    rw [hlines]
    exact List.mem_append_right _ List.mem_cons_self
  have hopen : '(' ∈ h.line := by
    rw [line, DefLead.line]
    simp
  have hmem := Text.mem_of_mem_lines hline hopen
  exact Text.not_mem_of_isBlank (mask_isBlank hblank) (by decide) hmem

theorem parameterOf_injective :
    Function.Injective fun q : Text × Text => parameterOf q.1 q.2 := by
  intro q r heq
  obtain ⟨hname, htype, -⟩ := Parameter.mk.inj heq
  exact Prod.ext (String.ofList_injective hname) (String.ofList_injective htype)

/-- The first function of a source is reported with what is read of its header. Where the commas of
its defaults stand in brackets, these are its parameters exactly if it has no marker, its receivers
stand alone, and no other parameter is a name that is passed over. Then each of them has an
identifier for its name, and each skeleton holds one value for each. -/
theorem ofSource?_header
    (hlines : (prepare .python t).maskedLines = before ++ h.line :: after)
    (hfirst : ∀ line ∈ before, FunctionSpan.nameOn .python line = none) :
    ∃ s, FunctionSignature.ofSource? (prepare .python t) = some s ∧
      s.name = String.ofList h.name ∧
      s.parameters = h.reported.map (fun q => parameterOf q.1 q.2) ∧
      (h.HasWholeDefaults →
        (s.parameters = h.due.map (fun q => parameterOf q.1 q.2) ↔ ∀ p ∈ h.params, p.IsRead)) ∧
      (s.parameters = h.due.map (fun q => parameterOf q.1 q.2) →
        (∀ q ∈ s.parameters, Unicode.isIdentifier q.name.toList = true) ∧
        (TestSkeleton.drafts (prepare .python t)).1 ≠ [] ∧
        (h.due ≠ [] → ∀ k ∈ (TestSkeleton.drafts (prepare .python t)).1, ∃ case, k.input =
          ", ".intercalate
            (h.due.map fun q => Sample.value (ValueKind.infer q.1 q.2) case "python"))) := by
  have hsource := h.ofSource?_eq hlines hfirst
  have hparameters : (FunctionSignature.ofLine "python" h.line h.name).parameters =
      h.reported.map fun q => parameterOf q.1 q.2 := h.parametersOf_line
  have hdrafts : (TestSkeleton.drafts (prepare .python t)).1 = TestSkeleton.ofSignature
      (prepare .python t) (some (FunctionSignature.ofLine "python" h.line h.name)) := by
    rw [TestSkeleton.drafts, h.isBlank_of_line hlines, if_neg Bool.false_ne_true, hsource]
  refine ⟨_, hsource, rfl, hparameters, fun hwhole => ?_, fun hdue => ⟨?_, ?_, ?_⟩⟩
  · rw [hparameters, parameterOf_injective.list_map.eq_iff]
    exact reported_eq_due_iff hwhole
  · intro q hq
    rw [hdue] at hq
    obtain ⟨x, hx, rfl⟩ := List.mem_map.mp hq
    obtain ⟨p, -, hp⟩ := List.mem_filterMap.mp hx
    rw [parameterOf, String.toList_ofList]
    exact (HeaderParameter.of_due? hp).1
  · rw [hdrafts]
    exact TestSkeleton.ofSignature_ne_nil _ _
  · intro hne k hk
    rw [hdrafts] at hk
    obtain ⟨case, hinput⟩ := TestSkeleton.input_of_mem_ofSignature hk
      (by rw [hdue, Ne, List.map_eq_nil_iff]; exact hne)
    refine ⟨case, ?_⟩
    rw [hinput, hdue, List.map_map]
    rfl

/-- The header of a method, with a type and a default that hold commas. -/
def tally : DefHeader where
  indent := []
  async := none
  gap := [' ']
  name := "tally".toList
  space := []
  indentBlank := List.all_nil
  asyncBlank := nofun
  gapBlank := by decide
  nameTaken :=
    ⟨⟨'t', "ally".toList, by decide, by decide, List.all_eq_true.mp (by decide)⟩, by decide⟩
  spaceBlank := List.all_nil
  params := [
    .named ⟨[], none, "self".toList, [], none, none, List.all_nil, nofun, by decide, List.all_nil,
      nofun, nofun⟩,
    .named ⟨[' '], none, "rows".toList, [],
      some (.chars " Dict".toList (by decide) <|
        .group .square (.chars "str".toList (by decide) <| .comma <|
          .chars " int".toList (by decide) .done) .done),
      none, rfl, nofun, by decide, List.all_nil,
      fun a ha => by obtain rfl := Option.some.inj ha; exact ⟨⟨trivial, trivial⟩, by decide⟩, nofun⟩,
    .named ⟨[' '], some (0, []), "rest".toList, [], none, none, rfl,
      fun s hs => by obtain rfl := Option.some.inj hs; rfl, by decide, List.all_nil,
      nofun, nofun⟩,
    .named ⟨[' '], none, "size".toList, [], none,
      some (.chars "max".toList (by decide) <|
        .group .round (.chars "1".toList (by decide) <| .comma <|
          .chars " 2".toList (by decide) .done) .done, []),
      rfl, nofun, by decide, List.all_nil, nofun,
      fun v hv => by obtain rfl := Option.some.inj hv; exact ⟨⟨trivial, trivial⟩, nofun⟩⟩]
  tail := " -> int:".toList

/-- The parameters of the method are reported. -/
theorem ofSource?_header_tally :
    tally.line = "def tally(self, rows: Dict[str, int], *rest, size=max(1, 2)) -> int:".toList ∧
      ∃ s, FunctionSignature.ofSource? (prepare .python (tally.line ++ "\n    pass".toList)) = some s ∧
        s.parameters = [parameterOf "rows".toList "Dict[str, int]".toList,
          parameterOf "rest".toList [], parameterOf "size".toList []] := by
  have hlines : (prepare .python (tally.line ++ "\n    pass".toList)).maskedLines =
      [] ++ tally.line :: ["    pass".toList] := by decide +kernel
  have hwhole : (tally.params.all fun p => p.further.isEmpty) = true := by decide +kernel
  have hread : (tally.params.all fun p => decide p.IsRead) = true := by decide +kernel
  have hdue : tally.due = [("rows".toList, "Dict[str, int]".toList), ("rest".toList, []),
      ("size".toList, [])] := by decide +kernel
  obtain ⟨s, hs, -, -, hiff, -⟩ := ofSource?_header tally hlines (by simp)
  have hparameters := (hiff fun p hp => List.isEmpty_iff.mp (List.all_eq_true.mp hwhole p hp)).mpr
    fun p hp => of_decide_eq_true (List.all_eq_true.mp hread p hp)
  refine ⟨by decide +kernel, s, hs, ?_⟩
  rw [hparameters, hdue]
  rfl

/-- The header of a function with a marker. -/
def keywordOnly : DefHeader where
  indent := []
  async := none
  gap := [' ']
  name := "f".toList
  space := []
  indentBlank := List.all_nil
  asyncBlank := nofun
  gapBlank := by decide
  nameTaken := ⟨⟨'f', [], by decide, by decide, nofun⟩, by decide⟩
  spaceBlank := List.all_nil
  params := [
    .named ⟨[], none, "a".toList, [], none, none, List.all_nil, nofun, by decide, List.all_nil,
      nofun, nofun⟩,
    .marker true [' '] [] (by decide),
    .named ⟨[' '], none, "b".toList, [], none, none, rfl, nofun, by decide, List.all_nil,
      nofun, nofun⟩]
  tail := ":".toList

/-- The marker is reported as a parameter without a name. -/
theorem marker_reported :
    keywordOnly.line = "def f(a, *, b):".toList ∧
      keywordOnly.due = [("a".toList, []), ("b".toList, [])] ∧
      (FunctionSignature.ofSource? (prepare .python "def f(a, *, b):\n    pass".toList)).map
        (fun s => s.parameters.map (·.name)) = some ["a", "", "b"] := by
  decide +kernel

end DefHeader

end SourceAudit
