import SourceAudit.Proofs.Complexity.LoopTokens
import SourceAudit.Proofs.Skeleton.ParameterTexts
import SourceAudit.Skeleton.Signature

/-!
  A parameter as Python writes it, and what is read of it.

  A parameter is a name with stars before it, and with a type and a default behind it
  (`NamedParameter`). What is proved:
    1. `IsWhole` — a text with balanced brackets and no comma outside of them is part of one
       parameter and ends before the parenthesis that closes the list; blanks, identifiers
       and balanced texts without arrows are such texts.
    2. `NamedParameter.trim_takeWhile_text` — without its default a parameter is the name with
       its stars, and the type behind a colon.
    3. `NamedParameter.parse_text` — so it is read as its name and the text of its type,
       unless it is a name that is passed over and stands alone.
-/
namespace SourceAudit
open FunctionSignature (beforeClose)

/-! ## Identifiers -/

namespace Unicode

/-- Characters that stand in identifiers. -/
def inName (c : Char) : Bool := isIdentifierStart c || isIdentifierPart c

/-- A blank is no part of a name. -/
theorem isBlank_of_inName {c : Char} (h : inName c = true) : isBlank c = false := by
  rw [Bool.eq_false_iff]
  intro hblank
  have hcovers : ∀ n ∈ blankPoints, (decide (128 ≤ n) && covers identifierStartRanges n) = false ∧
      (decide (128 ≤ n) && covers identifierPartRanges n) = false := by
    decide +kernel
  obtain ⟨hascii, hne⟩ := isAlphanum_of_isBlank hblank
  have halpha : c.isAlpha = false := (Bool.or_eq_false_iff.mp hascii).1
  obtain ⟨hstart, hpart⟩ := hcovers c.toNat (mem_blankPoints hblank)
  rw [inName, isIdentifierStart, isIdentifierPart, halpha, hascii, hne, hstart, hpart] at h
  cases h

/-- Marks that are no part of a name. -/
def marks : List Char := [',', '=', ':', '*', '.', '/', '&'] ++ Parameters.marks

theorem not_mem_marks_of_inName {c : Char} (h : inName c = true) : c ∉ marks := by
  have hall : (marks.all fun d => !inName d) = true := by decide
  intro hmem
  have hc := List.all_eq_true.mp hall c hmem
  rw [h] at hc
  cases hc

theorem inName_of_isIdentifier {t : Text} (h : isIdentifier t = true) :
    t ≠ [] ∧ ∀ c ∈ t, inName c = true := by
  cases t with
  | nil => cases h
  | cons c rest =>
    obtain ⟨hstart, hrest⟩ := Bool.and_eq_true_iff.mp h
    refine ⟨List.cons_ne_nil c rest, List.forall_mem_cons.mpr ⟨?_, fun d hd => ?_⟩⟩
    · rw [inName, hstart, Bool.true_or]
    · rw [inName, List.all_eq_true.mp hrest d hd, Bool.or_true]

end Unicode

/-! ## Texts that are cut whole -/

theorem beforeClose_cons {c : Char} (hopen : c ≠ '(') (hclose : c ≠ ')') (depth : Nat)
    (rest : Text) : beforeClose depth (c :: rest) = c :: beforeClose depth rest := by
  have hopen : (c == '(') = false := beq_eq_false_iff_ne.mpr hopen
  have hclose : (c == ')') = false := beq_eq_false_iff_ne.mpr hclose
  cases depth <;> simp [beforeClose, hopen, hclose]

/-- A text that is part of one parameter: its brackets are balanced, and its commas stand inside of
them. -/
structure IsWhole (t : Text) : Prop where
  rise : Parameters.rise t = 0
  commas : 0 ∉ Parameters.commaDepths 0 t
  closes : ∀ depth rest, beforeClose depth (t ++ rest) = t ++ beforeClose depth rest

namespace IsWhole
variable {t u : Text}

theorem nil : IsWhole [] := ⟨rfl, List.not_mem_nil, fun _ _ => rfl⟩

theorem append (ht : IsWhole t) (hu : IsWhole u) : IsWhole (t ++ u) where
  rise := by rw [Parameters.rise_append, ht.rise, hu.rise]; rfl
  commas := by
    rw [Parameters.commaDepths_append, ht.rise, List.mem_append, not_or]
    exact ⟨ht.commas, hu.commas⟩
  closes depth rest := by rw [List.append_assoc, ht.closes, hu.closes, List.append_assoc]

/-- A character that is neither a bracket nor a comma. -/
theorem singleton {c : Char} (hcomma : c ≠ ',') (hmarks : c ∉ Parameters.marks) : IsWhole [c] where
  rise := by rw [Parameters.rise_cons, Parameters.depthOf_eq_zero hmarks]; rfl
  commas := by rw [Parameters.commaDepths_cons, if_neg hcomma]; exact List.not_mem_nil
  closes depth rest := by
    refine beforeClose_cons ?_ ?_ depth rest
    · rintro rfl
      exact hmarks (by decide)
    · rintro rfl
      exact hmarks (by decide)

theorem of_quiet (h : ∀ c ∈ t, c ≠ ',' ∧ c ∉ Parameters.marks) : IsWhole t := by
  induction t with
  | nil => exact nil
  | cons c t ih =>
    obtain ⟨hc, ht⟩ := List.forall_mem_cons.mp h
    exact (singleton hc.1 hc.2).append (ih ht)

theorem of_isBlank (h : t.isBlank = true) : IsWhole t := by
  refine of_quiet fun c hc => ?_
  have hblank := List.all_eq_true.mp h c hc
  have hmarks : ((',' :: Parameters.marks).all fun d => !Unicode.isBlank d) = true := by decide
  have hother : c ∉ ',' :: Parameters.marks := fun hmem => by
    have hnot := List.all_eq_true.mp hmarks c hmem
    rw [hblank] at hnot
    cases hnot
  exact ⟨fun heq => hother (heq ▸ List.mem_cons_self),
    fun hmem => hother (List.mem_cons_of_mem _ hmem)⟩

theorem of_inName (h : ∀ c ∈ t, Unicode.inName c = true) : IsWhole t := by
  refine of_quiet fun c hc => ?_
  have hother := Unicode.not_mem_marks_of_inName (h c hc)
  refine ⟨?_, fun hmem => hother (List.mem_append_right _ hmem)⟩
  rintro rfl
  exact hother (by decide)

end IsWhole

/-- Balanced parentheses close before the one that is open. -/
theorem BalancedText.beforeClose_text {inside : Bool} (t : BalancedText inside) (depth : Nat)
    (rest : Text) : beforeClose depth (t.text ++ rest) = t.text ++ beforeClose depth rest := by
  induction t generalizing depth rest with
  | done => rfl
  | char c plain t ih =>
    have hopen : c ≠ '(' := fun heq => plain.2 (heq ▸ by decide)
    have hclose : c ≠ ')' := fun heq => plain.2 (heq ▸ by decide)
    rw [text, List.cons_append, beforeClose_cons hopen hclose, ih, List.cons_append]
  | comma t ih =>
    rw [text, List.cons_append, beforeClose_cons (by decide) (by decide), ih, List.cons_append]
  | arrow a t ih =>
    have harrow : beforeClose depth (a.text ++ (t.text ++ rest)) =
        a.text ++ beforeClose depth (t.text ++ rest) := by
      cases a <;> rfl
    rw [text, List.append_assoc, harrow, ih, List.append_assoc]
  | group b inner t ihInner ihRest =>
    have hround : beforeClose depth ('(' :: (inner.text ++ ')' :: (t.text ++ rest))) =
        '(' :: (inner.text ++ ')' :: (t.text ++ beforeClose depth rest)) := by
      calc beforeClose depth ('(' :: (inner.text ++ ')' :: (t.text ++ rest)))
          = '(' :: beforeClose (depth + 1) (inner.text ++ ')' :: (t.text ++ rest)) := rfl
        _ = '(' :: (inner.text ++ ')' :: beforeClose depth (t.text ++ rest)) := by
            rw [ihInner]
            rfl
        _ = _ := by rw [ihRest]
    have hother : ∀ {l r : Char}, l ≠ '(' → l ≠ ')' → r ≠ '(' → r ≠ ')' →
        beforeClose depth (l :: (inner.text ++ r :: (t.text ++ rest))) =
          l :: (inner.text ++ r :: (t.text ++ beforeClose depth rest)) := by
      intro l r hl hl' hr hr'
      rw [beforeClose_cons hl hl', ihInner, beforeClose_cons hr hr', ihRest]
    have hsame : beforeClose depth (b.opening :: (inner.text ++ b.closing :: (t.text ++ rest))) =
        b.opening :: (inner.text ++ b.closing :: (t.text ++ beforeClose depth rest)) := by
      cases b with
      | round => exact hround
      | square => exact hother (by decide) (by decide) (by decide) (by decide)
      | curly => exact hother (by decide) (by decide) (by decide) (by decide)
      | angle => exact hother (by decide) (by decide) (by decide) (by decide)
    simpa only [text, List.cons_append, List.append_assoc] using hsame

theorem BalancedText.isWhole {t : BalancedText false} (h : t.ArrowFree) : IsWhole t.text where
  rise := (rise_text t).trans (arrowRise_of_arrowFree h)
  commas := by
    rw [commaDepths_text]
    intro hzero
    exact absurd (le_of_mem_commaCounts h hzero) (by decide)
  closes := t.beforeClose_text

/-! ## Parameters as they are written -/

/-- A parameter with its name. The number of its stars is one less than they are, if it has any. -/
structure NamedParameter where
  lead : Text
  stars : Option (Nat × Text)
  name : Text
  space : Text
  annotation : Option (BalancedText false)
  default : Option (BalancedText false × List (BalancedText false))
  leadBlank : lead.isBlank = true
  starsBlank : ∀ s ∈ stars, s.2.isBlank = true
  isName : Unicode.isIdentifier name = true
  spaceBlank : space.isBlank = true
  annotationPlain : ∀ a ∈ annotation, a.ArrowFree ∧ '=' ∉ a.text
  defaultPlain : ∀ v ∈ default, v.1.ArrowFree ∧ ∀ u ∈ v.2, u.ArrowFree

namespace NamedParameter

/-- Stars, with the blanks behind them. -/
def starText : Option (Nat × Text) → Text
  | none => []
  | some (more, gap) => '*' :: (List.replicate more '*' ++ gap)

/-- The name with its stars. -/
def shown (q : NamedParameter) : Text := starText q.stars ++ q.name

/-- What stands behind the name for the type. -/
def annotationText : Option (BalancedText false) → Text
  | none => []
  | some a => ':' :: a.text

/-- What stands behind the type for the default, up to its first comma. -/
def defaultText : Option (BalancedText false × List (BalancedText false)) → Text
  | none => []
  | some v => '=' :: v.1.text

/-- The parameter, up to the first comma of its default. -/
def text (q : NamedParameter) : Text :=
  q.lead ++ (q.shown ++ (q.space ++ annotationText q.annotation)) ++ defaultText q.default

/-- The type as it is read: with its colon and the blanks before it. -/
def shownType (q : NamedParameter) : Text :=
  match q.annotation with
  | none => []
  | some a => q.space ++ ':' :: Text.trimRight a.text

/-- The text of its type. -/
def declared (q : NamedParameter) : Text :=
  match q.annotation with
  | none => []
  | some a => Text.trim a.text

/-- The names that are passed over where they stand alone. -/
def passedOver : List Text := ["self", "cls", "this"].map String.toList

/-- Whether a name that is passed over stands alone. -/
def IsBare (q : NamedParameter) : Prop :=
  q.stars = none ∧ q.annotation = none ∧ q.name ∈ passedOver

instance (q : NamedParameter) : Decidable q.IsBare :=
  decidable_of_iff (q.stars.isNone = true ∧ q.annotation.isNone = true ∧ q.name ∈ passedOver) (by
    rw [IsBare, Option.isNone_iff_eq_none, Option.isNone_iff_eq_none])

/-- The names of receivers. -/
def receivers : List Text := ["self", "cls"].map String.toList

/-- Whether the parameter has the name of a receiver. -/
def IsReceiver (q : NamedParameter) : Prop := q.name ∈ receivers

instance (q : NamedParameter) : Decidable q.IsReceiver :=
  inferInstanceAs (Decidable (q.name ∈ receivers))

variable (q : NamedParameter)

theorem isWhole_text : IsWhole q.text := by
  have hstars : IsWhole (starText q.stars) := by
    cases hs : q.stars with
    | none => exact .nil
    | some s =>
      have hall : IsWhole ('*' :: List.replicate s.1 '*') := .of_quiet fun c hc => by
        obtain rfl : c = '*' := by
          rcases List.mem_cons.mp hc with rfl | hc
          · rfl
          · exact List.eq_of_mem_replicate hc
        decide
      exact hall.append (.of_isBlank (q.starsBlank s hs))
  have hannotation : IsWhole (annotationText q.annotation) := by
    cases ha : q.annotation with
    | none => exact .nil
    | some a =>
      exact (IsWhole.singleton (by decide) (by decide)).append
        (BalancedText.isWhole (q.annotationPlain a ha).1)
  have hdefault : IsWhole (defaultText q.default) := by
    cases hv : q.default with
    | none => exact .nil
    | some v =>
      exact (IsWhole.singleton (by decide) (by decide)).append
        (BalancedText.isWhole (q.defaultPlain v hv).1)
  have hname : IsWhole q.name := .of_inName (Unicode.inName_of_isIdentifier q.isName).2
  exact ((IsWhole.of_isBlank q.leadBlank).append ((hstars.append hname).append
    ((IsWhole.of_isBlank q.spaceBlank).append hannotation))).append hdefault

/-! ### Reading a parameter -/

theorem inName_of_mem {c : Char} (hc : c ∈ q.name) : Unicode.inName c = true :=
  (Unicode.inName_of_isIdentifier q.isName).2 c hc

theorem not_mem_shown {c : Char} (hmark : c ∈ Unicode.marks) (hstar : c ≠ '*') : c ∉ q.shown := by
  have hblank : Unicode.isBlank c = false := by
    have hall : (Unicode.marks.all fun d => !Unicode.isBlank d) = true := by decide
    simpa using List.all_eq_true.mp hall c hmark
  rw [shown, List.mem_append, not_or]
  refine ⟨?_, fun hc => Unicode.not_mem_marks_of_inName (q.inName_of_mem hc) hmark⟩
  cases hs : q.stars with
  | none => exact List.not_mem_nil
  | some s =>
    intro hc
    rcases List.mem_cons.mp hc with rfl | hc
    · exact hstar rfl
    · rcases List.mem_append.mp hc with hc | hc
      · exact hstar (List.eq_of_mem_replicate hc)
      · exact Text.not_mem_of_isBlank (q.starsBlank s hs) hblank hc

theorem shown_ne_nil : q.shown ≠ [] := by
  have hne := (Unicode.inName_of_isIdentifier q.isName).1
  rw [shown]
  simp [hne]

/-- The name with its stars starts with no blank. -/
theorem isBlank_of_head?_shown {c : Char} (hc : q.shown.head? = some c) :
    Unicode.isBlank c = false := by
  cases hs : q.stars with
  | none =>
    rw [shown, hs] at hc
    exact Unicode.isBlank_of_inName (q.inName_of_mem (List.mem_of_mem_head? hc))
  | some s =>
    rw [shown, hs] at hc
    obtain rfl : '*' = c := Option.some.inj hc
    decide

theorem trim_name : Text.trim q.name = q.name :=
  Text.trim_eq_self
    (fun _ hc => Unicode.isBlank_of_inName (q.inName_of_mem (List.mem_of_mem_head? hc)))
    (fun _ hc => Unicode.isBlank_of_inName (q.inName_of_mem (List.mem_of_getLast? hc)))

theorem trim_shown : Text.trim q.shown = q.shown := by
  have hne := (Unicode.inName_of_isIdentifier q.isName).1
  refine Text.trim_eq_self (fun c => q.isBlank_of_head?_shown) (fun c hc => ?_)
  obtain ⟨e, he⟩ := Option.isSome_iff_exists.mp (List.getLast?_isSome.mpr hne)
  rw [shown, List.getLast?_append, he, Option.some_or] at hc
  obtain rfl := Option.some.inj hc
  exact Unicode.isBlank_of_inName (q.inName_of_mem (List.mem_of_getLast? he))

/-- What stands before the default. -/
theorem takeWhile_text : q.text.takeWhile (· != '=') =
    q.lead ++ (q.shown ++ (q.space ++ annotationText q.annotation)) := by
  have hblank : ∀ {t : Text}, t.isBlank = true → '=' ∉ t := fun ht =>
    Text.not_mem_of_isBlank ht (by decide)
  have hannotation : '=' ∉ annotationText q.annotation := by
    cases ha : q.annotation with
    | none => exact List.not_mem_nil
    | some a =>
      rw [annotationText, List.mem_cons, not_or]
      exact ⟨by decide, (q.annotationPlain a ha).2⟩
  have hfront : ∀ c ∈ q.lead ++ (q.shown ++ (q.space ++ annotationText q.annotation)),
      (c != '=') = true := by
    intro c hc
    rw [bne_iff_ne]
    rintro rfl
    simp only [List.mem_append, hblank q.leadBlank, hblank q.spaceBlank, hannotation,
      q.not_mem_shown (by decide : '=' ∈ Unicode.marks) (by decide), or_self] at hc
  have hdefault : (defaultText q.default).takeWhile (· != '=') = [] := by
    cases q.default <;> rfl
  rw [text, List.takeWhile_append_of_pos hfront, hdefault, List.append_nil]

/-- What is read of a parameter: the name with its stars, and the type behind a colon. -/
theorem trim_takeWhile_text :
    Text.trim ((Text.trim q.text).takeWhile (· != '=')) = q.shown ++ q.shownType := by
  have hblank : ∀ c, Unicode.isBlank c = true → (c != '=') = true := fun c hc => by
    rw [bne_iff_ne]
    rintro rfl
    exact absurd hc (by decide)
  rw [Text.trim_takeWhile_trim hblank, q.takeWhile_text, Text.trim_append_left q.leadBlank,
    shownType]
  cases q.annotation with
  | none => rw [annotationText, List.append_nil, Text.trim_append_right _ q.spaceBlank, trim_shown,
      List.append_nil]
  | some a =>
    have hcolon : Unicode.isBlank ':' = false := by decide
    have hright : Text.isBlank (':' :: a.text) = false := by
      rw [Text.isBlank, List.all_cons, hcolon, Bool.false_and]
    have hall : Text.isBlank (q.space ++ ':' :: a.text) = false := by
      rw [Text.isBlank_append, hright, Bool.and_false]
    have hleft : Text.trimLeft (q.shown ++ (q.space ++ ':' :: a.text)) =
        q.shown ++ (q.space ++ ':' :: a.text) := by
      refine Text.trimLeft_eq_self fun c hc => q.isBlank_of_head?_shown ?_
      obtain ⟨e, he⟩ := Option.isSome_iff_exists.mp (List.isSome_head?.mpr q.shown_ne_nil)
      rw [List.head?_append, he, Option.some_or] at hc
      rw [he, hc]
    rw [annotationText, Text.trim, hleft, Text.trimRight_append _ hall,
      Text.trimRight_append _ hright, Text.trimRight_cons hcolon]

theorem contains_ofList_iff {words : List String} {t : Text} :
    words.contains (String.ofList t) = true ↔ t ∈ words.map String.toList := by
  rw [List.contains_iff_mem, List.mem_map]
  constructor
  · exact fun h => ⟨_, h, String.toList_ofList⟩
  · rintro ⟨m, hm, rfl⟩
    rwa [String.ofList_toList]

/-- Without the marks that the other words have, a text is passed over if it is one of the names. -/
theorem contains_markers_of_not_mem {t : Text} (hand : '&' ∉ t) (hdot : '.' ∉ t) :
    Parameters.markers.contains (String.ofList t) = decide (t ∈ passedOver) := by
  have hmarkers : Parameters.markers.map String.toList =
      passedOver ++ ["&self", "&mut self", "..."].map String.toList := by decide
  have hother : ∀ m ∈ ["&self", "&mut self", "..."].map String.toList, '&' ∈ m ∨ '.' ∈ m := by
    decide
  rw [Bool.eq_iff_iff, contains_ofList_iff, decide_eq_true_iff, hmarkers, List.mem_append]
  exact ⟨fun hin => hin.resolve_right fun hin => (hother t hin).elim hand hdot, .inl⟩

/-- A parameter is passed over if it is a name that is passed over and stands alone. -/
theorem contains_markers :
    Parameters.markers.contains (String.ofList (q.shown ++ q.shownType)) = decide q.IsBare := by
  rw [Bool.eq_iff_iff, contains_ofList_iff, decide_eq_true_iff, IsBare, shownType]
  cases ha : q.annotation with
  | some a =>
    have hcolon : ((Parameters.markers.map String.toList).all fun m => !m.contains ':') = true := by
      decide
    refine iff_of_false (fun hin => ?_) (fun hbare => Option.some_ne_none a hbare.2.1)
    have hnone := List.all_eq_true.mp hcolon _ hin
    simp at hnone
  | none =>
    rw [List.append_nil, shown]
    cases hs : q.stars with
    | some s =>
      have hstar : ((Parameters.markers.map String.toList).all fun m => m.head? != some '*') =
          true := by decide
      refine iff_of_false (fun hin => ?_) (fun hbare => Option.some_ne_none s hbare.1)
      have hnone := List.all_eq_true.mp hstar _ hin
      simp [starText] at hnone
    | none =>
      have hnot : ∀ {c : Char}, c ∈ Unicode.marks → c ∉ q.name := fun hc hmem =>
        Unicode.not_mem_marks_of_inName (q.inName_of_mem hmem) hc
      rw [starText, List.nil_append, ← contains_ofList_iff,
        contains_markers_of_not_mem (hnot (by decide)) (hnot (by decide)), decide_eq_true_iff]
      exact ⟨fun hin => ⟨rfl, rfl, hin⟩, fun hbare => hbare.2.2⟩

/-- The name with its stars stands before the colon, and the type behind it. -/
theorem takeWhile_colon :
    Text.trim ((q.shown ++ q.shownType).takeWhile (· != ':')) = q.shown ∧
      Text.trim (((q.shown ++ q.shownType).dropWhile (· != ':')).drop 1) = q.declared := by
  have hshown : ∀ c ∈ q.shown, (c != ':') = true := fun c hc => by
    rw [bne_iff_ne]
    rintro rfl
    exact q.not_mem_shown (by decide) (by decide) hc
  have hspace : ∀ c ∈ q.space, (c != ':') = true := fun c hc => by
    rw [bne_iff_ne]
    rintro rfl
    exact Text.not_mem_of_isBlank q.spaceBlank (by decide) hc
  rw [List.takeWhile_append_of_pos hshown, List.dropWhile_append_of_pos hshown, shownType, declared]
  cases q.annotation with
  | none =>
    rw [List.takeWhile_nil, List.append_nil, q.trim_shown]
    exact ⟨rfl, rfl⟩
  | some a =>
    dsimp only
    rw [List.takeWhile_append_of_pos hspace, List.dropWhile_append_of_pos hspace,
      List.takeWhile_cons_of_neg (by decide), List.dropWhile_cons_of_neg (by decide),
      List.append_nil, Text.trim_append_right _ q.spaceBlank, q.trim_shown]
    exact ⟨rfl, Text.trim_trimRight a.text⟩

end NamedParameter

namespace Parameters

theorem without_eq (part t : Text) : without part t = without.removeFrom part 0 t := by
  cases t <;> rfl

/-- Where a part does not start, a character is left as it is. -/
theorem without_cons {part t : Text} {c : Char} (h : part.isPrefixOf (c :: t) = false) :
    without part (c :: t) = c :: without part t := by
  rw [without_eq, without_eq, without.removeFrom, h, Bool.and_false, if_neg Bool.false_ne_true]

/-- A text without blanks holds no word with a blank behind it. -/
theorem without_of_not_mem {part t : Text} {c : Char} (hc : c ∈ part) (h : c ∉ t) :
    without part t = t := by
  induction t with
  | nil => rfl
  | cons d t ih =>
    have hprefix : part.isPrefixOf (d :: t) = false := by
      rw [Bool.eq_false_iff]
      exact fun hin => h ((List.isPrefixOf_iff_prefix.mp hin).subset hc)
    rw [without_cons hprefix, ih fun hmem => h (List.mem_cons_of_mem d hmem)]

/-- Where the first character of a part is missing, the part does not start. -/
theorem without_append {part gap t : Text} {a : Char} (hpart : part.head? = some a)
    (h : a ∉ gap) : without part (gap ++ t) = gap ++ without part t := by
  induction gap with
  | nil => rfl
  | cons b gap ih =>
    obtain ⟨hne, hrest⟩ := not_or.mp (mt List.mem_cons.mpr h)
    obtain ⟨part, rfl⟩ := List.head?_eq_some_iff.mp hpart
    have hprefix : (a :: part).isPrefixOf (b :: (gap ++ t)) = false := by
      rw [List.isPrefixOf_cons_cons, beq_eq_false_iff_ne.mpr hne, Bool.false_and]
    rw [List.cons_append, without_cons hprefix, ih hrest, List.cons_append]

end Parameters

namespace NamedParameter
variable (q : NamedParameter)

/-- Behind the stars are blanks and the name. -/
theorem dropWhile_shown : ∃ gap : Text, gap.isBlank = true ∧
    (q.shown.dropWhile fun c => c == '*' || c == '.') = gap ++ q.name := by
  have hblank : ∀ {c : Char}, Unicode.isBlank c = true → (c == '*' || c == '.') = false := by
    intro c hc
    rw [Bool.or_eq_false_iff, beq_eq_false_iff_ne, beq_eq_false_iff_ne]
    constructor <;> rintro rfl <;> exact absurd hc (by decide)
  have hname : ∀ {c : Char}, Unicode.inName c = true → (c == '*' || c == '.') = false := by
    intro c hc
    have hnot := Unicode.not_mem_marks_of_inName hc
    rw [Bool.or_eq_false_iff, beq_eq_false_iff_ne, beq_eq_false_iff_ne]
    constructor <;> rintro rfl <;> exact hnot (by decide)
  -- neither a blank nor the name goes on with a star
  have hstop : ∀ {gap : Text}, gap.isBlank = true →
      ((gap ++ q.name).dropWhile fun c => c == '*' || c == '.') = gap ++ q.name := by
    intro gap hgap
    obtain ⟨e, rest, hqname⟩ :=
      List.exists_cons_of_ne_nil (Unicode.inName_of_isIdentifier q.isName).1
    cases gap with
    | nil =>
      have he := hname (q.inName_of_mem (hqname ▸ List.mem_cons_self))
      rw [List.nil_append, hqname]
      exact List.dropWhile_cons_of_neg (by rw [he]; decide)
    | cons b gap =>
      exact List.dropWhile_cons_of_neg
        (by rw [hblank (Bool.and_eq_true_iff.mp hgap).1]; decide)
  rw [shown]
  cases hs : q.stars with
  | none => exact ⟨[], rfl, @hstop [] rfl⟩
  | some s =>
    refine ⟨s.2, q.starsBlank s hs, ?_⟩
    have hall : ∀ c ∈ '*' :: List.replicate s.1 '*', (c == '*' || c == '.') = true := by
      intro c hc
      obtain rfl : c = '*' := by
        rcases List.mem_cons.mp hc with rfl | hc
        · rfl
        · exact List.eq_of_mem_replicate hc
      decide
    have hcut : starText (some s) ++ q.name =
        ('*' :: List.replicate s.1 '*') ++ (s.2 ++ q.name) := by
      rw [starText, List.cons_append, List.append_assoc, List.cons_append]
    rw [hcut, List.dropWhile_append_of_pos hall, hstop (q.starsBlank s hs)]

/-- Without its stars the name is left. -/
theorem trim_without_shown :
    Text.trim (Parameters.without "mut ".toList
      (q.shown.dropWhile fun c => c == '*' || c == '.')) = q.name := by
  obtain ⟨gap, hgap, hshown⟩ := q.dropWhile_shown
  have hname : Parameters.without "mut ".toList q.name = q.name := by
    refine Parameters.without_of_not_mem (c := ' ') (by decide) fun hmem => ?_
    exact absurd (Unicode.isBlank_of_inName (q.inName_of_mem hmem)) (by decide)
  rw [hshown, Parameters.without_append rfl (Text.not_mem_of_isBlank hgap (by decide)), hname,
    Text.trim_append_left hgap, q.trim_name]

/-- A parameter is read as its name and the text of its type, unless it is passed over. -/
theorem parse_text : Parameters.parse "python" (Text.trim q.text) =
    if q.IsBare then none else some (q.name, q.declared) := by
  have hne : (q.shown ++ q.shownType).isEmpty = false := by
    rw [List.isEmpty_eq_false_iff]
    exact List.append_ne_nil_of_left_ne_nil q.shown_ne_nil _
  have hpython : Parameters.colonLanguages.contains "python" = true := by decide
  obtain ⟨hname, hdeclared⟩ := q.takeWhile_colon
  rw [Parameters.parse, q.trim_takeWhile_text, hne, Bool.false_or, q.contains_markers, hpython,
    Parameters.ofColon, hname, hdeclared, q.trim_without_shown]
  by_cases hbare : q.IsBare <;> simp [hbare]

end NamedParameter

end SourceAudit
