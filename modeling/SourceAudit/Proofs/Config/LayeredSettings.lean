import SourceAudit.Config.Settings
import SourceAudit.Proofs.Document.KeyedTables

/-!
  Settings laid over one another.

  What is proved:
    1. `find?_merge` — under a name stands what the upper settings give, laid over what
       the lower ones give; both are tables of a nested section where they are joined.
    2. `given?_merge` — so a value that the upper settings give is the one that is there,
       also within a nested section, and any other stays as it was.
    3. `given?_layers` — of several settings the last to give a value decides.
-/
namespace SourceAudit

namespace Value

theorem find?_append (entries others : List (String × Value)) (name : String) :
    find? (entries ++ others) name = (find? entries name).or (find? others name) := by
  induction entries with
  | nil => rfl
  | cons e rest ih =>
    rw [List.cons_append, find?, find?, ih]
    split <;> rfl

theorem find?_eq_none_iff {entries : List (String × Value)} {name : String} :
    find? entries name = none ↔ name ∉ entries.map (·.1) := by
  induction entries with
  | nil => simp [find?]
  | cons e rest ih =>
    rw [find?, List.map_cons, List.mem_cons, not_or]
    by_cases hname : e.1 = name
    · simp [hname]
    · simp [hname, ih, Ne.symm hname]

/-- Leaving out entries under other names changes nothing under a name. -/
theorem find?_filter {entries : List (String × Value)} {name : String} (keep : String → Bool)
    (h : keep name = true) : find? (entries.filter fun e => keep e.1) name = find? entries name := by
  induction entries with
  | nil => rfl
  | cons e rest ih =>
    rw [List.filter_cons]
    by_cases hname : e.1 = name
    · rw [if_pos (by rwa [hname]), find?, find?, ih]
    · split
      · rw [find?, find?, ih]
      · rw [ih, find?, if_neg (by simpa using hname)]

end Value

namespace Settings

variable {s target source : Settings} {part name : String}

/-- Whether settings have every name once, and their nested sections are tables that have every
name once, where they are given. -/
structure IsSectioned (s : Settings) : Prop where
  names : (s.map (·.1)).Nodup
  parts : ∀ part ∈ nested, ∀ v, Value.find? s part = some v →
    ∃ es, v = .table es ∧ (es.map (·.1)).Nodup

/-- The value that settings give for a name, in a nested section or outside of all. -/
def given? (s : Settings) (part : Option String) (name : String) : Option Value :=
  match part with
  | none => Value.find? s name
  | some part => (Value.find? s part).bind fun v => v.get? name

/-! ## Settings laid over others -/

theorem find?_enterAll (hsource : (source.map (·.1)).Nodup) (target : Settings) (name : String) :
    Value.find? (enterAll target source) name =
      (Value.find? source name).or (Value.find? target name) := by
  induction source generalizing target with
  | nil => rfl
  | cons e rest ih =>
    rw [List.map_cons, List.nodup_cons] at hsource
    change Value.find? (enterAll (Value.enter target e.1 e.2) rest) name = _
    rw [ih hsource.2, Value.find?_enter, Value.find?]
    by_cases hname : e.1 = name
    · subst hname
      simp [Value.find?_eq_none_iff.mpr hsource.1]
    · simp [hname]

theorem nodup_enterAll (htarget : (target.map (·.1)).Nodup) (source : Settings) :
    ((enterAll target source).map (·.1)).Nodup := by
  induction source generalizing target with
  | nil => exact htarget
  | cons e rest ih => exact ih (Value.nodup_enter e.2 htarget)

/-- The value that stands under a name once another one is laid over what is there. -/
def laid (name : String) (under : Option Value) (above : Value) : Value :=
  match above, under with
  | .table above, some (.table under) =>
    if nested.contains name then .table (enterAll under above) else .table above
  | above, _ => above

theorem find?_lay (target : Settings) (name other : String) (v : Value) :
    Value.find? (lay target name v) other =
      if name = other then some (laid name (Value.find? target name) v)
      else Value.find? target other := by
  unfold lay laid
  cases v with
  | table above =>
    cases Value.find? target name with
    | none => exact Value.find?_enter ..
    | some under =>
      cases under with
      | table under =>
        dsimp only
        split <;> exact Value.find?_enter ..
      | _ => exact Value.find?_enter ..
  | _ => exact Value.find?_enter ..

theorem nodup_lay (htarget : (target.map (·.1)).Nodup) (name : String) (v : Value) :
    ((lay target name v).map (·.1)).Nodup := by
  unfold lay
  split
  · split <;> exact Value.nodup_enter _ htarget
  · exact Value.nodup_enter _ htarget

/-- Under each name, what the upper settings give is laid over what the lower ones give. -/
theorem find?_merge (hsource : (source.map (·.1)).Nodup) (target : Settings) (name : String) :
    Value.find? (merge target source) name =
      ((Value.find? source name).map (laid name (Value.find? target name))).or
        (Value.find? target name) := by
  induction source generalizing target with
  | nil => rfl
  | cons e rest ih =>
    rw [List.map_cons, List.nodup_cons] at hsource
    change Value.find? (merge (lay target e.1 e.2) rest) name = _
    rw [ih hsource.2, find?_lay, Value.find?]
    by_cases hname : e.1 = name
    · subst hname
      simp [Value.find?_eq_none_iff.mpr hsource.1]
    · simp [hname]

theorem nodup_merge (htarget : (target.map (·.1)).Nodup) (source : Settings) :
    ((merge target source).map (·.1)).Nodup := by
  induction source generalizing target with
  | nil => exact htarget
  | cons e rest ih => exact ih (nodup_lay htarget e.1 e.2)

/-! ## Settings of several sources -/

/-- Where a setting stands: in a nested section, or outside of all under a name that no section
has. -/
def IsPlace (part : Option String) (name : String) : Prop :=
  match part with
  | none => name ∉ nested
  | some part => part ∈ nested

theorem laid_of_notMem (h : name ∉ nested) (under : Option Value) (above : Value) :
    laid name under above = above := by
  unfold laid
  split
  · rw [if_neg (by simpa using h)]
  · rfl

theorem laid_table (h : part ∈ nested) (above under : List (String × Value)) :
    laid part (some (.table under)) (.table above) = .table (enterAll under above) :=
  if_pos (by simpa using h)

theorem isSectioned_nil : IsSectioned [] := ⟨.nil, nofun⟩

theorem IsSectioned.merge (htarget : target.IsSectioned) (hsource : source.IsSectioned) :
    (Settings.merge target source).IsSectioned := by
  refine ⟨nodup_merge htarget.names source, fun part hpart v hv => ?_⟩
  rw [find?_merge hsource.names] at hv
  cases habove : Value.find? source part with
  | none =>
    rw [habove] at hv
    exact htarget.parts part hpart v hv
  | some above =>
    rw [habove] at hv
    obtain rfl := Option.some.inj hv
    obtain ⟨above, rfl, hkeys⟩ := hsource.parts part hpart _ habove
    cases hunder : Value.find? target part with
    | none => exact ⟨above, rfl, hkeys⟩
    | some under =>
      obtain ⟨under, rfl, hunderkeys⟩ := htarget.parts part hpart _ hunder
      exact ⟨_, laid_table hpart above under, nodup_enterAll hunderkeys above⟩

/-- Of settings laid over others, those on top give a value where they have one, also within the
sections. -/
theorem given?_merge {place : Option String} (htarget : target.IsSectioned)
    (hsource : source.IsSectioned) (hplace : IsPlace place name) :
    given? (merge target source) place name =
      (given? source place name).or (given? target place name) := by
  cases place with
  | none =>
    have hplain : laid name (Value.find? target name) = id :=
      funext (laid_of_notMem hplace _)
    unfold given?
    rw [find?_merge hsource.names, hplain, Option.map_id]
    rfl
  | some part =>
    unfold given?
    dsimp only
    rw [find?_merge hsource.names]
    cases habove : Value.find? source part with
    | none => rfl
    | some above =>
      obtain ⟨above, rfl, hkeys⟩ := hsource.parts part hplace _ habove
      cases hunder : Value.find? target part with
      | none => exact (Option.or_none).symm
      | some under =>
        obtain ⟨under, rfl, -⟩ := htarget.parts part hplace _ hunder
        rw [Option.map_some, Option.some_or, laid_table hplace]
        exact find?_enterAll hkeys under name

/-- What a table of the upper settings gives stands, whatever is below: another table, which it
joins, or a value that is none, which it replaces. -/
theorem given?_merge_of_table {above : List (String × Value)} {v : Value}
    (hsource : (source.map (·.1)).Nodup) (hpart : part ∈ nested)
    (htable : Value.find? source part = some (.table above)) (habove : (above.map (·.1)).Nodup)
    (hname : Value.find? above name = some v) (target : Settings) :
    given? (merge target source) (some part) name = some v := by
  have hlaid (under : Option Value) : (laid part under (.table above)).get? name = some v := by
    cases under with
    | none => exact hname
    | some under =>
      cases under with
      | table under =>
        rw [laid_table hpart]
        change Value.find? (enterAll under above) name = some v
        rw [find?_enterAll habove, hname, Option.some_or]
      | _ => exact hname
  rw [given?, find?_merge hsource, htable]
  exact hlaid _

/-- Of several settings laid over one another, the last to give a value decides. -/
theorem given?_layers {layers : List Settings} {place : Option String}
    (htarget : target.IsSectioned) (h : ∀ s ∈ layers, s.IsSectioned)
    (hplace : IsPlace place name) :
    given? (layers.foldl merge target) place name =
      (layers.reverse.findSome? fun s => given? s place name).or (given? target place name) := by
  induction layers generalizing target with
  | nil => rfl
  | cons s rest ih =>
    rw [List.forall_mem_cons] at h
    rw [List.foldl_cons, ih (htarget.merge h.1) h.2, given?_merge htarget h.1 hplace,
      List.reverse_cons, List.findSome?_append, Option.or_assoc]
    rw [List.findSome?_singleton]

end Settings

end SourceAudit
