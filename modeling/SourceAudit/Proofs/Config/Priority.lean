import SourceAudit.Proofs.Config.LayeredSettings
import SourceAudit.Proofs.Config.ToldSettings
import SourceAudit.Proofs.Document.TomlTables

/-!
  Which source of a configuration decides about a setting.

  What is proved:
    1. `find?_ofFields`, `given?_settings` — what environment variables give for a setting
       is what the text of its own variable reads as.
    2. `given?_ofCaller` — a caller gives what it sets, and a loudness by its flags.
    3. `given?_layered` — the settings of all sources together give what the highest
       source that sets anything gives.
    4. `load_by_priority` — so every setting of a loaded configuration is the one of the
       highest source that sets it, or the usual one; but the exempt numbers are kept as
       the items of what was given for them.
-/
namespace SourceAudit

namespace Value

/-- Whether a value is a table. -/
def IsTable : Value → Prop
  | .table _ => True
  | _ => False

instance : DecidablePred IsTable
  | .table _ => .isTrue trivial
  | .null | .flag _ | .whole _ | .real _ | .text _ | .moment _ _ | .list _ => .isFalse id

theorem IsTable.exists {v : Value} (h : v.IsTable) : ∃ es, v = .table es := by
  cases v <;> first | exact ⟨_, rfl⟩ | exact h.elim

end Value

/-! ## Files -/

namespace ConfigFile

/-- The value that a file gives for a setting. -/
def given? (f : ConfigFile) (part : Option String) (name : String) : Option Value :=
  (f.text.bind Toml.read?).bind fun s => Settings.given? s part name

theorem read_of_settings {f : ConfigFile} {s : Settings} (h : f.settings = .ok s) :
    f.text.bind Toml.read? = some s := by
  unfold settings at h
  split at h
  · next hread => rw [hread, Except.ok.inj h]
  · cases h

theorem given?_of_settings {f : ConfigFile} {s : Settings} (h : f.settings = .ok s) :
    f.given? = s.given? := by
  unfold given?
  rw [read_of_settings h]
  rfl

/-- Whether the nested sections of a file are tables where it gives them. -/
def HasSections (f : ConfigFile) : Prop :=
  ∀ part ∈ Settings.nested, ∀ v, f.given? none part = some v → v.IsTable

instance (f : ConfigFile) : Decidable f.HasSections :=
  decidable_of_iff (∀ part ∈ Settings.nested, ∀ v ∈ f.given? none part, v.IsTable) Iff.rfl

theorem isSectioned_settings {f : ConfigFile} {s : Settings} (h : f.settings = .ok s)
    (hsections : f.HasSections) : s.IsSectioned := by
  obtain ⟨t, -, hread⟩ := Option.bind_eq_some_iff.mp (read_of_settings h)
  have hkeyed := Toml.isKeyed_read hread
  refine ⟨hkeyed.nodup, fun part hpart v hv => ?_⟩
  obtain ⟨es, rfl⟩ := (hsections part hpart v (by rw [given?_of_settings h]; exact hv)).exists
  exact ⟨es, rfl, (hkeyed.find? hv).nodup⟩

theorem settings_of_mapM {files : List ConfigFile} {found : List Settings}
    (h : files.mapM ConfigFile.settings = .ok found) :
    List.Forall₂ (fun f s => f.settings = .ok s) files found := by
  induction files generalizing found with
  | nil =>
    obtain rfl := Except.ok.inj h
    exact .nil
  | cons f rest ih =>
    rw [List.mapM_cons] at h
    obtain ⟨s, hs, h⟩ := exists_of_bind_eq_ok h
    obtain ⟨ss, hss, h⟩ := exists_of_bind_eq_ok h
    obtain rfl := Except.ok.inj h
    exact .cons hs (ih hss)

theorem isSectioned_found {files : List ConfigFile} {found : List Settings}
    (h : files.mapM ConfigFile.settings = .ok found) (hsections : ∀ f ∈ files, f.HasSections) :
    ∀ s ∈ found, s.IsSectioned := by
  have hall := settings_of_mapM h
  clear h
  induction hall with
  | nil => exact nofun
  | cons hs _ ih =>
    rw [List.forall_mem_cons] at hsections
    exact List.forall_mem_cons.mpr ⟨isSectioned_settings hs hsections.1, ih hsections.2⟩

/-- Of files, the last to give a value is the last of their settings to give one. -/
theorem findSome?_settings {files : List ConfigFile} {found : List Settings}
    (h : files.mapM ConfigFile.settings = .ok found) (place : Option String) (name : String) :
    (found.reverse.findSome? fun s => s.given? place name) =
      files.reverse.findSome? fun f => f.given? place name := by
  have hall := settings_of_mapM h
  clear h
  induction hall with
  | nil => rfl
  | cons hs _ ih =>
    rw [List.reverse_cons, List.reverse_cons, List.findSome?_append, List.findSome?_append, ih,
      List.findSome?_singleton, List.findSome?_singleton, given?_of_settings hs]

end ConfigFile

/-! ## Environment variables -/

namespace Environment

variable {env : List (String × String)} {start : String}

/-- What the names of the variables of a section begin with. -/
def leadOf (place : Option String) : String :=
  match place with
  | none => lead
  | some part => lead ++ capitals part ++ "_"

/-- The value that the variable of a setting gives for it. -/
def given? (env : List (String × String)) (start : String) (f : Setting) : Option Value :=
  (env.lookup (start ++ capitals f.name)).bind fun s => (read f.form s).toOption

theorem names_ofFields {fields : List Setting} {found : Settings}
    (h : ofFields env start fields = .ok found) :
    (found.map (·.1)).Sublist (fields.map (·.name)) := by
  induction fields generalizing found with
  | nil =>
    obtain rfl := Except.ok.inj h
    exact .slnil
  | cons f rest ih =>
    unfold ofFields at h
    dsimp only at h
    split at h
    · exact (ih h).cons _
    · split at h
      · cases h
      · cases hrest : ofFields env start rest with
        | error e => rw [hrest] at h; cases h
        | ok others =>
          rw [hrest] at h
          obtain rfl := Except.ok.inj h
          exact (ih hrest).cons_cons _

theorem find?_ofFields {fields : List Setting} {found : Settings}
    (h : ofFields env start fields = .ok found) (hnames : (fields.map (·.name)).Nodup)
    {f : Setting} (hf : f ∈ fields) : Value.find? found f.name = given? env start f := by
  induction fields generalizing found with
  | nil => cases hf
  | cons g rest ih =>
    rw [List.map_cons, List.nodup_cons] at hnames
    have hother {others : Settings} (hothers : ofFields env start rest = .ok others) :
        Value.find? others g.name = none :=
      Value.find?_eq_none_iff.mpr fun hmem => hnames.1 ((names_ofFields hothers).subset hmem)
    have hname (hfrest : f ∈ rest) : g.name ≠ f.name := fun heq =>
      hnames.1 (heq ▸ List.mem_map_of_mem hfrest)
    unfold ofFields at h
    dsimp only at h
    split at h
    · next hunset =>
      rcases List.mem_cons.mp hf with rfl | hfrest
      · rw [hother h, given?, hunset, Option.bind_none]
      · exact ih h hnames.2 hfrest
    · next s hset =>
      split at h
      · cases h
      · next v hread =>
        cases hrest : ofFields env start rest with
        | error e => rw [hrest] at h; cases h
        | ok others =>
          rw [hrest] at h
          obtain rfl := Except.ok.inj h
          rcases List.mem_cons.mp hf with rfl | hfrest
          · rw [given?, hset, Option.bind_some, hread, Value.find?, if_pos (beq_self_eq_true _)]
            rfl
          · rw [Value.find?, if_neg (by simpa using hname hfrest)]
            exact ih hrest hnames.2 hfrest

/-- A nested section of settings that were found, if any were. -/
def sectionOf (name : String) (found : Settings) : Settings :=
  if found.isEmpty then [] else [(name, .table found)]

theorem ofSection_eq_ok {name : String} {sec : Section} {s : Settings}
    (h : ofSection env name sec = .ok s) :
    ∃ found, ofFields env (leadOf (some name)) sec.fields = .ok found ∧
      s = sectionOf name found := by
  obtain ⟨found, hfound, h⟩ := exists_of_bind_eq_ok h
  exact ⟨found, hfound, (Except.ok.inj h).symm⟩

theorem names_sectionOf (name : String) (found : Settings) :
    ((sectionOf name found).map (·.1)).Sublist [name] := by
  unfold sectionOf
  split
  · exact List.nil_sublist _
  · exact List.Sublist.refl _

theorem mem_sectionOf {name : String} {found : Settings} {e : String × Value}
    (h : e ∈ sectionOf name found) : e = (name, .table found) := by
  unfold sectionOf at h
  split at h
  · cases h
  · exact List.mem_singleton.mp h

theorem find?_sectionOf_of_ne {name other : String} (h : name ≠ other) (found : Settings) :
    Value.find? (sectionOf name found) other = none :=
  Value.find?_eq_none_iff.mpr fun hmem =>
    h (List.mem_singleton.mp ((names_sectionOf name found).subset hmem)).symm

theorem get?_sectionOf (part : String) (found : Settings) (name : String) :
    ((Value.find? (sectionOf part found) part).bind fun v => v.get? name) =
      Value.find? found name := by
  unfold sectionOf
  cases found with
  | nil => rfl
  | cons e rest =>
    rw [List.isEmpty_cons, if_neg Bool.false_ne_true, Value.find?, if_pos (beq_self_eq_true _)]
    rfl

end Environment

/-! ## Sections and their places -/

/-- The sections of a configuration with the places where their settings are given. -/
def Section.places : List (Option String × Section) :=
  [(none, .general), (some "thresholds", .thresholds), (some "gateway", .gateway)]

namespace Section

variable {place : Option String} {sec : Section} {f : Setting}

theorem nodup_names (h : (place, sec) ∈ places) : (sec.fields.map (·.name)).Nodup := by
  have hall : ∀ p ∈ places, (p.2.fields.map (·.name)).Nodup := by decide
  exact hall _ h

theorem isPlace (h : (place, sec) ∈ places) (hf : f ∈ sec.fields) :
    Settings.IsPlace place f.name := by
  simp only [places, List.mem_cons, Prod.mk.injEq, List.not_mem_nil, or_false] at h
  rcases h with ⟨rfl, rfl⟩ | ⟨rfl, rfl⟩ | ⟨rfl, rfl⟩
  · have hall : ∀ f ∈ Section.general.fields, f.name ∉ Settings.nested := by decide
    exact hall f hf
  · exact List.mem_cons_self
  · exact List.mem_cons_of_mem _ List.mem_cons_self

end Section

namespace Environment

variable {env : List (String × String)} {s : Settings}

/-- The settings of variables by section: each section holds what its own variables give. -/
theorem exists_of_settings (h : settings env = .ok s) :
    ∃ top thresholds gateway,
      ofFields env (leadOf none) Section.general.fields = .ok top ∧
      ofFields env (leadOf (some "thresholds")) Section.thresholds.fields = .ok thresholds ∧
      ofFields env (leadOf (some "gateway")) Section.gateway.fields = .ok gateway ∧
      s = top ++ sectionOf "thresholds" thresholds ++ sectionOf "gateway" gateway := by
  obtain ⟨top, htop, h⟩ := exists_of_bind_eq_ok h
  obtain ⟨thresholds, hthresholds, h⟩ := exists_of_bind_eq_ok h
  obtain ⟨gateway, hgateway, h⟩ := exists_of_bind_eq_ok h
  obtain ⟨inThresholds, hinThresholds, rfl⟩ := ofSection_eq_ok hthresholds
  obtain ⟨inGateway, hinGateway, rfl⟩ := ofSection_eq_ok hgateway
  exact ⟨top, inThresholds, inGateway, htop, hinThresholds, hinGateway, (Except.ok.inj h).symm⟩

theorem isSectioned_settings (h : settings env = .ok s) : s.IsSectioned := by
  obtain ⟨top, thresholds, gateway, htop, hthresholds, hgateway, rfl⟩ := exists_of_settings h
  have hnames : ((top ++ sectionOf "thresholds" thresholds ++
      sectionOf "gateway" gateway).map (·.1)).Nodup := by
    have hsublist := ((names_ofFields htop).append (names_sectionOf "thresholds" thresholds)).append
      (names_sectionOf "gateway" gateway)
    have hall : (Section.general.fields.map (·.name) ++ ["thresholds"] ++ ["gateway"]).Nodup := by
      decide
    rw [List.map_append, List.map_append]
    exact hall.sublist hsublist
  refine ⟨hnames, fun part hpart v hv => ?_⟩
  rcases List.mem_append.mp (Value.mem_of_find? hv) with hmem | hmem
  · rcases List.mem_append.mp hmem with hmem | hmem
    · have hname := (names_ofFields htop).subset (List.mem_map_of_mem hmem)
      have hall : ∀ part ∈ Settings.nested, part ∉ Section.general.fields.map (·.name) := by decide
      exact absurd hname (hall part hpart)
    · obtain ⟨-, rfl⟩ := Prod.mk.inj (mem_sectionOf hmem)
      exact ⟨thresholds, rfl, .sublist (names_ofFields hthresholds) (by decide)⟩
  · obtain ⟨-, rfl⟩ := Prod.mk.inj (mem_sectionOf hmem)
    exact ⟨gateway, rfl, .sublist (names_ofFields hgateway) (by decide)⟩

/-- What variables give for a setting is what the text of its own variable reads as. -/
theorem given?_settings (h : settings env = .ok s) {place : Option String} {sec : Section}
    (hsec : (place, sec) ∈ Section.places) {f : Setting} (hf : f ∈ sec.fields) :
    s.given? place f.name = given? env (leadOf place) f := by
  obtain ⟨top, thresholds, gateway, htop, hthresholds, hgateway, rfl⟩ := exists_of_settings h
  have hnodup := Section.nodup_names hsec
  have hplace := Section.isPlace hsec hf
  simp only [Section.places, List.mem_cons, Prod.mk.injEq, List.not_mem_nil, or_false] at hsec
  have hnested {part : String} (hpart : part ∈ Settings.nested) : Value.find? top part = none := by
    have hall : ∀ part ∈ Settings.nested, part ∉ Section.general.fields.map (·.name) := by decide
    exact Value.find?_eq_none_iff.mpr fun hmem =>
      hall part hpart ((names_ofFields htop).subset hmem)
  have hne : "gateway" ≠ "thresholds" := by decide
  rcases hsec with ⟨rfl, rfl⟩ | ⟨rfl, rfl⟩ | ⟨rfl, rfl⟩
  · have hother {part : String} (hpart : part ∈ Settings.nested) : part ≠ f.name :=
      fun heq => hplace (heq ▸ hpart)
    rw [Settings.given?, Value.find?_append, Value.find?_append,
      find?_sectionOf_of_ne (hother (by decide)), find?_sectionOf_of_ne (hother (by decide)),
      Option.or_none, Option.or_none]
    exact find?_ofFields htop hnodup hf
  · rw [Settings.given?, Value.find?_append, Value.find?_append, hnested hplace,
      find?_sectionOf_of_ne hne, Option.none_or, Option.or_none, get?_sectionOf]
    exact find?_ofFields hthresholds hnodup hf
  · rw [Settings.given?, Value.find?_append, Value.find?_append, hnested hplace,
      find?_sectionOf_of_ne hne.symm, Option.none_or, Option.none_or, get?_sectionOf]
    exact find?_ofFields hgateway hnodup hf

end Environment

/-! ## Callers -/

namespace Settings

variable {s : Settings}

/-- The loudness that the flags of a caller set, if either is set. -/
def loudness? (s : Settings) : Option Value :=
  if (s.valueOf "quiet").isSet then some (.text "quiet")
  else if (s.valueOf "verbose").isSet then some (.text "verbose")
  else none

/-- The value that a caller gives for a setting. Its flags for loudness count for the setting. -/
def called? (s : Settings) (place : Option String) (name : String) : Option Value :=
  if place = none ∧ name = "verbosity" then s.loudness?.or (s.given? place name)
  else s.given? place name

theorem find?_withLoudness {name other : String} (loudness : String) (hother : other ≠ name) :
    Value.find? (withLoudness name loudness s) other =
      if other = "verbosity" ∧ (s.valueOf name).isSet then some (.text loudness)
      else Value.find? s other := by
  have hkeep : (other != name) = true := bne_iff_ne.mpr hother
  unfold withLoudness valueOf
  cases hfind : Value.find? s name with
  | none => rw [if_neg fun h => Bool.false_ne_true h.2]
  | some v =>
    dsimp only [Option.getD_some]
    rw [Value.find?_filter (fun n => n != name) hkeep]
    by_cases hset : v.isSet = true
    · rw [if_pos hset, Value.find?_enter]
      simp [hset, eq_comm]
    · rw [if_neg hset, if_neg fun h => hset h.2]

theorem nodup_withLoudness (h : (s.map (·.1)).Nodup) (name loudness : String) :
    ((withLoudness name loudness s).map (·.1)).Nodup := by
  unfold withLoudness
  split
  · exact h
  · refine .sublist (List.filter_sublist.map _) ?_
    split
    · exact Value.nodup_enter _ h
    · exact h

theorem find?_ofCaller {name : String} (hquiet : name ≠ "quiet") (hverbose : name ≠ "verbose") :
    Value.find? s.ofCaller name =
      if name = "verbosity" then s.loudness?.or (Value.find? s name) else Value.find? s name := by
  have hflag : (withLoudness "verbose" "verbose" s).valueOf "quiet" = s.valueOf "quiet" := by
    rw [valueOf, find?_withLoudness _ (by decide), if_neg (by simp)]
    rfl
  rw [ofCaller, find?_withLoudness _ hquiet, find?_withLoudness _ hverbose,
    hflag]
  by_cases hname : name = "verbosity"
  · subst hname
    unfold loudness?
    cases (s.valueOf "quiet").isSet <;> cases (s.valueOf "verbose").isSet <;> rfl
  · simp [hname]

theorem IsSectioned.ofCaller (h : s.IsSectioned) : s.ofCaller.IsSectioned := by
  refine ⟨nodup_withLoudness (nodup_withLoudness h.names _ _) _ _, fun part hpart v hv => ?_⟩
  have hne : ∀ part ∈ nested, part ≠ "quiet" ∧ part ≠ "verbose" ∧ part ≠ "verbosity" := by decide
  obtain ⟨hquiet, hverbose, hverbosity⟩ := hne part hpart
  rw [find?_ofCaller hquiet hverbose, if_neg hverbosity] at hv
  exact h.parts part hpart v hv

/-- A caller gives what it sets, and a loudness by its flags. -/
theorem given?_ofCaller {place : Option String} {sec : Section}
    (hsec : (place, sec) ∈ Section.places) {f : Setting} (hf : f ∈ sec.fields) :
    s.ofCaller.given? place f.name = s.called? place f.name := by
  have hplace := Section.isPlace hsec hf
  cases place with
  | none =>
    simp only [Section.places, List.mem_cons, Prod.mk.injEq, true_and, reduceCtorEq, false_and,
      List.not_mem_nil, or_false] at hsec
    subst hsec
    have hall : ∀ f ∈ Section.general.fields, f.name ≠ "quiet" ∧ f.name ≠ "verbose" := by decide
    obtain ⟨hquiet, hverbose⟩ := hall f hf
    rw [given?, find?_ofCaller hquiet hverbose]
    simp [called?, given?]
  | some part =>
    have hne : ∀ part ∈ nested, part ≠ "quiet" ∧ part ≠ "verbose" ∧ part ≠ "verbosity" := by decide
    obtain ⟨hquiet, hverbose, hverbosity⟩ := hne part hplace
    rw [given?, find?_ofCaller hquiet hverbose, if_neg hverbosity]
    simp [called?, given?]

end Settings

/-! ## Loading -/

namespace ConfigSources

/-- The file that was asked for, if it exists. -/
def requestedFile (s : ConfigSources) : Option ConfigFile := s.requested.bind (·.2)

/-- The value that the highest source gives that sets a setting: the caller before environment
variables, these before the file asked for, and that before the other files, of which the last
comes first. -/
def given? (s : ConfigSources) (place : Option String) (f : Setting) : Option Value :=
  (s.overrides.called? place f.name).or <|
    (Environment.given? s.environment (Environment.leadOf place) f).or <|
      (s.requestedFile.bind fun file => file.given? place f.name).or <|
        s.files.reverse.findSome? fun file => file.given? place f.name

/-- Whether nested sections are given as tables by the caller and by every file. -/
structure HasSections (s : ConfigSources) : Prop where
  files : ∀ f ∈ s.files, f.HasSections
  requested : ∀ f, s.requestedFile = some f → f.HasSections
  overrides : s.overrides.IsSectioned

end ConfigSources

namespace Config

variable {s : ConfigSources} {merged : Settings} {c : Config}

/-- The layers of settings from the lowest to the highest. -/
theorem exists_of_layered (h : layered s = .ok merged) :
    ∃ (found : List Settings) (requested environment : Settings),
      s.files.mapM ConfigFile.settings = .ok found ∧
      (s.requestedFile = none ∧ requested = [] ∨
        ∃ f, s.requestedFile = some f ∧ f.settings = .ok requested) ∧
      Environment.settings s.environment = .ok environment ∧
      merged = (found ++ [requested, environment, s.overrides.ofCaller]).foldl Settings.merge [] := by
  obtain ⟨found, hfound, h⟩ := exists_of_bind_eq_ok h
  unfold ConfigSources.requestedFile
  dsimp only at h
  split at h
  · next hnone =>
    obtain ⟨_, hnothing, h⟩ := exists_of_bind_eq_ok h
    obtain rfl := Except.ok.inj hnothing
    obtain ⟨environment, henvironment, h⟩ := exists_of_bind_eq_ok h
    rw [hnone]
    exact ⟨found, [], environment, hfound, .inl ⟨rfl, rfl⟩, henvironment,
      (Except.ok.inj h).symm⟩
  · cases h
  · next f hsome =>
    obtain ⟨requested, hrequested, h⟩ := exists_of_bind_eq_ok h
    obtain ⟨environment, henvironment, h⟩ := exists_of_bind_eq_ok h
    rw [hsome]
    exact ⟨found, requested, environment, hfound, .inr ⟨f, rfl, hrequested⟩, henvironment,
      (Except.ok.inj h).symm⟩

/-- The settings of all sources together give what the highest source gives that sets anything. -/
theorem given?_layered (h : layered s = .ok merged) (hsections : s.HasSections)
    {place : Option String} {sec : Section} (hsec : (place, sec) ∈ Section.places) {f : Setting}
    (hf : f ∈ sec.fields) : merged.given? place f.name = s.given? place f := by
  obtain ⟨found, requested, environment, hfound, hrequested, henvironment, rfl⟩ :=
    exists_of_layered h
  have hplace := Section.isPlace hsec hf
  have hfiles := ConfigFile.isSectioned_found hfound hsections.files
  have hasked : requested.IsSectioned ∧ requested.given? place f.name =
      s.requestedFile.bind fun file => file.given? place f.name := by
    rcases hrequested with ⟨hnone, rfl⟩ | ⟨file, hsome, hread⟩
    · rw [hnone]
      refine ⟨Settings.isSectioned_nil, ?_⟩
      cases place <;> rfl
    · rw [hsome, Option.bind_some, ConfigFile.given?_of_settings hread]
      exact ⟨ConfigFile.isSectioned_settings hread (hsections.requested file hsome), rfl⟩
  have hlayers : ∀ t ∈ found ++ [requested, environment, s.overrides.ofCaller],
      t.IsSectioned := by
    simp only [List.mem_append, List.mem_cons, List.not_mem_nil, or_false]
    rintro t (ht | rfl | rfl | rfl)
    · exact hfiles t ht
    · exact hasked.1
    · exact Environment.isSectioned_settings henvironment
    · exact hsections.overrides.ofCaller
  rw [Settings.given?_layers Settings.isSectioned_nil hlayers hplace, List.reverse_append,
    List.findSome?_append, ConfigFile.findSome?_settings hfound]
  have hnone : Settings.given? [] place f.name = none := by cases place <;> rfl
  simp only [List.reverse_cons, List.reverse_nil, List.nil_append, List.cons_append,
    List.findSome?_cons, List.findSome?_nil]
  rw [Settings.given?_ofCaller hsec hf, Environment.given?_settings henvironment hsec hf, hasked.2,
    hnone, Option.or_none]
  unfold ConfigSources.given?
  cases s.overrides.called? place f.name <;>
    cases Environment.given? s.environment (Environment.leadOf place) f <;>
      cases (s.requestedFile.bind fun file => file.given? place f.name) <;> rfl

theorem valueOf_fill {sec : Section} {given settings : Settings}
    (hnames : (sec.fields.map (·.name)).Nodup) (h : sec.fill given = .ok settings) {f : Setting}
    (hf : f ∈ sec.fields) : settings.valueOf f.name = (Value.find? given f.name).getD f.usual := by
  have hkeys := Section.names_of_fill h
  unfold Section.fill at h
  split at h
  · cases h
  · have hmem : (f.name, (Value.find? given f.name).getD f.usual) ∈ settings := by
      rw [← Except.ok.inj h]
      exact List.mem_map_of_mem hf
    rw [Settings.valueOf, (Value.find?_eq_some_iff (hkeys ▸ hnames)).mpr hmem, Option.getD_some]

theorem eq_of_checkGateway {t t' : Settings} (h : Section.checkGateway t = .ok t') : t' = t := by
  obtain ⟨_, -, h⟩ := exists_of_bind_eq_ok h
  obtain ⟨_, -, h⟩ := exists_of_bind_eq_ok h
  obtain ⟨_, -, h⟩ := exists_of_bind_eq_ok h
  exact (Except.ok.inj h).symm

/-- Settings of the analysis that pass their checks pass each of them, and stay as they are. -/
theorem passes_of_checkGeneral {t t' : Settings} (h : Section.checkGeneral t = .ok t') :
    (Section.isGiven (t.valueOf "workers") = true → requireAtLeast t "workers" 1 = .ok ()) ∧
      requireAtLeast t "cache_max_entries" 1 = .ok () ∧
      (∃ below, (t.valueOf "cache_ttl_seconds").isBelow (.whole 0) = .ok below ∧
        require (!below) .nonNegativeAge = .ok ()) ∧
      requireAtLeast t "max_test_cases" 1 = .ok () ∧ t' = t := by
  unfold Section.checkGeneral at h
  dsimp only at h
  -- The first check is made only if workers are given; the rest is the same in both cases.
  obtain ⟨hworkers, hrest⟩ :
      (Section.isGiven (t.valueOf "workers") = true → requireAtLeast t "workers" 1 = .ok ()) ∧
        (do
          requireAtLeast t "cache_max_entries" 1
          require (!(← (t.valueOf "cache_ttl_seconds").isBelow (.whole 0))) .nonNegativeAge
          requireAtLeast t "max_test_cases" 1
          return t) = Except.ok t' := by
    split at h
    · obtain ⟨_, hworkers, h⟩ := exists_of_bind_eq_ok h
      exact ⟨fun _ => hworkers, h⟩
    · next hnone => exact ⟨fun hgiven => absurd hgiven hnone, h⟩
  obtain ⟨_, hentries, hrest⟩ := exists_of_bind_eq_ok hrest
  obtain ⟨below, hbelow, hrest⟩ := exists_of_bind_eq_ok hrest
  obtain ⟨_, hage, hrest⟩ := exists_of_bind_eq_ok hrest
  obtain ⟨_, htests, hrest⟩ := exists_of_bind_eq_ok hrest
  exact ⟨hworkers, hentries, ⟨below, hbelow, hage⟩, htests, (Except.ok.inj hrest).symm⟩

theorem eq_of_checkGeneral {t t' : Settings} (h : Section.checkGeneral t = .ok t') : t' = t :=
  (passes_of_checkGeneral h).2.2.2.2

theorem eq_ok_of_mapError {ε ε' α : Type} {x : Except ε α} {f : ε → ε'} {a : α}
    (h : x.mapError f = .ok a) : x = .ok a := by
  cases x with
  | error e => cases h
  | ok b => rw [Except.ok.inj h]

/-- The settings of a nested section hold what is given within it. -/
theorem find?_nested {t : Settings} {part : String} {o : Option Settings}
    (h : t.nested? part = .ok o) (name : String) :
    Value.find? (o.getD []) name = t.given? (some part) name := by
  unfold Settings.nested? at h
  unfold Settings.given?
  dsimp only
  split at h
  · next hnone =>
    obtain rfl := Except.ok.inj h
    rw [hnone]
    rfl
  · next hnull =>
    obtain rfl := Except.ok.inj h
    rw [hnull]
    rfl
  · next htable =>
    obtain rfl := Except.ok.inj h
    rw [htable]
    rfl
  · cases h

/-- The sections of a loaded configuration, from the settings of all sources. -/
theorem exists_of_ofSettings {t : Settings} (h : ofSettings t = .ok c) :
    ∃ (thresholds gateway : Option Settings) (filled : Settings),
      t.nested? "thresholds" = .ok thresholds ∧
      Section.thresholds.fill (thresholds.getD []) = .ok filled ∧
      (∃ exempt, (filled.valueOf "magic_number_exemptions").items? = .ok exempt ∧
        c.thresholds = Value.enter filled "magic_number_exemptions" (.list exempt)) ∧
      t.nested? "gateway" = .ok gateway ∧
      Section.gateway.fill (gateway.getD []) = .ok c.gateway ∧
      Section.general.fill t.top = .ok c.general := by
  obtain ⟨thresholds, hthresholds, h⟩ := exists_of_bind_eq_ok h
  obtain ⟨inThresholds, hin, h⟩ := exists_of_bind_eq_ok h
  obtain ⟨filled, hfilled, hchecked⟩ := exists_of_bind_eq_ok (eq_ok_of_mapError hin)
  obtain ⟨gateway, hgateway, h⟩ := exists_of_bind_eq_ok h
  obtain ⟨inGateway, hin, h⟩ := exists_of_bind_eq_ok h
  obtain ⟨filledGateway, hfilledGateway, hcheckedGateway⟩ :=
    exists_of_bind_eq_ok (eq_ok_of_mapError hin)
  obtain rfl := eq_of_checkGateway hcheckedGateway
  obtain ⟨general, hin, h⟩ := exists_of_bind_eq_ok h
  obtain ⟨filledGeneral, hfilledGeneral, hcheckedGeneral⟩ :=
    exists_of_bind_eq_ok (eq_ok_of_mapError hin)
  obtain rfl := eq_of_checkGeneral hcheckedGeneral
  obtain rfl := Except.ok.inj h
  exact ⟨thresholds, gateway, filled, hthresholds, hfilled,
    Section.exists_of_checkThresholds hchecked, hgateway, hfilledGateway, hfilledGeneral⟩

/-- Every setting of a loaded configuration is the one of the highest source that sets it, or the
usual one if none does. The exempt numbers are kept as a list: the items of that value. -/
theorem load_by_priority (h : load s = .ok c) (hsections : s.HasSections) :
    (∀ f ∈ Section.general.fields,
      c.general.valueOf f.name = (s.given? none f).getD f.usual) ∧
    (∀ f ∈ Section.gateway.fields,
      c.gateway.valueOf f.name = (s.given? (some "gateway") f).getD f.usual) ∧
    ∀ f ∈ Section.thresholds.fields,
      if f.name = "magic_number_exemptions" then
        ∃ items, ((s.given? (some "thresholds") f).getD f.usual).items? = .ok items ∧
          c.thresholds.valueOf f.name = .list items
      else c.thresholds.valueOf f.name = (s.given? (some "thresholds") f).getD f.usual := by
  obtain ⟨merged, hmerged, h⟩ := exists_of_bind_eq_ok h
  obtain ⟨thresholds, gateway, filled, hthresholds, hfilled, ⟨exempt, hexempt, hchecked⟩, hgateway,
    hfilledGateway, hfilledGeneral⟩ := exists_of_ofSettings h
  have hgeneralAt : (none, Section.general) ∈ Section.places := List.mem_cons_self
  have hthresholdsAt : (some "thresholds", Section.thresholds) ∈ Section.places :=
    List.mem_cons_of_mem _ List.mem_cons_self
  have hgatewayAt : (some "gateway", Section.gateway) ∈ Section.places :=
    List.mem_cons_of_mem _ (List.mem_cons_of_mem _ List.mem_cons_self)
  refine ⟨fun f hf => ?_, fun f hf => ?_, fun f hf => ?_⟩
  · have hplace : f.name ∉ Settings.nested := Section.isPlace hgeneralAt hf
    have hkeep : (!Settings.nested.contains f.name) = true := by simpa using hplace
    rw [valueOf_fill (Section.nodup_names hgeneralAt) hfilledGeneral hf, Settings.top,
      Value.find?_filter (fun name => !Settings.nested.contains name) hkeep,
      ← given?_layered hmerged hsections hgeneralAt hf]
    rfl
  · rw [valueOf_fill (Section.nodup_names hgatewayAt) hfilledGateway hf, find?_nested hgateway,
      given?_layered hmerged hsections hgatewayAt hf]
  · have hvalue : filled.valueOf f.name = (s.given? (some "thresholds") f).getD f.usual := by
      rw [valueOf_fill (Section.nodup_names hthresholdsAt) hfilled hf, find?_nested hthresholds,
        given?_layered hmerged hsections hthresholdsAt hf]
    rw [hchecked, Settings.valueOf, Value.find?_enter]
    split
    · next hname => exact ⟨exempt, by rw [← hvalue, hname, hexempt], by rw [if_pos hname.symm]; rfl⟩
    · next hname => rw [if_neg (Ne.symm hname), ← hvalue]; rfl

/-- Five sources that give different values under the same names, and some under names of their
own. -/
def fiveSources : ConfigSources where
  files := [
    ⟨"global config", "~/.codelens.toml",
      some "[gateway]\nurl = \"a\"\napi_key = \"k\"\n".toList⟩,
    ⟨"project config", "codelens.toml",
      some "verbosity = \"verbose\"\n[gateway]\nurl = \"b\"\n".toList⟩]
  requested := some ("wide.toml", some ⟨"config file", "wide.toml",
    some "[gateway]\nurl = \"c\"\nenabled = false\n".toList⟩)
  environment := [("CODELENS_GATEWAY_ENABLED", "yes"), ("CODELENS_THRESHOLDS_NESTING_WARN", "2")]
  overrides := [("quiet", .flag true), ("thresholds", .table [("nesting_fail", .whole 8)])]

theorem load_by_priority_five :
    (∃ c, load fiveSources = .ok c) ∧ fiveSources.HasSections ∧
      ∀ c, load fiveSources = .ok c →
        (c.general.valueOf "verbosity").shown = "quiet" ∧
        (c.gateway.valueOf "api_key").shown = "k" ∧
        (c.gateway.valueOf "url").shown = "c" ∧
        (c.gateway.valueOf "enabled").shown = "True" ∧
        (c.thresholds.valueOf "nesting_warn").shown = "2" ∧
        (c.thresholds.valueOf "nesting_fail").shown = "8" := by
  have hsections : fiveSources.HasSections := by
    refine ⟨by decide +kernel, fun f hf => ?_, ⟨by decide, fun part hpart v hv => ?_⟩⟩
    · obtain rfl := Option.some.inj hf
      decide +kernel
    · rcases List.mem_cons.mp hpart with rfl | hpart
      · obtain rfl := Option.some.inj hv
        exact ⟨_, rfl, by decide⟩
      · obtain rfl := List.mem_singleton.mp hpart
        cases hv
  refine ⟨?_, hsections, fun c h => ?_⟩
  · have hloaded : (load fiveSources).isOk = true := by decide +kernel
    cases h : load fiveSources with
    | ok c => exact ⟨c, rfl⟩
    | error fault =>
      rw [h] at hloaded
      cases hloaded
  · obtain ⟨hgeneral, hgateway, hthresholds⟩ := load_by_priority h hsections
    have hverbosity := hgeneral ⟨"verbosity", .text "normal", .text⟩ (by simp [Section.general])
    have hkey := hgateway ⟨"api_key", .null, .text⟩ (by simp [Section.gateway])
    have hurl := hgateway ⟨"url", .text "", .text⟩ (by simp [Section.gateway])
    have henabled := hgateway ⟨"enabled", .flag false, .flag⟩ (by simp [Section.gateway])
    have hwarn := hthresholds ⟨"nesting_warn", .whole 4, .whole⟩ (by simp [Section.thresholds])
    have hfail := hthresholds ⟨"nesting_fail", .whole 6, .whole⟩ (by simp [Section.thresholds])
    rw [if_neg (by decide)] at hwarn hfail
    exact ⟨(congrArg Value.shown hverbosity).trans (by decide +kernel),
      (congrArg Value.shown hkey).trans (by decide +kernel),
      (congrArg Value.shown hurl).trans (by decide +kernel),
      (congrArg Value.shown henabled).trans (by decide +kernel),
      (congrArg Value.shown hwarn).trans (by decide +kernel),
      (congrArg Value.shown hfail).trans (by decide +kernel)⟩

/-- A project that gives its exempt numbers as a text. -/
def exemptText : ConfigSources where
  files := [⟨"project config", "codelens.toml",
    some "[thresholds]\nmagic_number_exemptions = \"12\"\n".toList⟩]

/-- Exempt numbers are not kept as they are given: of a text, its characters are kept. -/
theorem exempt_text_is_split : ¬ ∀ (s : ConfigSources) (c : Config), load s = .ok c →
    s.HasSections → ∀ f ∈ Section.thresholds.fields,
      c.thresholds.valueOf f.name = (s.given? (some "thresholds") f).getD f.usual := by
  intro hkept
  have hsections : exemptText.HasSections :=
    ⟨by decide +kernel, nofun, Settings.isSectioned_nil⟩
  let exempt : Setting := ⟨"magic_number_exemptions",
    .list [.whole 0, .whole 1, .whole 2, .whole 10, .whole 100, .whole 1000], .wholes⟩
  have hloaded : ((load exemptText).toOption.map fun c =>
      (c.thresholds.valueOf exempt.name).kindName) = some "list" := by decide +kernel
  have hgiven : ((exemptText.given? (some "thresholds") exempt).getD exempt.usual).kindName =
      "str" := by decide +kernel
  cases h : load exemptText with
  | error fault =>
    rw [h] at hloaded
    cases hloaded
  | ok c =>
    have hsame := hkept exemptText c h hsections exempt (by simp [Section.thresholds, exempt])
    rw [h] at hloaded
    have hlist : (c.thresholds.valueOf exempt.name).kindName = "list" := Option.some.inj hloaded
    rw [hsame] at hlist
    exact absurd (hlist.symm.trans hgiven) (by decide)

end Config
end SourceAudit
