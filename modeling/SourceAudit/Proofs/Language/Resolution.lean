import Mathlib.Data.List.Nodup
import SourceAudit.Analyzer.Basic

/-!
  Which languages a source can be said to be in, and which names of tables a registry finds
  again.

  Names are kept as they are given, and looked up without blanks around them and in small
  letters. What is proved:
    1. `language_resolve_mem` — whatever is declared, and whatever the file is called, the
       language of a source is one of the tables of the registry or its fallback.
    2. `resolve_of_known` — a language that is declared by a name or an alias of a table is
       that table's, whatever the fallback.
    3. `resolve_self_iff` — a table is found under its own name exactly if the name is
       settled: not empty, and either written as names are looked up, or led back to by an
       alias under which no other table stands.
    4. `get_self_iff` — under the same condition its own table is the one that is found.
    5. `finds_settled` — so that is when the fallback of a registry and the languages that
       it detects can be looked up, and when looking up a found name finds it again. A
       name that is found is always one of the registry.
    6. `capital_not_found` — a registry may fail to find the only name that it has.
-/
namespace SourceAudit

/-! ## The language of a source -/

namespace Registry

variable {r : Registry}

theorem mem_names_of_resolve {declared : Option String} {name : String}
    (h : r.resolve declared = some name) : name ∈ r.names := by
  unfold resolve at h
  cases declared with
  | none => cases h
  | some written =>
    dsimp only at h
    split at h
    · cases h
    · split at h
      · obtain rfl := Option.some.inj h
        assumption
      · split at h
        · cases h
        · split at h
          · obtain rfl := Option.some.inj h
            assumption
          · cases h

theorem mem_names_of_claims {claim : Text × String} (h : claim ∈ r.claims) :
    claim.2 ∈ r.names := by
  obtain ⟨l, hl, hclaim⟩ := List.mem_flatMap.mp h
  obtain ⟨extension, -, rfl⟩ := List.mem_map.mp hclaim
  exact List.mem_map_of_mem hl

theorem mem_names_of_owner? {suffix : Text} {name : String} (h : r.owner? suffix = some name) :
    name ∈ r.names := by
  unfold owner? at h
  split at h
  · rename_i claim hclaims
    obtain rfl := Option.some.inj h
    have hmem : claim ∈ r.claims.filter fun claim => claim.1 == suffix := by
      rw [hclaims]
      exact List.mem_singleton_self claim
    exact mem_names_of_claims (List.mem_filter.mp hmem).1
  · cases h

theorem mem_names_of_ofFileName {path name : String} (h : r.ofFileName path = some name) :
    name ∈ r.names := by
  unfold ofFileName at h
  dsimp only at h
  split at h
  · cases h
  · split at h
    · rename_i last _ found hpair
      obtain rfl := Option.some.inj h
      split at hpair
      · exact mem_names_of_owner? hpair
      · cases hpair
    · exact mem_names_of_owner? h

end Registry

namespace Classifier

variable {r : Registry}

theorem language_detectContentWith_mem (round : Rat → Rat) (code : Text) :
    (detectContentWith round r code).language ∈ r.fallback :: r.names := by
  unfold detectContentWith
  split
  · exact List.mem_cons_self
  · split
    · exact List.mem_cons_self
    · rename_i top others hranking
      have htop : top ∈ ranking (scoresWith round r code) := by
        rw [hranking]
        exact List.mem_cons_self
      obtain ⟨l, hl, rfl⟩ :=
        List.mem_map.mp (List.mem_filter.mp ((List.mem_mergeSort).mp htop)).1
      exact List.mem_cons_of_mem _ (List.mem_map_of_mem hl)

theorem language_detect_mem (code : Text) (file : Option String) :
    (detect r code file).language ∈ r.fallback :: r.names := by
  unfold detect detectWith
  split
  · exact language_detectContentWith_mem Number.toBinary code
  · split
    · exact language_detectContentWith_mem Number.toBinary code
    · rename_i path _ name hname
      split at hname
      · cases hname
      · exact List.mem_cons_of_mem _ (Registry.mem_names_of_ofFileName hname)

end Classifier

namespace Analyzer

/-- A source is in a language of the registry, or in its fallback. -/
theorem language_resolve_mem (a : Analyzer) (source : Text) (declared file : Option String) :
    (a.resolve source declared file).language ∈ a.registry.fallback :: a.registry.names := by
  unfold resolve
  split
  · exact List.mem_cons_self
  · cases hknown : a.registry.resolve declared with
    | none =>
      dsimp only
      split
      · exact List.mem_cons_self
      · unfold detect
        split
        · exact List.mem_cons_self
        · exact Classifier.language_detect_mem source file
    | some name =>
      have hname := List.mem_cons_of_mem a.registry.fallback (Registry.mem_names_of_resolve hknown)
      dsimp only
      split
      · exact hname
      · exact hname

/-- A language that is declared and known is taken as it is, whatever the fallback. -/
theorem resolve_of_known (a : Analyzer) {declared : Option String} {language : String}
    (hknown : a.registry.resolve declared = some language) (hfault : a.fault? .resolution = none)
    (source : Text) (file : Option String) :
    a.resolve source declared file =
      if source.isBlank then .unsure language "No code provided"
      else ⟨language, 100, [], "Language declared by caller"⟩ := by
  rw [resolve, hfault]
  dsimp only
  rw [hknown]
  rfl

end Analyzer

/-! ## Names that are found again -/

namespace Registry

variable {r : Registry} {id : String} {l : Language}

/-- Whether a name is found under itself: it is the key that it is looked up by, or no table stands
under that key and an alias leads from it to the name. -/
def IsSettled (r : Registry) (id : String) : Prop :=
  id ≠ "" ∧ (key id = id ∨ key id ∉ r.names ∧ r.aliases.lookup (key id) = some id)

instance : Decidable (r.IsSettled id) := by
  unfold IsSettled
  infer_instance

/-- A name of a registry is found under itself exactly if it is settled. -/
theorem resolve_self_iff (hid : id ∈ r.names) : r.resolve (some id) = some id ↔ r.IsSettled id := by
  unfold resolve IsSettled
  dsimp only
  by_cases hempty : id = ""
  · simp [hempty]
  · rw [if_neg (by simpa using hempty)]
    by_cases hkey : key id ∈ r.names
    · simp [hempty, hkey]
    · -- The name is in the registry and its key is not, so they differ.
      have hne : key id ≠ id := fun heq => hkey (by rwa [heq])
      rw [if_neg hkey]
      cases r.aliases.lookup (key id) with
      | none => simp [hne]
      | some target =>
        by_cases htarget : target = id
        · simp [htarget, hid, hempty, hkey]
        · simp [htarget, hne]

/-- Of languages with different names, each is found by its name. -/
theorem find?_name (hnames : r.names.Nodup) (hl : l ∈ r.languages) :
    (r.languages.find? fun other => other.name == l.name) = some l := by
  rw [List.find?_eq_some_iff_append]
  obtain ⟨before, after, hsplit⟩ := List.append_of_mem hl
  refine ⟨by simp, before, after, hsplit, fun other hother => ?_⟩
  rw [names, hsplit, List.map_append, List.map_cons] at hnames
  have hnotbefore : l.name ∉ before.map (·.name) := fun hmem =>
    (List.nodup_append.mp hnames).2.2 _ hmem _ List.mem_cons_self rfl
  simpa using fun heq : other.name = l.name => hnotbefore (heq ▸ List.mem_map_of_mem hother)

/-- The table of a name is found under it exactly if the name is settled. -/
theorem get_self_iff (hnames : r.names.Nodup) (hl : l ∈ r.languages) :
    r.get (some l.name) = .ok l ↔ r.IsSettled l.name := by
  rw [← resolve_self_iff (List.mem_map_of_mem hl)]
  unfold get
  constructor
  · intro h
    split at h
    · cases h
    · next id hid =>
      split at h
      · next found hfound =>
        obtain rfl := Except.ok.inj h
        have hname : found.name = id := by simpa using List.find?_some hfound
        rw [hid, hname]
      · cases h
  · intro h
    rw [h]
    dsimp only
    rw [find?_name hnames hl]

theorem make?_eq_ok_iff {languages : List Language} {aliases : List (String × String)}
    {fallback : String} :
    make? languages aliases fallback = .ok r ↔
      fallback ∈ languages.map (·.name) ∧ ⟨languages, aliases, fallback⟩ = r := by
  unfold make?
  dsimp only
  split
  · next hfallback =>
    exact ⟨fun h => ⟨hfallback, Except.ok.inj h⟩, fun h => congrArg Except.ok h.2⟩
  · next hnone => exact ⟨fun h => (nomatch h), fun h => absurd h.1 hnone⟩

/-- What a registry of languages with different names finds, whatever the aliases and the fallback.
Each name is found under itself, and its own table under it, exactly if it is settled. The fallback
and every language that is detected have a table, which is found exactly then. A name that is found
is one of the registry, and is found again exactly if it is settled. -/
theorem finds_settled {languages : List Language} {aliases : List (String × String)}
    {fallback : String} (h : make? languages aliases fallback = .ok r)
    (hnames : (languages.map (·.name)).Nodup) :
    (∀ l ∈ languages, (r.resolve (some l.name) = some l.name ↔ r.IsSettled l.name) ∧
      (r.get (some l.name) = .ok l ↔ r.IsSettled l.name)) ∧
    (∀ code file, ∀ name ∈ [r.fallback, (Classifier.detect r code file).language],
      ∃ l ∈ languages, l.name = name ∧ (r.get (some name) = .ok l ↔ r.IsSettled name)) ∧
    ∀ written name, r.resolve written = some name →
      name ∈ r.names ∧ (r.resolve (some name) = some name ↔ r.IsSettled name) := by
  obtain ⟨rfl, hfallback⟩ : r.languages = languages ∧ r.fallback ∈ r.names := by
    obtain ⟨hfallback, rfl⟩ := make?_eq_ok_iff.mp h
    exact ⟨rfl, hfallback⟩
  refine ⟨fun l hl => ⟨resolve_self_iff (List.mem_map_of_mem hl), get_self_iff hnames hl⟩,
    fun code file name hname => ?_, fun written name hfound => ?_⟩
  · have hmem : name ∈ r.names := by
      rcases List.mem_cons.mp hname with rfl | hname
      · exact hfallback
      · obtain rfl := List.mem_singleton.mp hname
        rcases List.mem_cons.mp (Classifier.language_detect_mem code file) with heq | hdetected
        · rw [heq]
          exact hfallback
        · exact hdetected
    obtain ⟨l, hl, rfl⟩ := List.mem_map.mp hmem
    exact ⟨l, hl, rfl, get_self_iff hnames hl⟩
  · have hmem := mem_names_of_resolve hfound
    exact ⟨hmem, resolve_self_iff hmem⟩

/-- A name in small letters, one that an alias leads back to, and one that nothing leads to. -/
theorem finds_settled_sharps :
    let languages : List Language := [{ name := "java" }, { name := "C#" }, { name := "F#" }]
    let aliases := [("c#", "C#")]
    ∃ r, make? languages aliases "F#" = .ok r ∧ (languages.map (·.name)).Nodup ∧
      r.get (some "java") = .ok { name := "java" } ∧ r.get (some "C#") = .ok { name := "C#" } ∧
      r.resolve (some "F#") ≠ some "F#" ∧ r.get (some r.fallback) ≠ .ok { name := "F#" } := by
  intro languages aliases
  let r : Registry := ⟨languages, aliases, "F#"⟩
  have hmake : make? languages aliases "F#" = .ok r := make?_eq_ok_iff.mpr ⟨by decide, rfl⟩
  have hnames : (languages.map (·.name)).Nodup := by decide
  have hjava : r.IsSettled "java" := by decide +kernel
  have hsharp : r.IsSettled "C#" := by decide +kernel
  have hother : ¬ r.IsSettled "F#" := by decide +kernel
  obtain ⟨hown, -, -⟩ := finds_settled hmake hnames
  have hjavaOwn := hown { name := "java" } List.mem_cons_self
  have hsharpOwn := hown { name := "C#" } (List.mem_cons_of_mem _ List.mem_cons_self)
  have hotherOwn := hown { name := "F#" } (List.mem_of_getLast? rfl)
  exact ⟨r, hmake, hnames, hjavaOwn.2.mpr hjava, hsharpOwn.2.mpr hsharp,
    fun h => hother (hotherOwn.1.mp h), fun h => hother (hotherOwn.2.mp h)⟩

/-- Not every registry finds its own names again: one whose only name has a capital letter finds
nothing. -/
theorem capital_not_found : ¬ ∀ (languages : List Language) (aliases : List (String × String))
    (fallback : String) (r : Registry), make? languages aliases fallback = .ok r →
    (languages.map (·.name)).Nodup →
    (∀ l ∈ languages, r.resolve (some l.name) = some l.name ∧ r.get (some l.name) = .ok l) ∧
    (∀ written name, r.resolve written = some name → r.resolve (some name) = some name) ∧
    ∀ written name, r.resolve written = some name → name ∈ r.names := by
  intro hfound
  obtain ⟨hown, -, -⟩ := hfound [{ name := "C#" }] [] "C#" _
    (make?_eq_ok_iff.mpr ⟨List.mem_cons_self, rfl⟩) (List.nodup_singleton _)
  obtain ⟨hself, -⟩ := hown _ List.mem_cons_self
  have hnone : (⟨[{ name := "C#" }], [], "C#"⟩ : Registry).resolve (some "C#") = none := by
    decide +kernel
  rw [hnone] at hself
  cases hself

end Registry
end SourceAudit
