import Mathlib.Data.List.Nodup
import SourceAudit.Language.Registry

/-!
  The language that the name of a file decides for.

  A suffix should decide for the only table that lists it, whatever the case, and the last
  two suffixes together go before the last one. The registry counts entries of tables, not
  tables. What is proved:
    1. `owner?_lower` — a suffix has an owner if only one table lists it, and lists it once.
    2. `ofFileName_eq` — the owner of the last two suffixes is reported, else the owner of
       the last one.
    3. `ofFileName_exactly` — so a file name gets the language that it should decide for
       exactly if the table that decides lists the suffix once, or another suffix leads to
       its name; `listsOnce_builtin` — the tables that come with the library list every
       suffix once. `spelled_twice_not_found` is a table that is not found by its only
       extension.
-/
namespace SourceAudit

/-- How many entries of a table are a suffix, whatever the case. -/
def Language.timesListed (l : Language) (suffix : Text) : Nat :=
  l.extensions.countP fun e => Text.lower e.toList == Text.lower suffix

namespace Registry

/-! ## Listing a suffix -/

/-- The tables that list a suffix, whatever the case. -/
def listing (r : Registry) (suffix : Text) : List Language :=
  r.languages.filter fun l => decide (0 < l.timesListed suffix)

/-- The table that lists a suffix, if it is the only one. -/
def soleLister? (r : Registry) (suffix : Text) : Option Language :=
  match r.listing suffix with
  | [l] => some l
  | _ => none

/-- The last two suffixes together, if there are two. -/
def compound? (others : List Text) (last : Text) : Option Text :=
  others.getLast?.map fun d => d ++ last

/-- The table that a file name should decide for, by its suffixes: the only one that lists the last
two together, else the only one that lists the last. -/
def due? (r : Registry) (others : List Text) (last : Text) : Option Language :=
  ((compound? others last).bind r.soleLister?).or (r.soleLister? last)

/-- No table lists a suffix more than once, whatever the case. -/
def ListsOnce (r : Registry) : Prop :=
  ∀ l ∈ r.languages, (l.extensions.map fun e => Text.lower e.toList).Nodup

/-- The table that a file name should decide for has one entry for the suffix that it decides by;
or the last suffix leads to its name, by the one entry of a table. -/
def DecidesOnce (r : Registry) (others : List Text) (last : Text) : Prop :=
  (∀ c, compound? others last = some c → ∀ l, r.soleLister? c = some l →
    l.timesListed c = 1 ∨
      ∃ l', r.soleLister? last = some l' ∧ l'.timesListed last = 1 ∧ l'.name = l.name) ∧
  ((compound? others last).bind r.soleLister? = none →
    ∀ l, r.soleLister? last = some l → l.timesListed last = 1)

variable {r : Registry} {others : List Text} {last suffix : Text} {l : Language}

/-! ## Owners -/

/-- The entries of a table that are a suffix all look alike. -/
theorem filter_entries (l : Language) (suffix : Text) :
    (l.extensions.map fun e => (Text.lower e.toList, l.name)).filter
        (fun claim => claim.1 == Text.lower suffix) =
      List.replicate (l.timesListed suffix) (Text.lower suffix, l.name) := by
  rw [List.eq_replicate_iff]
  constructor
  · rw [← List.countP_eq_length_filter, List.countP_map]
    rfl
  · intro claim hclaim
    obtain ⟨hentry, heq⟩ := List.mem_filter.mp hclaim
    obtain ⟨e, -, rfl⟩ := List.mem_map.mp hentry
    exact congrArg (·, l.name) (beq_iff_eq.mp heq)

/-- The entries of all tables that are a suffix. -/
theorem filter_claims (r : Registry) (suffix : Text) :
    (r.claims.filter fun claim => claim.1 == Text.lower suffix) =
      (r.listing suffix).flatMap fun l =>
        List.replicate (l.timesListed suffix) (Text.lower suffix, l.name) := by
  rw [claims, listing, List.filter_flatMap]
  simp only [filter_entries]
  induction r.languages with
  | nil => rfl
  | cons l ls ih =>
    rw [List.flatMap_cons, List.filter_cons, ih]
    split
    · rfl
    · next hnone =>
      have hzero : l.timesListed suffix = 0 := by simpa using hnone
      rw [hzero]
      rfl

/-- A suffix has an owner if one table alone lists it, and has one entry for it. -/
theorem owner?_lower (r : Registry) (suffix : Text) :
    r.owner? (Text.lower suffix) =
      ((r.soleLister? suffix).filter fun l => l.timesListed suffix == 1).map (·.name) := by
  have hlisted : ∀ l ∈ r.listing suffix, 0 < l.timesListed suffix := fun l hl =>
    of_decide_eq_true (List.mem_filter.mp hl).2
  unfold owner? soleLister?
  rw [filter_claims]
  cases h : r.listing suffix with
  | nil => rfl
  | cons l ls =>
    have hl := hlisted l (h ▸ List.mem_cons_self)
    obtain ⟨n, hn⟩ := Nat.exists_eq_succ_of_ne_zero (Nat.ne_of_gt hl)
    cases ls with
    | nil =>
      rw [List.flatMap_singleton, hn]
      cases n with
      | zero => simp [Option.filter, hn]
      | succ n => simp [Option.filter, hn, List.replicate_succ]
    | cons l' ls =>
      -- two tables have two entries at least
      have hl' := hlisted l' (h ▸ List.mem_cons_of_mem _ List.mem_cons_self)
      obtain ⟨n', hn'⟩ := Nat.exists_eq_succ_of_ne_zero (Nat.ne_of_gt hl')
      rw [List.flatMap_cons, List.flatMap_cons, hn, hn', List.replicate_succ, List.replicate_succ]
      cases n with
      | zero => rfl
      | succ n => rw [List.replicate_succ]; rfl

/-! ## File names -/

/-- The owner of the last two suffixes together goes before the owner of the last. -/
theorem ofFileName_eq (r : Registry) {path : String}
    (hpath : FileName.suffixes path.toList = others ++ [last]) :
    r.ofFileName path =
      ((compound? others last).bind fun c => r.owner? (Text.lower c)).or
        (r.owner? (Text.lower last)) := by
  unfold ofFileName
  rw [hpath]
  simp only [List.getLast?_append, List.getLast?_singleton, Option.some_or]
  rcases List.eq_nil_or_concat others with rfl | ⟨front, d, rfl⟩
  · rfl
  · have hdrop : (front.concat d ++ [last]).drop ((front.concat d ++ [last]).length - 2) =
        [d, last] := by
      rw [List.concat_eq_append, List.append_assoc]
      exact List.drop_left' (by simp)
    have htwo : 1 < (front.concat d ++ [last]).length := by simp
    rw [hdrop, if_pos htwo, compound?, List.concat_eq_append, List.getLast?_concat]
    simp only [List.flatten_cons, List.flatten_nil, List.append_nil, Option.map_some,
      Option.bind_some]
    cases r.owner? (Text.lower (d ++ last)) <;> rfl

/-- What the owner of a suffix has to be for the sole lister to be reported. -/
theorem owner?_eq_soleLister?_iff (r : Registry) (suffix : Text) :
    r.owner? (Text.lower suffix) = (r.soleLister? suffix).map (·.name) ↔
      ∀ l, r.soleLister? suffix = some l → l.timesListed suffix = 1 := by
  rw [owner?_lower]
  cases r.soleLister? suffix with
  | none => simp
  | some l => by_cases h : l.timesListed suffix = 1 <;> simp [Option.filter, h]

/-- A suffix has an owner of a name exactly if its sole lister has that name and one entry. -/
theorem owner?_eq_some_iff (r : Registry) (suffix : Text) (name : String) :
    r.owner? (Text.lower suffix) = some name ↔
      ∃ l, r.soleLister? suffix = some l ∧ l.timesListed suffix = 1 ∧ l.name = name := by
  rw [owner?_lower]
  simp [Option.filter_eq_some_iff, and_assoc]

/-- The language that a file name should decide for is the one reported exactly if the table that
decides has one entry for the suffix it decides by, or the last suffix leads to it anyway. -/
theorem due?_reported_iff (r : Registry) {path : String}
    (hpath : FileName.suffixes path.toList = others ++ [last]) :
    r.ofFileName path = (r.due? others last).map (·.name) ↔ r.DecidesOnce others last := by
  rw [ofFileName_eq r hpath, due?, DecidesOnce]
  cases hpair : compound? others last with
  | none =>
    -- one suffix only
    simp only [Option.bind_none, Option.none_or, reduceCtorEq, false_implies, implies_true,
      true_and, forall_const]
    exact owner?_eq_soleLister?_iff r last
  | some c =>
    simp only [Option.bind_some, Option.some.injEq, forall_eq']
    cases hc : r.soleLister? c with
    | none =>
      -- no table alone lists the last two suffixes together
      have hnone : r.owner? (Text.lower c) = none := by rw [owner?_lower, hc]; rfl
      rw [hnone, Option.none_or, Option.none_or, owner?_eq_soleLister?_iff]
      simp
    | some l =>
      by_cases honce : l.timesListed c = 1
      · have howner : r.owner? (Text.lower c) = some l.name :=
          (owner?_eq_some_iff r c l.name).mpr ⟨l, hc, honce, rfl⟩
        simp [howner, honce]
      · -- the table has two entries for them, so the last suffix decides
        have hnone : r.owner? (Text.lower c) = none := by
          rw [owner?_lower, hc]
          simp [Option.filter, honce]
        rw [hnone, Option.none_or, Option.some_or, Option.map_some, owner?_eq_some_iff]
        simp [honce]

/-- A table that lists no suffix twice has one entry at most for each. -/
theorem ListsOnce.timesListed_le_one (h : r.ListsOnce) (hl : l ∈ r.languages) (suffix : Text) :
    l.timesListed suffix ≤ 1 := by
  have hcount := List.nodup_iff_count_le_one.mp (h l hl) (Text.lower suffix)
  rwa [List.count, List.countP_map] at hcount

/-- The only table that lists a suffix is one of the registry, and lists it. -/
theorem mem_of_soleLister? (h : r.soleLister? suffix = some l) :
    l ∈ r.languages ∧ 0 < l.timesListed suffix := by
  have hmem : l ∈ r.listing suffix := by
    unfold soleLister? at h
    split at h
    · next heq =>
      rw [heq, List.mem_singleton]
      exact (Option.some.inj h).symm
    · cases h
  rw [listing, List.mem_filter] at hmem
  exact ⟨hmem.1, of_decide_eq_true hmem.2⟩

theorem ListsOnce.timesListed_eq_one (h : r.ListsOnce) (hsole : r.soleLister? suffix = some l) :
    l.timesListed suffix = 1 := by
  obtain ⟨hmem, hpos⟩ := mem_of_soleLister? hsole
  exact Nat.le_antisymm (h.timesListed_le_one hmem suffix) hpos

theorem ListsOnce.decidesOnce (h : r.ListsOnce) (others : List Text) (last : Text) :
    r.DecidesOnce others last :=
  ⟨fun _ _ _ hsole => .inl (h.timesListed_eq_one hsole), fun _ _ hsole =>
    h.timesListed_eq_one hsole⟩

/-- A file name without suffixes decides for nothing. Any other gets the language that it should
decide for exactly if the table that decides has one entry for the suffix it decides by, or the
last suffix leads to that language anyway: always, where no table lists a suffix twice. -/
theorem ofFileName_exactly (r : Registry) (path : String) :
    (FileName.suffixes path.toList = [] → r.ofFileName path = none) ∧
    (∀ others last, FileName.suffixes path.toList = others ++ [last] →
      (r.ofFileName path = (r.due? others last).map (·.name) ↔ r.DecidesOnce others last) ∧
      (r.ListsOnce → r.ofFileName path = (r.due? others last).map (·.name))) := by
  refine ⟨fun hnone => ?_, fun others last hpath => ⟨due?_reported_iff r hpath, fun honce => ?_⟩⟩
  · unfold ofFileName
    rw [hnone]
    rfl
  · exact (due?_reported_iff r hpath).mpr (honce.decidesOnce others last)

/-- The tables that come with the library list every suffix once. -/
theorem listsOnce_builtin : builtin.ListsOnce := by
  unfold ListsOnce
  decide +kernel

/-- No table lists the two suffixes of a declaration file together, so the last one decides. -/
theorem ofFileName_exactly_declarations :
    FileName.suffixes "ui.D.TS".toList = [".D".toList] ++ [".TS".toList] ∧
      builtin.ofFileName "ui.D.TS" = some "typescript" := by
  have hpath : FileName.suffixes "ui.D.TS".toList = [".D".toList] ++ [".TS".toList] := by decide
  have hdue : (builtin.due? [".D".toList] ".TS".toList).map (·.name) = some "typescript" := by
    decide +kernel
  have hreported := ((ofFileName_exactly builtin "ui.D.TS").2 _ _ hpath).2 listsOnce_builtin
  exact ⟨hpath, hreported.trans hdue⟩

/-- A table that lists its only suffix in small letters and in capitals. -/
def spelledTwice : Registry :=
  ⟨[{ name := "pascal", extensions := [".pas", ".PAS"] }], [], "pascal"⟩

/-- The only table that lists the suffix is not found by it. -/
theorem spelled_twice_not_found :
    FileName.suffixes "unit.pas".toList = [] ++ [".pas".toList] ∧
      (spelledTwice.due? [] ".pas".toList).map (·.name) = some "pascal" ∧
      spelledTwice.ofFileName "unit.pas" = none := by
  decide +kernel

end Registry
end SourceAudit
