import SourceAudit.Failure
import SourceAudit.Proofs.Config.Priority
import SourceAudit.Proofs.Number.RoundingOrder

/-!
  The rules that a loaded configuration keeps.

  Most checks refuse a number that is on the wrong side of a bound. What is no number is
  on neither side of any, so it passes. What is proved:
    1. `Value.stand_iff` — a setting that is not refused is on the right side exactly if it
       is a number.
    2. `isKeptBy_of_checkThresholds`, `isKeptBy_of_checkGateway`,
       `isKeptBy_of_checkGeneral` — settings that pass the checks of a section keep a rule
       of it exactly if everything that the rule compares is a number.
    3. `load_keeps_rules` — sources either give such a configuration, or a fault that is
       reported as one of configuration.
    4. `undefined_timeout_passes` — a time that is no number is let through.
-/
namespace SourceAudit

namespace Value

variable {a b : Value}

/-- Whether two values are numbers between which a relation holds. -/
def Stand (relation : Quantity → Quantity → Bool) (a b : Value) : Prop :=
  ∃ x y, a.quantity? = some x ∧ b.quantity? = some y ∧ relation x y = true

/-- Whether two values are numbers of which the first is at most the second. -/
def AtMost : Value → Value → Prop := Stand Quantity.le

/-- Whether two values are numbers of which the first is below the second. -/
def Below : Value → Value → Prop := Stand Quantity.lt

/-- Whether a value stands where a number should and is none. -/
def IsUndefined (v : Value) : Prop := v = .real .undefined

theorem quantity?_eq_undefined_iff {v : Value} : v.quantity? = some .undefined ↔ v.IsUndefined := by
  cases v <;> simp [quantity?, IsUndefined, Quantity.ofInt]

theorem ne_undefined_iff {v : Value} {x : Quantity} (h : v.quantity? = some x) :
    x ≠ .undefined ↔ ¬ v.IsUndefined := by
  rw [← quantity?_eq_undefined_iff, h, Option.some_inj]

theorem exists_of_isBelow {c : Bool} (h : a.isBelow b = .ok c) :
    ∃ x y, a.quantity? = some x ∧ b.quantity? = some y ∧ x.lt y = c := by
  unfold isBelow at h
  split at h
  · next x y hx hy => exact ⟨x, y, hx, hy, Except.ok.inj h⟩
  · cases h

theorem exists_of_isAtMost {c : Bool} (h : a.isAtMost b = .ok c) :
    ∃ x y, a.quantity? = some x ∧ b.quantity? = some y ∧ x.le y = c := by
  unfold isAtMost at h
  split at h
  · next x y hx hy => exact ⟨x, y, hx, hy, Except.ok.inj h⟩
  · cases h

/-- Two values between which the contrary of a relation was found not to hold stand in the relation
exactly if neither is undefined. -/
theorem stand_iff {relation contrary : Quantity → Quantity → Bool}
    (hrelation : ∀ {x y}, contrary y x = false →
      (relation x y = true ↔ x ≠ .undefined ∧ y ≠ .undefined))
    (h : ∃ y x, b.quantity? = some y ∧ a.quantity? = some x ∧ contrary y x = false) :
    Stand relation a b ↔ ¬ a.IsUndefined ∧ ¬ b.IsUndefined := by
  obtain ⟨y, x, hy, hx, hcontrary⟩ := h
  rw [← ne_undefined_iff hx, ← ne_undefined_iff hy, ← hrelation hcontrary]
  constructor
  · rintro ⟨x', y', hx', hy', hholds⟩
    obtain rfl := Option.some.inj (hx.symm.trans hx')
    obtain rfl := Option.some.inj (hy.symm.trans hy')
    exact hholds
  · exact fun hholds => ⟨x, y, hx, hy, hholds⟩

/-- A value that was found not to be below another is at least that, if both are defined. -/
theorem atMost_iff (h : b.isBelow a = .ok false) :
    AtMost a b ↔ ¬ a.IsUndefined ∧ ¬ b.IsUndefined :=
  stand_iff Quantity.le_iff_of_lt_eq_false (exists_of_isBelow h)

/-- A value that was found not to be at most another is above that, if both are defined. -/
theorem below_iff (h : b.isAtMost a = .ok false) :
    Below a b ↔ ¬ a.IsUndefined ∧ ¬ b.IsUndefined :=
  stand_iff Quantity.lt_iff_of_le_eq_false (exists_of_isAtMost h)

theorem AtMost.defined (h : AtMost a b) : ¬ a.IsUndefined ∧ ¬ b.IsUndefined := by
  obtain ⟨x, y, hx, hy, hle⟩ := h
  rw [← ne_undefined_iff hx, ← ne_undefined_iff hy]
  exact Quantity.ne_undefined_of_le hle

theorem Below.defined (h : Below a b) : ¬ a.IsUndefined ∧ ¬ b.IsUndefined := by
  obtain ⟨x, y, hx, hy, hlt⟩ := h
  rw [← ne_undefined_iff hx, ← ne_undefined_iff hy]
  exact Quantity.ne_undefined_of_lt hlt

end Value

/-! ## Rules -/

namespace SettingRule

/-- The settings whose numbers a rule compares, with each other or with a bound. -/
def compared : SettingRule → List String
  | atLeast name _ => [name]
  | notBelow name other => [name, other]
  | densityOrder => ["comment_density_fail_pct", "comment_density_warn_pct"]
  | positiveTimeout => ["timeout_seconds"]
  | urlNeeded => []
  | nonNegativeAge => ["cache_ttl_seconds"]

/-- Whether settings keep a rule. What is no number keeps no bound. -/
def IsKeptBy (s : Settings) : SettingRule → Prop
  | atLeast name least => Value.AtMost (.whole least) (s.valueOf name)
  | notBelow name other => Value.AtMost (s.valueOf other) (s.valueOf name)
  | densityOrder =>
    Value.AtMost (.whole 0) (s.valueOf "comment_density_fail_pct") ∧
    Value.AtMost (s.valueOf "comment_density_fail_pct") (s.valueOf "comment_density_warn_pct") ∧
    Value.AtMost (s.valueOf "comment_density_warn_pct") (.whole 100)
  | positiveTimeout => Value.Below (.whole 0) (s.valueOf "timeout_seconds")
  | urlNeeded => (s.valueOf "enabled").isSet = true → (s.valueOf "url").isSet = true
  | nonNegativeAge => Value.AtMost (.whole 0) (s.valueOf "cache_ttl_seconds")

/-- Whether everything that a rule compares is a number. -/
def IsClearIn (s : Settings) (rule : SettingRule) : Prop :=
  ∀ name ∈ rule.compared, ¬ (s.valueOf name).IsUndefined

/-- Whether settings keep a rule exactly if everything that it compares is a number. -/
def IsWeighedBy (s : Settings) (rule : SettingRule) : Prop := rule.IsKeptBy s ↔ rule.IsClearIn s

end SettingRule

namespace Section

/-- The rules of the thresholds: each is at least one for a warning and not below that for a failure,
the densities are in order, and two counts have a least value. -/
def thresholdRules : List SettingRule :=
  (thresholdPairs.flatMap fun pair => [.atLeast pair.1 1, .notBelow pair.2 pair.1]) ++
    [.densityOrder, .atLeast "duplicate_window" 2, .atLeast "max_risky_lines" 1]

/-- The rules of the service. -/
def gatewayRules : List SettingRule := [.positiveTimeout, .urlNeeded]

/-- The rules of the analysis. The number of workers may be left out. -/
def generalRules (s : Settings) : List SettingRule :=
  (if isGiven (s.valueOf "workers") then [.atLeast "workers" 1] else []) ++
    [.atLeast "cache_max_entries" 1, .nonNegativeAge, .atLeast "max_test_cases" 1]

/-! ## Checks -/

variable {s t : Settings} {u : Unit}

theorem eq_true_of_require {holds : Bool} {rule : SettingRule} (h : require holds rule = .ok u) :
    holds = true := by
  unfold require at h
  split at h
  · assumption
  · cases h

theorem not_isUndefined_whole (n : Int) : ¬ (Value.whole n).IsUndefined := nofun

theorem isWeighedBy_of_requireAtLeast {name : String} {least : Nat}
    (h : requireAtLeast s name least = .ok u) : (SettingRule.atLeast name least).IsWeighedBy s := by
  obtain ⟨below, hbelow, h⟩ := exists_of_bind_eq_ok h
  obtain rfl : below = false := by simpa using eq_true_of_require h
  refine (Value.atMost_iff hbelow).trans ?_
  simp [SettingRule.IsClearIn, SettingRule.compared, not_isUndefined_whole]

theorem isWeighedBy_of_checkPair {pair : String × String} (h : checkPair s pair = .ok u) :
    (SettingRule.atLeast pair.1 1).IsWeighedBy s ∧
      (SettingRule.notBelow pair.2 pair.1).IsWeighedBy s := by
  obtain ⟨_, hleast, h⟩ := exists_of_bind_eq_ok h
  obtain ⟨below, hbelow, h⟩ := exists_of_bind_eq_ok h
  obtain rfl : below = false := by simpa using eq_true_of_require h
  refine ⟨isWeighedBy_of_requireAtLeast hleast, (Value.atMost_iff hbelow).trans ?_⟩
  simp [SettingRule.IsClearIn, SettingRule.compared, and_comm]

theorem exists_of_forM_eq_ok {ε α : Type} {f : α → Except ε Unit} {xs : List α}
    (h : xs.forM f = .ok u) : ∀ x ∈ xs, ∃ v, f x = .ok v := by
  induction xs with
  | nil => exact nofun
  | cons x rest ih =>
    obtain ⟨v, hv, h⟩ := exists_of_bind_eq_ok h
    exact List.forall_mem_cons.mpr ⟨⟨v, hv⟩, ih h⟩

/-- Numbers that rise from first to last. -/
theorem isChain_of_rising {values : List Value} (h : rising values = .ok true) :
    values.IsChain Value.AtMost := by
  induction values with
  | nil => exact .nil
  | cons a rest ih =>
    cases rest with
    | nil => exact .singleton a
    | cons b rest =>
      obtain ⟨atMost, hatMost, h⟩ := exists_of_bind_eq_ok h
      cases atMost with
      | false => exact absurd (Except.ok.inj h) (by decide)
      | true => exact .cons_cons (Value.exists_of_isAtMost hatMost) (ih h)

/-- The densities are in order wherever they pass, so they are numbers. -/
theorem densityOrder_of_rising
    (h : rising [.fraction 0, s.valueOf "comment_density_fail_pct",
      s.valueOf "comment_density_warn_pct", .fraction 100] = .ok true) :
    SettingRule.densityOrder.IsKeptBy s := by
  have hchain := isChain_of_rising h
  simp only [List.isChain_cons_cons] at hchain
  exact ⟨hchain.1, hchain.2.1, hchain.2.2.1⟩

theorem isWeighedBy_densityOrder (h : SettingRule.densityOrder.IsKeptBy s) :
    SettingRule.densityOrder.IsWeighedBy s := by
  refine ⟨fun ⟨_, hrise, _⟩ => ?_, fun _ => h⟩
  simpa [SettingRule.IsClearIn, SettingRule.compared] using hrise.defined

/-- Thresholds that pass their checks keep a rule exactly if everything that it compares is a
number; the densities always do. -/
theorem isKeptBy_of_checkThresholds (h : checkThresholds s = .ok t) :
    (∀ rule ∈ thresholdRules, rule.IsWeighedBy t) ∧ SettingRule.densityOrder.IsKeptBy t := by
  unfold checkThresholds at h
  obtain ⟨exempt, -, h⟩ := exists_of_bind_eq_ok h
  obtain ⟨_, hpairs, h⟩ := exists_of_bind_eq_ok h
  obtain ⟨ordered, hordered, h⟩ := exists_of_bind_eq_ok h
  obtain ⟨_, hdensity, h⟩ := exists_of_bind_eq_ok h
  obtain ⟨_, hwindow, h⟩ := exists_of_bind_eq_ok h
  obtain ⟨_, hrisky, h⟩ := exists_of_bind_eq_ok h
  obtain rfl := Except.ok.inj h
  obtain rfl := eq_true_of_require hdensity
  have hdensities := densityOrder_of_rising hordered
  refine ⟨fun rule hrule => ?_, hdensities⟩
  rcases List.mem_append.mp hrule with hrule | hrule
  · obtain ⟨pair, hpair, hrule⟩ := List.mem_flatMap.mp hrule
    obtain ⟨_, hchecked⟩ := exists_of_forM_eq_ok hpairs pair hpair
    obtain ⟨hleast, hbelow⟩ := isWeighedBy_of_checkPair hchecked
    simp only [List.mem_cons, List.not_mem_nil, or_false] at hrule
    rcases hrule with rfl | rfl
    · exact hleast
    · exact hbelow
  · simp only [List.mem_cons, List.not_mem_nil, or_false] at hrule
    rcases hrule with rfl | rfl | rfl
    · exact isWeighedBy_densityOrder hdensities
    · exact isWeighedBy_of_requireAtLeast hwindow
    · exact isWeighedBy_of_requireAtLeast hrisky

/-- So do the settings of the service. -/
theorem isKeptBy_of_checkGateway (h : checkGateway s = .ok t) :
    ∀ rule ∈ gatewayRules, rule.IsWeighedBy t := by
  unfold checkGateway at h
  obtain ⟨atMost, hatMost, h⟩ := exists_of_bind_eq_ok h
  obtain ⟨_, htimeout, h⟩ := exists_of_bind_eq_ok h
  obtain ⟨_, hurl, h⟩ := exists_of_bind_eq_ok h
  obtain rfl := Except.ok.inj h
  obtain rfl : atMost = false := by simpa using eq_true_of_require htimeout
  intro rule hrule
  simp only [gatewayRules, List.mem_cons, List.not_mem_nil, or_false] at hrule
  rcases hrule with rfl | rfl
  · refine (Value.below_iff hatMost).trans ?_
    simp [SettingRule.IsClearIn, SettingRule.compared, not_isUndefined_whole]
  · refine ⟨fun _ _ hname => absurd hname List.not_mem_nil, fun _ henabled => ?_⟩
    simpa [henabled] using eq_true_of_require hurl

/-- So do the settings of the analysis. -/
theorem isKeptBy_of_checkGeneral (h : checkGeneral s = .ok t) :
    ∀ rule ∈ generalRules t, rule.IsWeighedBy t := by
  obtain ⟨hworkers, hentries, ⟨below, hbelow, hage⟩, htests, rfl⟩ :=
    Config.passes_of_checkGeneral h
  obtain rfl : below = false := by simpa using eq_true_of_require hage
  intro rule hrule
  rcases List.mem_append.mp hrule with hrule | hrule
  · split at hrule
    · next hgiven =>
      obtain rfl := List.mem_singleton.mp hrule
      exact isWeighedBy_of_requireAtLeast (hworkers hgiven)
    · cases hrule
  · simp only [List.mem_cons, List.not_mem_nil, or_false] at hrule
    rcases hrule with rfl | rfl | rfl
    · exact isWeighedBy_of_requireAtLeast hentries
    · refine (Value.atMost_iff hbelow).trans ?_
      simp [SettingRule.IsClearIn, SettingRule.compared, not_isUndefined_whole]
    · exact isWeighedBy_of_requireAtLeast htests

end Section

/-! ## Loading -/

/-- Whether a failure is one of configuration, that of a variable included. -/
def Failure.IsOfConfiguration : Failure → Prop
  | configuration _ _ | invalidSetting _ _ _ => True
  | _ => False

theorem Failure.isOfConfiguration_ofConfig (fault : ConfigFault) :
    (ofConfig fault).IsOfConfiguration := by
  cases fault <;> trivial

namespace Config

/-- The sections of a loaded configuration have passed their checks. -/
theorem exists_checked_of_load {s : ConfigSources} {c : Config} (h : load s = .ok c) :
    (∃ t, Section.checkThresholds t = .ok c.thresholds) ∧
      (∃ t, Section.checkGateway t = .ok c.gateway) ∧
      ∃ t, Section.checkGeneral t = .ok c.general := by
  obtain ⟨merged, -, h⟩ := exists_of_bind_eq_ok h
  obtain ⟨_, -, h⟩ := exists_of_bind_eq_ok h
  obtain ⟨thresholds, hthresholds, h⟩ := exists_of_bind_eq_ok h
  obtain ⟨_, -, h⟩ := exists_of_bind_eq_ok h
  obtain ⟨gateway, hgateway, h⟩ := exists_of_bind_eq_ok h
  obtain ⟨general, hgeneral, h⟩ := exists_of_bind_eq_ok h
  obtain rfl := Except.ok.inj h
  obtain ⟨filledThresholds, -, hthresholds⟩ := exists_of_bind_eq_ok (eq_ok_of_mapError hthresholds)
  obtain ⟨filledGateway, -, hgateway⟩ := exists_of_bind_eq_ok (eq_ok_of_mapError hgateway)
  obtain ⟨filledGeneral, -, hgeneral⟩ := exists_of_bind_eq_ok (eq_ok_of_mapError hgeneral)
  exact ⟨⟨_, hthresholds⟩, ⟨_, hgateway⟩, ⟨_, hgeneral⟩⟩

/-- Whatever files, variables and a caller set, loading fails with a fault of configuration, or gives
a configuration that keeps each rule of its sections exactly if everything that the rule compares
is a number. The order of the densities it keeps in any case. -/
theorem load_keeps_rules (s : ConfigSources) :
    (∃ fault, load s = .error fault ∧ (Failure.ofConfig fault).IsOfConfiguration) ∨
    ∃ c, load s = .ok c ∧
      (∀ rule ∈ Section.thresholdRules, rule.IsKeptBy c.thresholds ↔ rule.IsClearIn c.thresholds) ∧
      (∀ rule ∈ Section.gatewayRules, rule.IsKeptBy c.gateway ↔ rule.IsClearIn c.gateway) ∧
      (∀ rule ∈ Section.generalRules c.general,
        rule.IsKeptBy c.general ↔ rule.IsClearIn c.general) ∧
      SettingRule.densityOrder.IsKeptBy c.thresholds := by
  cases hload : load s with
  | error fault => exact .inl ⟨fault, rfl, Failure.isOfConfiguration_ofConfig fault⟩
  | ok c =>
    obtain ⟨⟨_, hthresholds⟩, ⟨_, hgateway⟩, ⟨_, hgeneral⟩⟩ := exists_checked_of_load hload
    obtain ⟨hrules, hdensities⟩ := Section.isKeptBy_of_checkThresholds hthresholds
    exact .inr ⟨c, rfl, hrules, Section.isKeptBy_of_checkGateway hgateway,
      Section.isKeptBy_of_checkGeneral hgeneral, hdensities⟩

/-- A variable that gives the service a time that is no number. -/
def undefinedTimeout : ConfigSources where
  environment := [("CODELENS_GATEWAY_TIMEOUT_SECONDS", "nan")]

/-- Not every loaded configuration keeps its rules: a time that is no number is let through. -/
theorem undefined_timeout_passes : ¬ ∀ s : ConfigSources,
    (∃ fault, load s = .error fault ∧ (Failure.ofConfig fault).IsOfConfiguration) ∨
    ∃ c, load s = .ok c ∧
      (∀ rule ∈ Section.thresholdRules, rule.IsKeptBy c.thresholds) ∧
      (∀ rule ∈ Section.gatewayRules, rule.IsKeptBy c.gateway) ∧
      ∀ rule ∈ Section.generalRules c.general, rule.IsKeptBy c.general := by
  intro hkept
  have hloaded : ((load undefinedTimeout).toOption.map fun c =>
      (c.gateway.valueOf "timeout_seconds").quantity?) = some (some .undefined) := by
    decide +kernel
  rcases hkept undefinedTimeout with ⟨fault, hfault, -⟩ | ⟨c, hc, -, hgateway, -⟩
  · rw [hfault] at hloaded
    cases hloaded
  · rw [hc] at hloaded
    have hundefined := Value.quantity?_eq_undefined_iff.mp (Option.some.inj hloaded)
    have hpositive := hgateway .positiveTimeout List.mem_cons_self
    exact (Value.Below.defined hpositive).2 hundefined

end Config
end SourceAudit
