import SourceAudit.Config.Basic
import SourceAudit.Proofs.Detector.ThresholdEffect
import SourceAudit.Proofs.Digest.Fingerprint
import SourceAudit.Proofs.Document.KeyedTables

/-!
  What is told of a configuration by the canonical form of its settings.

  What is proved:
    1. `names_thresholds` — thresholds that pass their checks have the names of the
       section, each once, so the values under a name can be compared (`normal_valueOf`).
    2. `detectorThresholds_alike` — thresholds that are told alike are the same to the
       detectors.
    3. `cut_normal`, `gatewayActive_iff` — the number of test cases is told, and so is
       whether the service is used.
-/
namespace SourceAudit

theorem exists_of_bind_eq_ok {ε α β : Type} {x : Except ε α} {f : α → Except ε β} {b : β}
    (h : x >>= f = .ok b) : ∃ a, x = .ok a ∧ f a = .ok b := by
  cases x with
  | error e => cases h
  | ok a => exact ⟨a, rfl, h⟩

namespace Value

/-- Entering a value whose reals the number format has. -/
theorem IsProper.enter {entries : List (String × Value)} {v : Value}
    (h : (Value.table entries).IsProper) (name : String) (hv : v.IsProper) :
    (Value.table (Value.enter entries name v)).IsProper := by
  cases h with | table h =>
  refine .table fun e he => ?_
  rcases Value.mem_enter he with hold | rfl
  · exact h e hold
  · exact hv

end Value

namespace Section

theorem names_of_fill {s : Section} {given settings : Settings}
    (h : s.fill given = .ok settings) : settings.map (·.1) = s.fields.map (·.name) := by
  unfold fill at h
  split at h
  · cases h
  · obtain rfl := Except.ok.inj h
    rw [List.map_map]
    rfl

/-- The checks change nothing but the kind of the value that holds the exempt numbers. -/
theorem exists_of_checkThresholds {s t : Settings} (h : checkThresholds s = .ok t) :
    ∃ exempt, (s.valueOf "magic_number_exemptions").items? = .ok exempt ∧
      t = Value.enter s "magic_number_exemptions" (.list exempt) := by
  unfold checkThresholds at h
  obtain ⟨exempt, hexempt, h⟩ := exists_of_bind_eq_ok h
  obtain ⟨-, -, h⟩ := exists_of_bind_eq_ok h
  obtain ⟨ordered, -, h⟩ := exists_of_bind_eq_ok h
  obtain ⟨-, -, h⟩ := exists_of_bind_eq_ok h
  obtain ⟨-, -, h⟩ := exists_of_bind_eq_ok h
  obtain ⟨-, -, h⟩ := exists_of_bind_eq_ok h
  exact ⟨exempt, hexempt, (Except.ok.inj h).symm⟩

end Section

namespace Settings

theorem names_of_thresholds? {given s : Settings} (h : given.thresholds? = .ok s) :
    s.map (·.1) = Section.thresholds.fields.map (·.name) := by
  obtain ⟨filled, hfilled, hchecked⟩ := exists_of_bind_eq_ok h
  have hnames := Section.names_of_fill hfilled
  obtain ⟨exempt, -, rfl⟩ := Section.exists_of_checkThresholds hchecked
  rw [Value.names_enter, hnames]
  rw [hnames]
  decide

/-- Settings that are told alike have values told alike under every name. -/
theorem normal_valueOf {s t : Settings} (hs : (s.map (·.1)).Nodup) (ht : (t.map (·.1)).Nodup)
    (h : Value.normal (.table s) = Value.normal (.table t)) (name : String) :
    (s.valueOf name).normal = (t.valueOf name).normal := by
  have hfind := Value.normal_find? hs ht h name
  unfold valueOf
  cases hsv : Value.find? s name <;> cases htv : Value.find? t name <;>
    simp only [hsv, htv, Option.map_some, Option.map_none, Option.some.injEq, reduceCtorEq] at hfind
  · rfl
  · exact hfind

theorem isProper_valueOf {s : Settings} (h : (Value.table s).IsProper) (name : String) :
    (s.valueOf name).IsProper := by
  cases h with | table h =>
  unfold valueOf
  cases hv : Value.find? s name with
  | none => exact .null
  | some v => exact h _ (Value.mem_of_find? hv)

end Settings

namespace Value

theorem toOption_bound (v : Value) : v.bound.toOption = v.quantity? := by
  unfold bound
  split <;> simp_all [Except.toOption]

theorem toOption_count (v : Value) (fault : SettingFault) :
    (v.count fault).toOption = v.whole? := by
  unfold count
  split <;> simp_all [Except.toOption]

/-- Where a list is cut off is told, and so is the fault if it cannot be. -/
theorem cut_normal (v : Value) : v.normal.cut = v.cut := by
  cases v <;> rfl

theorem exists_of_normal_list {v : Value} {items : List Value} (h : v.normal = normal (.list items)) :
    ∃ others, v = .list others ∧ others.map normal = items.map normal := by
  rw [normal_list] at h
  cases v with
  | list others =>
    rw [normal_list] at h
    exact ⟨others, rfl, Value.list.inj h⟩
  | _ => cases h

end Value

namespace Config

/-- A configuration whose reals are such as the number format has. -/
structure IsProper (c : Config) : Prop where
  general : (Value.table c.general).IsProper
  thresholds : (Value.table c.thresholds).IsProper
  gateway : (Value.table c.gateway).IsProper

/-- The usual configuration is such. -/
theorem isProper_usual : usual.IsProper := by
  have hfields {fields : List Setting} (h : ∀ f ∈ fields, f.usual.IsProper) :
      (Value.table (fields.map fun f => (f.name, f.usual))).IsProper := by
    refine .table fun e he => ?_
    obtain ⟨f, hf, rfl⟩ := List.mem_map.mp he
    exact h f hf
  have hten : (Value.fraction 10).IsProper := .real (by unfold Quantity.IsProper; decide +kernel)
  have hfive : (Value.fraction 5).IsProper := .real (by unfold Quantity.IsProper; decide +kernel)
  have hexempt :
      (Value.list [.whole 0, .whole 1, .whole 2, .whole 10, .whole 100, .whole 1000]).IsProper :=
    .list (by simp [Value.IsProper.whole])
  exact {
    general := hfields (by simp [Section.general, Value.IsProper.whole, Value.IsProper.flag,
      Value.IsProper.text, Value.IsProper.null])
    thresholds := hfields (by simp [Section.thresholds, hten, hfive, hexempt,
      Value.IsProper.whole])
    gateway := hfields (by simp [Section.gateway, hten, Value.IsProper.flag, Value.IsProper.text,
      Value.IsProper.null]) }

theorem names_thresholds {general thresholds gateway : Settings} {c : Config}
    (h : make? general thresholds gateway = .ok c) :
    c.thresholds.map (·.1) = Section.thresholds.fields.map (·.name) := by
  obtain ⟨checked, hchecked, h⟩ := exists_of_bind_eq_ok h
  obtain ⟨_, -, h⟩ := exists_of_bind_eq_ok h
  obtain ⟨_, -, h⟩ := exists_of_bind_eq_ok h
  obtain rfl := Except.ok.inj h
  exact Settings.names_of_thresholds? hchecked

theorem nodup_names_thresholds {general thresholds gateway : Settings} {c : Config}
    (h : make? general thresholds gateway = .ok c) : (c.thresholds.map (·.1)).Nodup := by
  rw [names_thresholds h]
  decide

variable {c d : Config}

/-- An exempt text made of digits is told. -/
theorem mem_exemptNumbers (h : ∀ name, (c.thresholds.valueOf name).normal =
      (d.thresholds.valueOf name).normal) {s : String}
    (hdigits : ∀ x ∈ s.toList, Unicode.isDigit x = true)
    (hs : s ∈ c.detectorThresholds.exemptNumbers) : s ∈ d.detectorThresholds.exemptNumbers := by
  have htold := (h "magic_number_exemptions").symm
  dsimp only [detectorThresholds] at hs ⊢
  split at hs
  · rename_i items hitems
    rw [hitems] at htold
    obtain ⟨others, hothers, hsame⟩ := Value.exists_of_normal_list htold
    obtain ⟨v, hv, rfl⟩ := List.mem_map.mp hs
    have hmem : v.normal ∈ others.map Value.normal := by
      rw [hsame]
      exact List.mem_map_of_mem hv
    obtain ⟨w, hw, hvw⟩ := List.mem_map.mp hmem
    rw [hothers]
    exact List.mem_map.mpr ⟨w, hw, Value.shown_of_normal hdigits hvw.symm⟩
  · cases hs

/-- Thresholds that are told alike are the same to the detectors. -/
theorem detectorThresholds_alike (h : ∀ name, (c.thresholds.valueOf name).normal =
      (d.thresholds.valueOf name).normal) :
    c.detectorThresholds.Alike d.detectorThresholds := by
  have hquantity (name : String) :
      (c.thresholds.valueOf name).quantity? = (d.thresholds.valueOf name).quantity? := by
    rw [← Value.quantity?_normal, h, Value.quantity?_normal]
  have hwhole (name : String) :
      (c.thresholds.valueOf name).whole? = (d.thresholds.valueOf name).whole? := by
    rw [← Value.whole?_normal, h, Value.whole?_normal]
  have hthreshold (name : String) : c.threshold name = d.threshold name := by
    rw [threshold, threshold, hquantity]
  have hbound (name : String) : (c.thresholds.valueOf name).bound.toOption =
      (d.thresholds.valueOf name).bound.toOption := by
    rw [Value.toOption_bound, Value.toOption_bound, hquantity]
  have hcount (name : String) (fault other : SettingFault) :
      ((c.thresholds.valueOf name).count fault).toOption =
        ((d.thresholds.valueOf name).count other).toOption := by
    rw [Value.toOption_count, Value.toOption_count, hwhole]
  exact {
    functionLengthWarn := hthreshold _
    functionLengthFail := hthreshold _
    nestingWarn := hthreshold _
    commentDensityFail := hthreshold _
    commentDensityMinLines := hbound _
    duplicateWindow := hthreshold _
    duplicateRows := hcount _ _ _
    duplicateMinChars := hbound _
    exemptNumbers := fun _ _ hdigits =>
      ⟨mem_exemptNumbers h hdigits, mem_exemptNumbers (fun name => (h name).symm) hdigits⟩
    maxRiskyLines := hcount _ _ _
    errorHandlingMinChars := hbound _ }

/-- Whether the service is used is told by what stands for it in the salt. -/
theorem gatewayActive_iff (gateway : Settings) :
    gatewayActive gateway = true ↔ (gatewayActivity gateway).normal = .flag true := by
  unfold gatewayActive gatewayActivity
  cases hset : (gateway.valueOf "enabled").isSet with
  | true =>
    rw [Bool.true_and, if_pos rfl]
    exact ⟨congrArg Value.flag, Value.flag.inj⟩
  | false =>
    rw [Bool.false_and, if_neg Bool.false_ne_true]
    constructor
    · exact fun h => nomatch h
    · intro h
      cases henabled : gateway.valueOf "enabled" with
      | flag b =>
        rw [henabled] at h hset
        cases h
        cases hset
      | _ => rw [henabled] at h; cases h

end Config
end SourceAudit
