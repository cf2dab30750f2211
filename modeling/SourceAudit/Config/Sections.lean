import SourceAudit.Config.Settings

/-!
  The sections of a configuration: the thresholds of the detectors, the
  enrichment service, and the analysis itself; with the rules that each of them
  has to keep, checked in order.
-/
namespace SourceAudit
namespace Section

/-- The thresholds of the detectors. -/
def thresholds : Section where
  title := "ThresholdConfig"
  fields := [
    ⟨"cyclomatic_warn", .whole 10, .whole⟩,
    ⟨"cyclomatic_fail", .whole 15, .whole⟩,
    ⟨"function_length_warn", .whole 25, .whole⟩,
    ⟨"function_length_fail", .whole 40, .whole⟩,
    ⟨"nesting_warn", .whole 4, .whole⟩,
    ⟨"nesting_fail", .whole 6, .whole⟩,
    ⟨"comment_density_warn_pct", .fraction 10, .fraction⟩,
    ⟨"comment_density_fail_pct", .fraction 5, .fraction⟩,
    ⟨"comment_density_min_lines", .whole 20, .whole⟩,
    ⟨"duplicate_window", .whole 3, .whole⟩,
    ⟨"duplicate_min_chars", .whole 20, .whole⟩,
    ⟨"magic_number_exemptions",
      .list [.whole 0, .whole 1, .whole 2, .whole 10, .whole 100, .whole 1000], .wholes⟩,
    ⟨"max_risky_lines", .whole 3, .whole⟩,
    ⟨"error_handling_min_chars", .whole 100, .whole⟩]

/-- The enrichment service. -/
def gateway : Section where
  title := "GatewayConfig"
  fields := [
    ⟨"enabled", .flag false, .flag⟩,
    ⟨"url", .text "", .text⟩,
    ⟨"timeout_seconds", .fraction 10, .fraction⟩,
    ⟨"api_key", .null, .text⟩]

/-- The analysis, without the nested sections. -/
def general : Section where
  title := "AnalysisConfig"
  fields := [
    ⟨"default_language", .text "javascript", .text⟩,
    ⟨"verbosity", .text "normal", .text⟩,
    ⟨"parallel_detectors", .flag true, .flag⟩,
    ⟨"workers", .null, .whole⟩,
    ⟨"cache_enabled", .flag true, .flag⟩,
    ⟨"cache_dir", .null, .text⟩,
    ⟨"cache_max_entries", .whole 100, .whole⟩,
    ⟨"cache_ttl_seconds", .whole 300, .whole⟩,
    ⟨"max_test_cases", .whole 10, .whole⟩]

/-- The pairs of thresholds of which the second must not be below the first. -/
def thresholdPairs : List (String × String) :=
  [("cyclomatic_warn", "cyclomatic_fail"), ("function_length_warn", "function_length_fail"),
   ("nesting_warn", "nesting_fail")]

/-- The rules for a pair of thresholds. -/
def checkPair (s : Settings) (pair : String × String) : Except SettingFault Unit := do
  requireAtLeast s pair.1 1
  require (!(← (s.valueOf pair.2).isBelow (s.valueOf pair.1))) (.notBelow pair.2 pair.1)

/-- Whether the numbers rise, from the first pair on; later pairs are not looked at once one falls. -/
def rising : List Value → Except SettingFault Bool
  | a :: b :: rest => do
    if ← a.isAtMost b then rising (b :: rest) else return false
  | _ => return true

/-- The thresholds with their list of numbers made a list, if they keep the rules. -/
def checkThresholds (s : Settings) : Except SettingFault Settings := do
  let exempt ← (s.valueOf "magic_number_exemptions").items?
  let s : Settings := Value.enter s "magic_number_exemptions" (.list exempt)
  thresholdPairs.forM (checkPair s)
  let ordered ← rising [.fraction 0, s.valueOf "comment_density_fail_pct",
    s.valueOf "comment_density_warn_pct", .fraction 100]
  require ordered .densityOrder
  requireAtLeast s "duplicate_window" 2
  requireAtLeast s "max_risky_lines" 1
  return s

/-- The settings of the service, if they keep the rules. -/
def checkGateway (s : Settings) : Except SettingFault Settings := do
  require (!(← (s.valueOf "timeout_seconds").isAtMost (.whole 0))) .positiveTimeout
  require (!(s.valueOf "enabled").isSet || (s.valueOf "url").isSet) .urlNeeded
  return s

/-- Whether a setting is given. -/
def isGiven (v : Value) : Bool :=
  match v with
  | .null => false
  | _ => true

/-- The settings of the analysis, if they keep the rules. -/
def checkGeneral (s : Settings) : Except SettingFault Settings := do
  if isGiven (s.valueOf "workers") then requireAtLeast s "workers" 1
  requireAtLeast s "cache_max_entries" 1
  require (!(← (s.valueOf "cache_ttl_seconds").isBelow (.whole 0))) .nonNegativeAge
  requireAtLeast s "max_test_cases" 1
  return s

end Section

namespace Settings

/-- The thresholds that settings give. -/
def thresholds? (given : Settings) : Except SettingFault Settings :=
  Section.thresholds.fill given >>= Section.checkThresholds

/-- The settings of the service that settings give. -/
def gateway? (given : Settings) : Except SettingFault Settings :=
  Section.gateway.fill given >>= Section.checkGateway

/-- The settings of the analysis that settings give. -/
def general? (given : Settings) : Except SettingFault Settings :=
  Section.general.fill given >>= Section.checkGeneral

end Settings
end SourceAudit
