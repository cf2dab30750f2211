import SourceAudit.Config.Environment
import SourceAudit.Config.Thresholds
import SourceAudit.Document.Toml.Reader

/-!
  A configuration and where it comes from. The sources are laid over one
  another in this order: the file of the user, the file of the project, the file
  asked for, environment variables, and what the caller sets. What no source
  sets is as usual.
-/
namespace SourceAudit

/-- A configuration, by section. -/
structure Config where
  general : Settings
  thresholds : Settings
  gateway : Settings

/-- A file of settings: what it is called in messages, its path, and its text, or nothing if it
cannot be read. -/
structure ConfigFile where
  label : String
  path : String
  text : Option Text

/-- Where the settings of a configuration come from. A file that was asked for has to exist. -/
structure ConfigSources where
  files : List ConfigFile := []
  requested : Option (String × Option ConfigFile) := none
  environment : List (String × String) := []
  overrides : Settings := []

namespace ConfigFile

/-- The settings of a file. -/
def settings (f : ConfigFile) : Except ConfigFault Settings :=
  match f.text.bind Toml.read? with
  | some s => .ok s
  | none => .error (.invalidFile f.label f.path)

end ConfigFile

namespace Settings

/-- The settings with a loudness for a flag, if the flag is there and set; the flag itself goes. -/
def withLoudness (name loudness : String) (s : Settings) : Settings :=
  match Value.find? s name with
  | none => s
  | some v =>
    (if v.isSet then Value.enter s "verbosity" (.text loudness) else s).filter fun e => e.1 != name

/-- What a caller sets, with the flags for loudness turned into the setting. -/
def ofCaller (s : Settings) : Settings :=
  withLoudness "quiet" "quiet" (withLoudness "verbose" "verbose" s)

/-- The settings of a nested section, or nothing if they are not set. -/
def nested? (s : Settings) (name : String) : Except ConfigFault (Option Settings) :=
  match Value.find? s name with
  | none | some .null => .ok none
  | some (.table es) => .ok (some es)
  | some _ => .error (.sectionNotTable name)

/-- The settings that are in no nested section. -/
def top (s : Settings) : Settings := s.filter fun e => !nested.contains e.1

end Settings

namespace Config

/-- The configuration with everything as usual. -/
def usual : Config where
  general := Section.general.fields.map fun f => (f.name, f.usual)
  thresholds := Section.thresholds.fields.map fun f => (f.name, f.usual)
  gateway := Section.gateway.fields.map fun f => (f.name, f.usual)

/-- A configuration from the settings of its sections. -/
def make? (general thresholds gateway : Settings) : Except SettingFault Config := do
  let thresholds ← thresholds.thresholds?
  let gateway ← gateway.gateway?
  let general ← general.general?
  return ⟨general, thresholds, gateway⟩

/-- The settings of all sources, laid over one another. -/
def layered (s : ConfigSources) : Except ConfigFault Settings := do
  let found ← s.files.mapM ConfigFile.settings
  let requested ← match s.requested with
    | none => pure []
    | some (path, none) => throw (.fileMissing path)
    | some (_, some f) => f.settings
  let environment ← Environment.settings s.environment
  return (found ++ [requested, environment, s.overrides.ofCaller]).foldl Settings.merge []

/-- The configuration that settings give. -/
def ofSettings (s : Settings) : Except ConfigFault Config := do
  let thresholds ← s.nested? "thresholds"
  let thresholds ← ((thresholds.getD []).thresholds?).mapError (.invalidSection "thresholds")
  let gateway ← s.nested? "gateway"
  let gateway ← ((gateway.getD []).gateway?).mapError (.invalidSection "gateway")
  let general ← (s.top.general?).mapError .invalid
  return ⟨general, thresholds, gateway⟩

/-- The configuration that sources give. -/
def load (s : ConfigSources) : Except ConfigFault Config := layered s >>= ofSettings

/-- A number of the thresholds; what is no number compares with nothing. -/
def threshold (c : Config) (name : String) : Quantity :=
  ((c.thresholds.valueOf name).quantity?).getD .undefined

/-- The thresholds as the detectors use them. -/
def detectorThresholds (c : Config) : Thresholds where
  cyclomaticWarn := c.threshold "cyclomatic_warn"
  cyclomaticFail := c.threshold "cyclomatic_fail"
  functionLengthWarn := c.threshold "function_length_warn"
  functionLengthFail := c.threshold "function_length_fail"
  nestingWarn := c.threshold "nesting_warn"
  nestingFail := c.threshold "nesting_fail"
  commentDensityWarn := c.threshold "comment_density_warn_pct"
  commentDensityFail := c.threshold "comment_density_fail_pct"
  commentDensityMinLines := (c.thresholds.valueOf "comment_density_min_lines").bound
  duplicateWindow := c.threshold "duplicate_window"
  duplicateRows :=
    let window := c.thresholds.valueOf "duplicate_window"
    window.count (.notCount window.kindName)
  duplicateMinChars := (c.thresholds.valueOf "duplicate_min_chars").bound
  exemptNumbers := match c.thresholds.valueOf "magic_number_exemptions" with
    | .list vs => vs.map Value.shown
    | _ => []
  maxRiskyLines := (c.thresholds.valueOf "max_risky_lines").count .notEnd
  errorHandlingMinChars := (c.thresholds.valueOf "error_handling_min_chars").bound

/-- Whether results are kept. -/
def cacheEnabled (c : Config) : Bool := (c.general.valueOf "cache_enabled").isSet

/-- The directory of the cache, if one is named. -/
def cacheDirectory (c : Config) : Option String :=
  match c.general.valueOf "cache_dir" with
  | .null => none
  | v => some v.shown

/-- The greatest number of test cases, or nothing if there is none. -/
def testCaseLimit (c : Config) : Except SettingFault (Option Int) :=
  (c.general.valueOf "max_test_cases").cut

/-- The language named where none is recognised. -/
def fallbackLanguage (c : Config) : String :=
  match c.general.valueOf "default_language" with
  | .text s => s
  | v => v.shown

/-- Whether the service is used: it is enabled and has an address. -/
def gatewayActive (gateway : Settings) : Bool :=
  (gateway.valueOf "enabled").isSet && (gateway.valueOf "url").isSet

/-- Whether the service is used, as a value: what disables it if it is disabled. -/
def gatewayActivity (gateway : Settings) : Value :=
  if (gateway.valueOf "enabled").isSet then .flag (gateway.valueOf "url").isSet
  else gateway.valueOf "enabled"

end Config
end SourceAudit
