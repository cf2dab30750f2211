import SourceAudit.Config.Basic
import SourceAudit.Detector.Battery
import SourceAudit.Digest.Fingerprint
import SourceAudit.Language.Classifier
import SourceAudit.Remote.Gateway
import SourceAudit.Result.Basic
import SourceAudit.Store.Cache

/-!
  Analyzers. An analyzer holds what an analysis depends on apart from the source:
  the registry of languages, the detectors, the gateway and the number of test
  cases. Its salt tells results apart that come from different settings.

  A stage of an analysis can fail; which stages do so, and why, belongs to the
  analyzer as well.
-/
namespace SourceAudit

/-- The stages of an analysis that can fail. -/
inductive Stage where
  | resolution
  | classification
  | metrics
  | complexity
  | detectors
  | security
  | gateway
  | tests
  | grammar
  deriving DecidableEq, Repr

/-- An analyzer. -/
structure Analyzer where
  registry : Registry := .builtin
  detectors : List Detector
  gateway : Remote.Gateway
  testCases : Except SettingFault (Option Int)
  salt : String := ""
  fault? : Stage → Option String := fun _ => none

namespace Analyzer

/-- What a salt tells apart: the thresholds, the number of test cases, whether the gateway is
switched on, and the names of the detectors. -/
def saltValue (c : Config) (gateway : Remote.Gateway) (detectors : List Detector) : Value :=
  .table [("thresholds", .table c.thresholds),
    ("max_test_cases", c.general.valueOf "max_test_cases"),
    ("gateway", Config.gatewayActivity gateway.settings),
    ("detectors", .texts (detectors.map (·.name)))]

/-- The analyzer of a configuration, with a gateway and detectors of the caller's choice. -/
def make? (c : Config) (gateway : Remote.Gateway) (detectors : List Detector) :
    Except UnknownLanguage Analyzer :=
  (Registry.make? Language.builtin Language.builtinAliases c.fallbackLanguage).map fun registry =>
    { registry := registry
      detectors := detectors
      gateway := gateway
      testCases := c.testCaseLimit
      salt := (saltValue c gateway detectors).fingerprint }

/-- The analyzer of a configuration whose service is behind a server. -/
def ofConfig? (c : Config) (server : Remote.Server) : Except UnknownLanguage Analyzer :=
  make? c ⟨c.gateway, server⟩ (Detector.battery c.detectorThresholds)

/-- A cache for the results of an analyzer, as the configuration asks for it. -/
def cacheFor (c : Config) (salt : String) (store : Store AnalysisResult) : Cache AnalysisResult where
  limit := c.general.valueOf "cache_max_entries"
  life := c.general.valueOf "cache_ttl_seconds"
  salt := salt
  store := store

/-- An empty cache for the results of an analyzer, if the configuration asks for one. -/
def cache? (a : Analyzer) (c : Config) : Option (Cache AnalysisResult) :=
  if c.cacheEnabled then some (cacheFor c a.salt []) else none

/-- The result of a stage, unless the stage fails. -/
def guarded {α : Type} (a : Analyzer) (stage : Stage) (work : Unit → Option α) : Option α :=
  match a.fault? stage with
  | some _ => none
  | none => work ()

end Analyzer

namespace Detection

/-- A detection that tells nothing but a language and a reason. -/
def unsure (language reason : String) : Detection := ⟨language, 0, [], reason⟩

end Detection

namespace Analyzer

/-- The language of a source by its content and file name. -/
def detect (a : Analyzer) (source : Text) (file : Option String) : Detection :=
  match a.fault? .classification with
  | some reason => .unsure a.registry.fallback ("Detection failed: " ++ reason)
  | none => Classifier.detect a.registry source file

/-- The language of a source: the one declared, if it is known, or else the one detected. -/
def resolve (a : Analyzer) (source : Text) (declared file : Option String) : Detection :=
  match a.fault? .resolution with
  | some reason => .unsure a.registry.fallback reason
  | none =>
    let known := a.registry.resolve declared
    if source.isBlank then .unsure (known.getD a.registry.fallback) "No code provided"
    else
      match known with
      | some language => ⟨language, 100, [], "Language declared by caller"⟩
      | none => a.detect source file

end Analyzer
end SourceAudit
