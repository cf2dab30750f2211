/-!
  What can be wrong with settings, and how it is said.
-/
namespace SourceAudit

/-- The rules that settings have to keep. -/
inductive SettingRule where
  | atLeast (name : String) (least : Nat)
  | notBelow (name other : String)
  | densityOrder
  | positiveTimeout
  | urlNeeded
  | nonNegativeAge
  deriving DecidableEq, Repr

/-- The sentence that reports a broken rule. -/
def SettingRule.message : SettingRule → String
  | atLeast name least => name ++ " must be at least " ++ toString least
  | notBelow name other => name ++ " must be >= " ++ other
  | densityOrder => "comment density thresholds must satisfy 0 <= fail <= warn <= 100"
  | positiveTimeout => "gateway timeout_seconds must be positive"
  | urlNeeded => "gateway url is required when the gateway is enabled"
  | nonNegativeAge => "cache_ttl_seconds must be non-negative"

/-- Why settings are refused, or are of no use later: a name that the section does not have, or
that is taken before any setting is given, a value of a kind that does not fit, or a broken
rule. -/
inductive SettingFault where
  | unknownName (title name : String)
  | takenName (title name : String)
  | notIterable (kind : String)
  | notComparable (sign left right : String)
  | notCount (kind : String)
  | notEnd
  | broken (rule : SettingRule)
  deriving DecidableEq, Repr

/-- The sentence that reports a fault. -/
def SettingFault.message : SettingFault → String
  | unknownName title name =>
    title ++ ".__init__() got an unexpected keyword argument '" ++ name ++ "'"
  | takenName title name =>
    title ++ ".__init__() got multiple values for argument '" ++ name ++ "'"
  | notIterable kind => "'" ++ kind ++ "' object is not iterable"
  | notComparable sign left right =>
    "'" ++ sign ++ "' not supported between instances of '" ++ left ++ "' and '" ++ right ++ "'"
  | notCount kind => "'" ++ kind ++ "' object cannot be interpreted as an integer"
  | notEnd => "slice indices must be integers or None or have an __index__ method"
  | broken rule => rule.message

/-- Why a configuration cannot be loaded. -/
inductive ConfigFault where
  | fileMissing (path : String)
  | invalidFile (label path : String)
  | sectionNotTable (name : String)
  | invalidSection (name : String) (fault : SettingFault)
  | invalid (fault : SettingFault)
  | invalidVariable (name value reason : String)
  deriving DecidableEq, Repr

/-- The sentence that reports why a configuration cannot be loaded. -/
def ConfigFault.message : ConfigFault → String
  | fileMissing path => "Config file not found: " ++ path
  | invalidFile label path => "Invalid " ++ label ++ " '" ++ path ++ "': "
  | sectionNotTable name => "Invalid [" ++ name ++ "] config: expected a table"
  | invalidSection name fault => "Invalid [" ++ name ++ "] config: " ++ fault.message
  | invalid fault => "Invalid configuration: " ++ fault.message
  | invalidVariable name value _ => "Invalid configuration for " ++ name ++ ": " ++ value

end SourceAudit
