import SourceAudit.Command.Arguments
import SourceAudit.Report.Basic
import SourceAudit.Text.Basic

/-!
  What a command line asks for. Choices are understood in any case. A question
  for help or for the version wins over everything else that is asked.
-/
namespace SourceAudit
namespace Command

/-- How a file is to be analysed. -/
structure AnalyzeOptions where
  file : String
  language : Option String := none
  format : ReportFormat := .console
  noGateway : Bool := false
  noCache : Bool := false
  config : Option String := none
  verbose : Bool := false
  quiet : Bool := false
  failOn : Option FailOn := none
  deriving DecidableEq, Repr

/-- What a command line asks for. -/
inductive Invocation where
  | help
  | version
  | analyze (options : AnalyzeOptions)
  | detect (file : String)
  | cacheInfo (config : Option String)
  | cacheClear (config : Option String)
  deriving DecidableEq, Repr

/-- The question for help. -/
def helpForm : OptionForm := ⟨"help", ["--help"], false⟩

/-- The options before a command. -/
def generalForms : List OptionForm := [helpForm, ⟨"version", ["--version"], false⟩]

/-- The option for a file of settings. -/
def configForm : OptionForm := ⟨"config", ["-c", "--config"], true⟩

/-- The options of an analysis. -/
def analyzeForms : List OptionForm := [
  helpForm, configForm,
  ⟨"language", ["--language", "-l"], true⟩,
  ⟨"format", ["--format", "-f"], true⟩,
  ⟨"no-gateway", ["--no-gateway"], false⟩,
  ⟨"no-cache", ["--no-cache"], false⟩,
  ⟨"verbose", ["--verbose", "-v"], false⟩,
  ⟨"quiet", ["--quiet", "-q"], false⟩,
  ⟨"fail-on", ["--fail-on"], true⟩]

/-- A choice in small letters. -/
def folded (s : String) : String :=
  String.ofList ((Text.lower s.toList).map fun c => if c == Char.ofNat 0x17f then 's' else c)

/-- The choice that an option makes, or the usual one. -/
def choice {α : Type} (a : Arguments) (key : String) (ofName? : String → Option α) (usual : α) :
    Except UsageFault α :=
  match a.value? key with
  | none => .ok usual
  | some s =>
    match ofName? (folded s) with
    | some x => .ok x
    | none => .error (.badChoice s)

/-- The one argument beside the options. -/
def onlyOther : List String → Except UsageFault String
  | [] => .error .argumentMissing
  | [x] => .ok x
  | _ :: x :: _ => .error (.argumentLeft x)

/-- No argument beside the options. -/
def noOther : List String → Except UsageFault Unit
  | [] => .ok ()
  | x :: _ => .error (.argumentLeft x)

namespace Invocation

/-- An analysis with options. -/
def ofAnalyze (a : Arguments) : Except UsageFault Invocation := do
  let file ← onlyOther a.others
  let format ← choice a "format" ReportFormat.ofName? .console
  let failOn ← choice a "fail-on" (fun s => (FailOn.ofName? s).map some) none
  return .analyze {
    file := file
    language := a.value? "language"
    format := format
    noGateway := a.has "no-gateway"
    noCache := a.has "no-cache"
    config := a.value? "config"
    verbose := a.has "verbose"
    quiet := a.has "quiet"
    failOn := failOn }

/-- A command on a cache. -/
def ofCache (f : Option String → Invocation) (a : Arguments) : Except UsageFault Invocation := do
  noOther a.others
  return f (a.value? "config")

/-- A command: its options and what it asks for. -/
def commands : List (String × List OptionForm × (Arguments → Except UsageFault Invocation)) := [
  ("analyze", analyzeForms, ofAnalyze),
  ("detect", [helpForm], fun a => (onlyOther a.others).map detect),
  ("cache-info", [helpForm, configForm], ofCache cacheInfo),
  ("cache-clear", [helpForm, configForm], ofCache cacheClear)]

/-- What a command with its own arguments asks for. -/
def ofCommand (name : String) (args : List String) : Except UsageFault Invocation := do
  match commands.lookup name with
  | none => throw (.unknownCommand name)
  | some (forms, make) =>
    let a ← readArguments forms true args
    if a.has "help" then return .help else make a

/-- What a command line asks for. -/
def ofArguments (args : List String) : Except UsageFault Invocation := do
  let a ← readArguments generalForms false args
  match a.firstOf? ["help", "version"] with
  | some "version" => return .version
  | some _ => return .help
  | none =>
    match a.others with
    | [] => throw .commandMissing
    | name :: rest => ofCommand name rest

/-- The files that have to exist. -/
def requiredFiles : Invocation → List String
  | help | version => []
  | analyze o => o.file :: o.config.toList
  | detect file => [file]
  | cacheInfo config | cacheClear config => config.toList

end Invocation
end Command
end SourceAudit
