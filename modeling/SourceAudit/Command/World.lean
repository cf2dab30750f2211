import SourceAudit.Analyzer.Run
import SourceAudit.File.Expansion
import SourceAudit.File.Source

/-!
  What commands work in: files, variables, a server, and the caches that earlier
  commands left. Reading a source and building an analyzer can run into trouble
  of their own.
-/
namespace SourceAudit
namespace Command

/-- What can stop a command. -/
inductive Trouble where
  | failure (f : Failure)
  | unexpected (message : String)
  | interrupted

/-- What commands work in. -/
structure World where
  files : Files
  home : String
  directory : String
  environment : List (String × String) := []
  server : Remote.Server := fun _ => .broken "no connection"
  now : Rat := 0
  volume : Nat := 0
  reading : Option Trouble := none
  building : Option Trouble := none

/-- The file of settings at a path, if anything stands there. -/
def Files.settings? (files : Files) (label path : String) : Option ConfigFile :=
  let status := files path
  if status.exists? then
    let text := match status.bytes with
      | .ok bytes => Utf8.decode? bytes
      | .error _ => none
    some ⟨label, path, text⟩
  else none

/-- The entries of caches by directory. -/
abbrev Caches := List (String × Store AnalysisResult)

namespace World

/-- Where the settings of a command come from. -/
def sources (w : World) (requested : Option String) (overrides : Settings) : ConfigSources where
  files := (Files.settings? w.files "global config" (w.home ++ "/.codelens.toml")).toList ++
    (Files.settings? w.files "project config" (w.directory ++ "/codelens.toml")).toList
  requested := requested.map fun path =>
    (Files.shown path, Files.settings? w.files "config file" (Files.shown path))
  environment := w.environment
  overrides := overrides

/-- The configuration of a command. -/
def config (w : World) (requested : Option String) (overrides : Settings) : Except Trouble Config :=
  (Config.load (w.sources requested overrides)).mapError fun e => .failure (.ofConfig e)

/-- The source at a path. -/
def source (w : World) (path : String) : Except Trouble Text :=
  match w.reading with
  | some trouble => .error trouble
  | none => (w.files.source path).mapError fun
    | .unnameable => .unexpected Files.Fault.unnameable.message
    | .unreadable path reason => .failure (.fileAccess path reason)

/-- The analyzer of a configuration. -/
def analyzer (w : World) (c : Config) : Except Trouble Analyzer :=
  match w.building with
  | some trouble => .error trouble
  | none => (Analyzer.ofConfig? c w.server).mapError fun e => .failure (.unknownLanguage e)

/-- The value of a variable. -/
def valueOf? (w : World) (name : Text) : Option Text :=
  ((w.environment ++ [("HOME", w.home)]).lookup (String.ofList name)).map String.toList

/-- The directory of a configuration's cache, if one is named: a tilde and variables in the name
stand for what they name. -/
def cacheDirectory? (w : World) (c : Config) : Option String :=
  c.cacheDirectory.map fun d =>
    String.ofList (FileName.withVariables w.valueOf? (FileName.withHome w.home.toList d.toList))

/-- Whether a cache can be kept in a directory. -/
def canKeep (w : World) (directory : String) : Bool :=
  FileName.isPath directory &&
    match w.files directory with
    | .directory => true
    | .missing => !directory.isEmpty
    | .file _ | .behindFile | .nameTooLong => false

/-- The cache of a configuration, with what earlier commands left in it. -/
def cache (w : World) (caches : Caches) (c : Config) (salt : String) : Cache AnalysisResult :=
  let directory := w.cacheDirectory? c
  let store := (directory.bind fun d => caches.lookup (Files.shown d)).getD []
  let usable := c.cacheEnabled && (directory.map w.canKeep).getD true
  { Analyzer.cacheFor c salt store with disk := if usable then .working else .absent }

end World

namespace Caches

/-- The caches after a command has used one that is kept in some directory. -/
def keep (caches : Caches) (directory : Option String) (used : Cache AnalysisResult) : Caches :=
  match directory with
  | none => caches
  | some d =>
    let key := Files.shown d
    (key, used.store) :: caches.filter fun e => e.1 != key

end Caches
end Command
end SourceAudit
