import SourceAudit.Command.Invocation
import SourceAudit.Command.World

/-!
  Running commands. A command ends with an exit code, a text on standard output,
  and what it printed on the console. Arguments that cannot be understood, or
  name files that do not exist, end with the code two and print nothing here.
-/
namespace SourceAudit
namespace Command

/-- How a command ended. -/
structure Finished where
  exitCode : Nat := 0
  output : String := ""
  console : List ConsoleItem := []
  caches : Caches

/-- The version of the program. -/
def versionNumber : String := "0.1.0"

open Markup ConsoleItem

/-- How a failure is shown. -/
def failureLine (f : Failure) : ConsoleItem := line (styled "red" "Error:" ++ " " ++ f.text)

/-- How an analysis ends that trouble stopped. -/
def stopped (caches : Caches) (verbose : Bool) : Trouble → Finished
  | .failure f => { exitCode := 1, console := [failureLine f], caches := caches }
  | .unexpected message =>
    { exitCode := 1
      console := line (styled "red" "Unexpected error:" ++ " " ++ message) ::
        if verbose then [trace] else []
      caches := caches }
  | .interrupted =>
    { exitCode := 130
      console := [line ("\n" ++ styled "yellow" "Analysis interrupted")]
      caches := caches }

/-- How a command ends that reports failures only. -/
def stoppedPlainly (caches : Caches) : Trouble → Finished
  | .failure f => { exitCode := 1, console := [failureLine f], caches := caches }
  | .unexpected _ => { exitCode := 1, caches := caches }
  | .interrupted => { exitCode := 130, caches := caches }

namespace AnalyzeOptions

/-- The settings that the options make. -/
def overrides (o : AnalyzeOptions) : Settings :=
  (if o.noGateway then [("gateway", .table [("enabled", .flag false)])] else []) ++
    (if o.noCache then [("cache_enabled", .flag false)] else []) ++
    (if o.verbose then [("verbose", .flag true)] else []) ++
    (if o.quiet then [("quiet", .flag true)] else [])

end AnalyzeOptions

/-- Analyses the file of some options. -/
def analysis (w : World) (caches : Caches) (o : AnalyzeOptions) :
    Except Trouble (Analysis × Caches) := do
  let c ← w.config o.config o.overrides
  let source ← w.source o.file
  let a ← w.analyzer c
  let file := String.ofList (FileName.base o.file.toList)
  let (done, used) := a.analyzeAt w.now (some (w.cache caches c a.salt)) source o.language (some file)
  return (done, match used with
    | some cache => if cache.disk == .working then caches.keep (w.cacheDirectory? c) cache else caches
    | none => caches)

/-- The exit code of a result. -/
def exitCodeOf (failOn : Option FailOn) (r : AnalysisResult) : Nat :=
  match failOn with
  | some f => if f.fails r then 1 else 0
  | none => 0

/-- Analyses a file and reports the result. -/
def analyze (w : World) (caches : Caches) (o : AnalyzeOptions) : Finished :=
  match analysis w caches o with
  | .error trouble => stopped caches o.verbose trouble
  | .ok (done, caches) =>
    let r := done.result
    let name := Files.shown o.file
    let code := exitCodeOf o.failOn r
    match o.format with
    | .console => { exitCode := code, console := Console.report r name, caches := caches }
    | .json => { exitCode := code, output := r.jsonText name "" 0 ++ "\n", caches := caches }
    | .markdown => { exitCode := code, output := Markdown.document r name ++ "\n", caches := caches }

/-- What is printed about a detection. -/
def detectionLines (file : String) (d : Detection) : List ConsoleItem :=
  line (styled "bold" file ++ ": " ++ styled "cyan" d.language ++ " (" ++
      styled "yellow" (toString d.confidence ++ "%") ++ ")") ::
    (if d.reason.isEmpty then [] else [line (styled "dim" d.reason)]) ++
    (if d.alternatives.isEmpty then []
    else
      [table (some "Alternatives") ["Language", "Confidence"] (d.alternatives.map fun g =>
        [g.language, toString g.confidence ++ "%"])])

/-- Detects the language of a file. -/
def detect (w : World) (caches : Caches) (file : String) : Finished :=
  match w.source file with
  | .error trouble => stoppedPlainly caches trouble
  | .ok source =>
    let base := String.ofList (FileName.base file.toList)
    { console := detectionLines (Files.shown file) (Classifier.detect .builtin source (some base))
      caches := caches }

/-- What is printed about a cache. -/
def cacheLines (w : World) (c : Config) (cache : Cache AnalysisResult) : List ConsoleItem :=
  [line (styled "bold cyan" "codelens Cache Info"), gap] ++
    if cache.disk == .working then
      [line ("Status: " ++ styled "green" "Enabled"),
        line ("Directory: " ++ styled "blue" ((w.cacheDirectory? c).getD "N/A")),
        line ("Entries: " ++ styled "yellow" (toString cache.size) ++ " / " ++ cache.limit.shown),
        line ("TTL: " ++ styled "yellow" (cache.life.shown ++ "s")),
        line ("Size: " ++ styled "yellow" (toString w.volume ++ " bytes"))]
    else [line ("Status: " ++ styled "red" "Disabled")]

/-- Uses the cache of a configuration. -/
def withCache (w : World) (caches : Caches) (requested : Option String)
    (use : Config → Cache AnalysisResult → Finished) : Finished :=
  match w.config requested [] with
  | .error trouble => stoppedPlainly caches trouble
  | .ok c => use c (w.cache caches c "")

/-- Shows the state of a cache. -/
def cacheInfo (w : World) (caches : Caches) (requested : Option String) : Finished :=
  withCache w caches requested fun c cache => { console := cacheLines w c cache, caches := caches }

/-- Empties a cache. -/
def cacheClear (w : World) (caches : Caches) (requested : Option String) : Finished :=
  withCache w caches requested fun c cache =>
    if cache.disk == .working then
      { console := [line (styled "green" "Cache cleared successfully")]
        caches := caches.keep (w.cacheDirectory? c) cache.clear }
    else { console := [line (styled "yellow" "Cache is disabled")], caches := caches }

/-- What a command line asks for, if the files that it needs exist. -/
def invocation (w : World) (args : List String) : Except UsageFault Invocation := do
  let i ← Invocation.ofArguments args
  match i.requiredFiles.find? fun path => !FileName.isPath path || !(w.files path).isFile with
  | some path => throw (if FileName.isPath path then .badPath path else .noPath path)
  | none => return i

/-- Carries out what a command line asks for. -/
def perform (w : World) (caches : Caches) : Invocation → Finished
  | .help => { caches := caches }
  | .version =>
    { console := [line (styled "bold cyan" "codelens" ++ " version " ++
        styled "green" versionNumber)]
      caches := caches }
  | .analyze o => analyze w caches o
  | .detect file => detect w caches file
  | .cacheInfo config => cacheInfo w caches config
  | .cacheClear config => cacheClear w caches config

/-- Runs a command line. -/
def run (w : World) (caches : Caches) (args : List String) : Finished :=
  match invocation w args with
  | .error e => { exitCode := e.exitCode, caches := caches }
  | .ok i => perform w caches i

end Command
end SourceAudit
