import SourceAudit.Command.Run
import SourceAudit.Report.Console

/-!
  The command line program. It reads the files that a command names, hands them
  over, and prints what the command gives back. Results are kept as long as the
  program runs, and no service is asked.
-/
namespace SourceAudit
namespace Command

/-- What stands at a path. -/
def statusOf (path : String) : IO FileStatus := do
  try
    let bytes ← IO.FS.readBinFile path
    return .file bytes.toList
  catch e =>
    match e with
    | .inappropriateType .. => return .directory
    | _ => return .missing

/-- The paths that a command may read. -/
def pathsOf (home directory : String) (args : List String) : List String :=
  let named := match Invocation.ofArguments args with
    | .ok i => i.requiredFiles
    | .error _ => []
  [home ++ "/.codelens.toml", directory ++ "/codelens.toml"] ++ named ++ named.map Files.shown

/-- The variables that are set. -/
def variablesSet : IO (List (String × String)) := do
  let mut found := []
  for name in Environment.names do
    if let some value ← IO.getEnv name then found := (name, value) :: found
  return found

/-- Runs a command line on the files and variables at hand. -/
def launch (args : List String) : IO UInt32 := do
  let home := (← IO.getEnv "HOME").getD "."
  let directory := (← IO.getEnv "PWD").getD "."
  let known ← (pathsOf home directory args).mapM fun path => return (path, ← statusOf path)
  let world : World :=
    { files := fun path => (known.lookup path).getD .missing
      home := home
      directory := directory
      environment := ← variablesSet }
  match invocation world args with
  | .error fault =>
    IO.eprintln fault.message
    return 2
  | .ok i =>
    let done := perform world [] i
    for item in done.console do
      for line in item.plainLines do IO.println line
    IO.print done.output
    return UInt32.ofNat done.exitCode

end Command
end SourceAudit

/-- The program. -/
def main (args : List String) : IO UInt32 := SourceAudit.Command.launch args
