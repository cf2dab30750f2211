/-!
  The log: which messages it takes, where it writes them, and how its parts are
  called. The quiet flag wins over the verbose one.
-/
namespace SourceAudit

/-- The least gravity of the messages that a log takes. -/
inductive LogLevel where
  | debug
  | warning
  | error
  deriving DecidableEq, Repr

namespace LogLevel

/-- The number of a level. -/
def rank : LogLevel → Nat
  | debug => 10
  | warning => 30
  | error => 40

/-- The level that flags ask for. -/
def ofFlags (verbose quiet : Bool) : LogLevel :=
  if quiet then error else if verbose then debug else warning

end LogLevel

namespace Log

/-- Where a log writes: the terminal, and a file if one is named. -/
def handlers (toFile : Bool) : List String :=
  "RichHandler" :: if toFile then ["FileHandler"] else []

/-- The name of the whole log. -/
def root : String := "codelens"

/-- The name of a part of the log. -/
def nameOf : Option String → String
  | none => root
  | some name => if root.toList.isPrefixOf name.toList then name else root ++ "." ++ name

end Log
end SourceAudit
