import SourceAudit.Failure
import SourceAudit.File.Tree

/-!
  Sources read from files: bytes that are no UTF-8 are replaced, and every line
  break becomes a line feed.
-/
namespace SourceAudit

/-- The files that a program sees, by path. -/
abbrev Files := String → FileStatus

namespace Files

/-- Why there is no source at a path. -/
inductive Fault where
  | unnameable
  | unreadable (path reason : String)
  deriving DecidableEq, Repr

/-- How it is reported that there is no source. -/
def Fault.message : Fault → String
  | unnameable => "embedded null byte"
  | unreadable path reason => (Failure.fileAccess path reason).text

/-- A path as reports show it. -/
def shown (path : String) : String := String.ofList (FileName.normal path.toList)

/-- The source at a path. -/
def source (files : Files) (path : String) : Except Fault Text :=
  if !FileName.isPath path then .error .unnameable
  else
    let path := shown path
    match (files path).bytes with
    | .ok bytes => .ok (Utf8.decode bytes).plainBreaks
    | .error reason => .error (.unreadable path reason)

end Files
end SourceAudit
