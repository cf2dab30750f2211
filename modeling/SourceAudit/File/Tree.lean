import SourceAudit.File.Name
import SourceAudit.Text.Utf8

/-!
  Files as a program sees them: what stands at a path, or why nothing can be
  read there. A tree of files answers by going down a path part by part, from
  its root or from the directory that relative paths start in.
-/
namespace SourceAudit

/-- What stands at a path. -/
inductive FileStatus where
  | file (bytes : List UInt8)
  | directory
  | missing
  | behindFile
  | nameTooLong
  deriving Repr

namespace FileStatus

/-- The bytes at a path, or the reason why there are none. -/
def bytes : FileStatus → Except String (List UInt8)
  | file bytes => .ok bytes
  | directory => .error "Is a directory"
  | missing => .error "No such file or directory"
  | behindFile => .error "Not a directory"
  | nameTooLong => .error "File name too long"

/-- Whether something stands at the path. -/
def exists? : FileStatus → Bool
  | file _ | directory => true
  | missing | behindFile | nameTooLong => false

/-- Whether a file stands at the path. -/
def isFile : FileStatus → Bool
  | file _ => true
  | _ => false

end FileStatus

namespace FileName

/-- A path written without empty parts and single dots. -/
def normal (path : Text) : Text :=
  let parts := Text.joinWith ['/'] (components path)
  match path with
  | '/' :: '/' :: c :: _ => if c == '/' then '/' :: parts else '/' :: '/' :: parts
  | ['/', '/'] => path
  | '/' :: _ => '/' :: parts
  | _ => if parts.isEmpty then ['.'] else parts

end FileName

/-- Whether a text can be a path: it has no NUL. -/
def FileName.isPath (path : String) : Bool := !path.toList.contains '\x00'

/-- The most bytes of a part of a path. -/
def FileName.longestPart : Nat := 255

/-- The bytes from which on a path is too long. -/
def FileName.longPath : Nat := 4096

/-- Files and directories by the parts of their paths. A directory stands in the tree as soon as
something in it does. Relative paths start in the directory `working`. -/
structure FileTree where
  files : List (List Text × List UInt8) := []
  directories : List (List Text) := []
  working : List Text := []

namespace FileTree

/-- What stands at a list of parts. -/
def node (t : FileTree) (parts : List Text) : FileStatus :=
  match t.files.lookup parts with
  | some bytes => .file bytes
  | none =>
    if parts.isEmpty || parts.isPrefixOf t.working || t.directories.any (parts.isPrefixOf ·) ||
        t.files.any (fun f => parts.isPrefixOf f.1) then .directory
    else .missing

/-- Goes down a path from the directory of some parts, given backwards. -/
def walk (t : FileTree) : List Text → List Text → FileStatus
  | here, [] => t.node here.reverse
  | here, part :: rest =>
    match t.node here.reverse with
    | .directory =>
      if part.isEmpty || part == ['.'] then walk t here rest
      else if part == ['.', '.'] then walk t here.tail rest
      else if FileName.longestPart < (String.ofList part).utf8ByteSize then .nameTooLong
      else walk t (part :: here) rest
    | .file _ => .behindFile
    | other => other

/-- What stands at a path. -/
def status (t : FileTree) (path : String) : FileStatus :=
  if path.isEmpty then .missing
  else if FileName.longPath ≤ path.utf8ByteSize then .nameTooLong
  else t.walk (if path.startsWith "/" then [] else t.working.reverse) (path.toList.splitOn '/')

end FileTree
end SourceAudit
