import SourceAudit.Text.Basic

/-!
  File names: the last component of a path, and the suffixes of that component.
-/
namespace SourceAudit
namespace FileName

/-- The components of a path: what stands between slashes, without the empty ones and the single
dots. -/
def components (path : Text) : List Text :=
  (path.splitOn '/').filter fun part => !part.isEmpty && part != ['.']

/-- The last component of a path; empty if there is none. -/
def base (path : Text) : Text :=
  match (components path).getLast? with
  | some part => part
  | none => []

/-- The suffixes of a path: the parts of its last component that a dot leads, the dots at its
very start aside. A component that ends in a dot has none. -/
def suffixes (path : Text) : List Text :=
  let name := base path
  if name.getLast? == some '.' then []
  else (Text.splitOn '.' (name.dropWhile (· == '.'))).tail.map ('.' :: ·)

/-- The text from the last dot on; without a dot, the last character. -/
def fromLastDot (path : Text) : Text :=
  let behind := (path.reverse.takeWhile (· != '.')).reverse
  if path.contains '.' then '.' :: behind else path.drop (path.length - 1)

end FileName
end SourceAudit
