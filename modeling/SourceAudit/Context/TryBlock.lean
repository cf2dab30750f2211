import SourceAudit.Context.Names

/-!
  Protected blocks. A block starts on the line of the word that opens it; its
  body goes up to the handlers, and the block up to the end of the last one.
  The names declared or used near its start are its scope.
-/
namespace SourceAudit

/-- A protected block by its first line, the last line of its body and its last line, counted
from one, with the names of its scope. -/
structure TryBlock where
  start : Nat
  bodyEnd : Nat
  stop : Nat
  scope : List Text := []
  deriving DecidableEq, Repr

namespace TryBlock

/-- Whether a line belongs to the protected body. -/
def covers (b : TryBlock) (line : Nat) : Bool :=
  decide (b.start ≤ line) && decide (line ≤ b.bodyEnd)

/-- How many lines after its first one the body of a block ends, and how many the block. -/
structure Reach where
  body : Nat
  stop : Nat
  deriving DecidableEq, Repr

/-- The words that start a handler. -/
def handlerWords (l : Language) : List String := l.handlerWords ++ ["finally"]

/-- Whether the next line that is not blank starts with a handler. -/
def handlerFollows (handler : Pattern) (lines : List Text) : Bool :=
  match lines.find? fun line => !line.isBlank with
  | some line => (handler.matchStart? line.trimLeft).isSome
  | none => false

/-- One character in the count of braces that are open. -/
def braceCount (n : Int) (c : Char) : Int :=
  if c == '\x7b' then n + 1 else if c == '\x7d' then n - 1 else n

/-- The end of a body on a later line that names a handler: the line before if the handler stands
first, else the line itself. -/
def handlerLine (passed : Nat) (line : Text) : Nat :=
  if line.trimLeft.startsWithAny ["catch", "finally", "except"] then passed - 1 else passed

/-- The reach of a block between braces: it ends where as many braces are closed as opened,
unless a handler follows. `passed` counts the lines behind us, `level` the braces that are open,
`opened` says whether one has been, and `body` is the end of the body once it is known. -/
def braceReach (handler : Pattern) :
    (passed : Nat) → (level : Int) → (opened : Bool) → (body : Option Nat) → List Text → Reach
  | passed, _, _, body, [] => ⟨body.getD (passed - 1), passed - 1⟩
  | passed, level, opened, body, line :: rest =>
    let body :=
      if passed != 0 && body.isNone && handler.occurs line then some (handlerLine passed line)
      else body
    let level := line.foldl braceCount level
    let opened := opened || line.contains '\x7b'
    if opened && decide (level ≤ 0) && !handlerFollows handler rest then
      ⟨body.getD passed, passed⟩
    else braceReach handler (passed + 1) level opened body rest

/-- The reach of an indented block: the deeper lines after the first are its body, and handlers
at the width of the first line go on with it, each with its own deeper lines. `last` is the
number of lines up to the last one taken. -/
def indentReach (handler : Pattern) (width : Nat) :
    (passed last : Nat) → (body : Option Nat) → List Text → Reach
  | _, last, body, [] => ⟨body.getD last, last⟩
  | passed, last, body, line :: rest =>
    if line.isBlank then indentReach handler width (passed + 1) last body rest
    else if width < line.indentWidth then
      indentReach handler width (passed + 1) (passed + 1) body rest
    else if line.indentWidth == width &&
        ((handler.matchStart? line.trimLeft).isSome || line.trimLeft.startsWith "else".toList) then
      indentReach handler width (passed + 1) (passed + 1) (some (body.getD last)) rest
    else ⟨body.getD last, last⟩

/-- How many lines, the first included, give a block its scope. -/
def scopeLines : Nat := 10

/-- Declarations of one name. -/
def declared : Pattern := .written r"\b(?:const|let|var)\s+(\w+)"

/-- Parameter lists of functions and of arrows. -/
def parameterLists : List Pattern := [
  .written r"\bfunction\s*\w*\s*\(\s*([^)]*)\)",
  .written r"\(\s*([^)]*)\)\s*=>"]

/-- Assignments at the start of a line. -/
def assigned : Pattern := .written r"^\s*(\w+)\s*(?::[^=]+)?=(?!=)"

/-- The names that one line adds to a scope. -/
def scopeOf (l : Language) (inBody : Bool) (line : Text) : List Text :=
  ((declared.findAll line).map fun m => m.part 1) ++
    (parameterLists.flatMap fun p => (p.findAll line).flatMap fun m => Names.ofParameters (m.part 1)) ++
    (if l.usesBraces then [] else (assigned.findAll line).map fun m => m.part 1) ++
    (if inBody then Text.names line else [])

/-- The scope of a block, from its lines and the reach of its body. -/
def scopeWithin (l : Language) (body : Nat) (lines : List Text) : List Text :=
  ((lines.take scopeLines).zipIdx.flatMap fun (line, j) => scopeOf l (decide (j ≤ body)) line).filter
    fun name => !name.isEmpty && !Names.commonWords.contains name

/-- The block whose opening word ends at an offset of line `i`. -/
def startingAt (p : Prepared) (handler : Pattern) (i offset : Nat) : TryBlock :=
  let lines := p.maskedLines.drop i
  let first := lines.headD []
  let reach :=
    if p.language.usesBraces then
      braceReach handler 0 0 false none (first.drop offset :: lines.drop 1)
    else indentReach handler first.indentWidth 0 0 none (lines.drop 1)
  ⟨i + 1, i + reach.body + 1, i + reach.stop + 1, scopeWithin p.language reach.body lines⟩

/-- The protected blocks of a source, by their first lines. -/
def all (p : Prepared) : List TryBlock :=
  match p.language.tryWord with
  | none => []
  | some word =>
    let opener := Pattern.bounded word.toList
    let handler := Pattern.boundedAny (handlerWords p.language)
    p.maskedLines.zipIdx.filterMap fun (line, i) =>
      (opener.find? line).map fun m => startingAt p handler i m.stop

end TryBlock
end SourceAudit
