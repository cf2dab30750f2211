import SourceAudit.Issue.Basic
import SourceAudit.Source.Prepared

/-!
  Findings about single statements: numbers without a name, code that is never
  reached, debug output, and comments that note work to be done.
-/
namespace SourceAudit
namespace Detector

/-! ## Numbers -/

/-- Numbers of two digits and more that stand alone. -/
def bareNumber : Pattern := .written r"(?<![\w.])(\d{2,})(?![\w.])"

/-- Lines that give a constant its name. -/
def namedConstant : Pattern :=
  .written (r"^\s*(?:#define\b|(?:export\s+)?(?:(?:const|let|var|readonly|static|final|public|private)\s+)*" ++
    r"[A-Z][A-Z0-9_]*\s*(?::[^=]+)?=(?!=))")

/-- Line starts on which numbers are left alone. -/
def numberFreeStarts : List String := ["else", "\x7d", "\x7b", "case", "default"]

/-- A number without leading zeros. -/
def significant (digits : Text) : Text :=
  let kept := digits.dropWhile (· == '0')
  if kept.isEmpty then ['0'] else kept

/-- Whether the numbers of a line are looked at. -/
def hasNumbers (l : Language) (line : Text) : Bool :=
  !line.isBlank && !line.trim.startsWithAny numberFreeStarts &&
    (namedConstant.matchStart? line).isNone &&
    (l.constantWords.isEmpty || !(Pattern.boundedAny l.constantWords).occurs line)

/-- The numbers of a source with their lines, counted from one. -/
def numbers (p : Prepared) : List (Text × Nat) :=
  p.maskedLines.zipIdx.flatMap fun (line, i) =>
    if hasNumbers p.language line then
      (bareNumber.findAll line).map fun m => (significant (m.part 1), i + 1)
    else []

/-- The first entry of each number, exempt ones left out; `seen` holds the numbers that are not
reported any more. -/
def firstNumbers : List (Text × Nat) → List Text → List (Text × Nat)
  | [], _ => []
  | (value, line) :: rest, seen =>
    if seen.contains value then firstNumbers rest seen
    else (value, line) :: firstNumbers rest (value :: seen)

/-- Reports each number that is not exempt where it first stands. -/
def magicNumbers (exempt : List String) (p : Prepared) : List RawIssue :=
  (firstNumbers (numbers p) (exempt.map String.toList)).map fun (value, line) =>
    ⟨line, "Magic number " ++ String.ofList value ++ " - replace with named constant", .minor,
      "magic-numbers"⟩

/-! ## Unreachable code -/

/-- Statements that leave their block. -/
def jump : Pattern := .written r"^\s*(?:return|break|continue)\b"

/-- Line starts that close a block or begin a region that is reached from elsewhere. -/
def reachableStarts : List String :=
  ["\x7d", ")", "]", "case", "default", "else", "elif", "except", "finally", "catch"]

/-- Line ends after which a statement goes on. -/
def openEnds : List String :=
  ["(", "[", "\x7b", ",", "+", "-", "*", "/", "&&", "||", "?", ":", "=", "\\"]

/-- Whether the jump on line `i` ends there and its block goes on. -/
def isPlainJump (p : Prepared) (i : Nat) (line : Text) : Bool :=
  (jump.matchStart? line).isSome && !line.trimRight.endsWithAny openEnds &&
    !(p.language.usesBraces && decide ((p.depths.getD i default).after < p.depthBefore i))

/-- Whether line `i`, after a jump on the line before it, is code of the same block. -/
def isUnreachable (p : Prepared) (i : Nat) (jumpLine line : Text) : Bool :=
  !p.isBlankLine i && !p.isCommentLine i && !line.trim.startsWithAny reachableStarts &&
    !(!p.language.usesBraces && decide (line.indentWidth < jumpLine.indentWidth))

/-- Reports the line after a jump that no path reaches. -/
def deadCode (p : Prepared) : List RawIssue :=
  (p.maskedLines.zip (p.maskedLines.drop 1)).zipIdx.filterMap fun ((line, next), i) =>
    if isPlainJump p i line && isUnreachable p (i + 1) line next then
      some ⟨i + 2, "Unreachable code after control flow statement", .minor, "dead-code"⟩
    else none

/-! ## Leftovers -/

/-- Reports the first line with debug output. -/
def debugStatements (p : Prepared) : List RawIssue :=
  match p.maskedLines.findIdx? fun line => Pattern.anyOccurs p.language.debugForms line with
  | none => []
  | some i => [⟨i + 1, "Debug statement found - remove debug output from production code", .minor,
      "debug-statement"⟩]

/-- Marks of work to be done. -/
def taskMark : Pattern := .boundedAny ["TODO", "FIXME", "XXX"]

/-- Reports the first line with such a mark in a comment and none outside. -/
def todoComments (p : Prepared) : List RawIssue :=
  match (p.lines.zip p.codeLines).findIdx? fun (line, code) =>
      taskMark.occurs line && !taskMark.occurs code with
  | none => []
  | some i => [⟨i + 1, "TODO/FIXME comments found - resolve before production", .minor,
      "todo-comment"⟩]

end Detector
end SourceAudit
