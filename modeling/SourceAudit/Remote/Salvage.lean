import SourceAudit.Number.Reading
import SourceAudit.Pattern.Notation
import SourceAudit.Pattern.Match
import SourceAudit.Syntax.Finding

/-!
  Findings about syntax from prose. Each line that speaks of an error, a warning
  or a suggestion is a finding on the line of the source that was mentioned last.
  Prose that mentions a line by too many digits is not read at all.
-/
namespace SourceAudit
namespace Remote
namespace Salvage

/-- The mention of a line. -/
def mention : Pattern := .writtenAnyCase r"line\s*(\d+)"

/-- The number of the line that a line of prose mentions; the usual one, if it mentions none. -/
def mentioned (usual : Nat) (line : Text) : Except Number.Overlong Nat :=
  match mention.find? line with
  | none => .ok usual
  | some m => Number.ofDigitsWithin (Number.digitRun (m.part 1)).1

/-- The finding that a line of prose makes. -/
def finding? (number : Nat) (line : Text) : Option SyntaxFinding :=
  let low := line.lower
  let speaksOf := fun (word : String) => Text.holds word.toList low
  let found := fun severity type code =>
    some ({ line := number, column := 1, message := String.ofList line, severity := severity,
            type := type, code := code } : SyntaxFinding)
  if speaksOf "error" then found .error "syntax" "SYNTAX_ERROR"
  else if speaksOf "warning" || speaksOf "potential" then
    found .warning "syntax" "SYNTAX_WARNING"
  else if speaksOf "suggest" || speaksOf "recommend" then
    found .info "style" "STYLE_SUGGESTION"
  else none

/-- The findings of lines of prose, the first argument being the line mentioned last. -/
def findingsFrom : Nat → List Text → Except Number.Overlong (List SyntaxFinding)
  | _, [] => .ok []
  | number, line :: rest =>
    let line := line.trim
    match mentioned number line with
    | .error o => .error o
    | .ok number => (findingsFrom number rest).map ((finding? number line).toList ++ ·)

/-- The findings of a text. -/
def findings (t : Text) : Except Number.Overlong (List SyntaxFinding) := findingsFrom 1 t.lines

end Salvage

/-- The report on syntax that prose makes. -/
def salvage (t : Text) : Except Number.Overlong SyntaxReport :=
  (Salvage.findings t).map SyntaxReport.ofFindings

end Remote
end SourceAudit
