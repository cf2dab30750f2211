import SourceAudit.Source.Prepared
import SourceAudit.Syntax.Bracket

/-!
  The syntax check. Brackets are matched across lines; in scripts, declarations
  and returns have to end in a semicolon, and in Python the heads of blocks in a
  colon. A line on which more brackets open than close is not looked at for
  these, and the head of a block only where no bracket is open before it.
-/
namespace SourceAudit
namespace SyntaxCheck

/-- The languages in which statements end in semicolons. -/
def semicolonLanguages : List String := ["javascript", "typescript"]

/-- The languages in which heads of blocks end in colons. -/
def colonLanguages : List String := ["python"]

/-- A declaration or return on a line of its own, without an end. -/
def statement : Pattern := .written r"^\s*(?:return|var|let|const)\b\s+[^;\x7b\x7d\n]+$"

/-- The head of a block without a colon. -/
def blockHead : Pattern :=
  .written r"^\s*(if|elif|else|for|while|def|class|try|except|finally|with)\b[^:]*$"

/-- Ends of a line after which a statement goes on. -/
def continuations : List String :=
  [",", "(", "[", "+", "-", "*", "/", "=", "&", "|", "?", ":", ".", "\\", "=>"]

/-- The finding of a missing semicolon after a line without trailing blanks. -/
def missingSemicolon (number : Nat) (line : Text) : SyntaxFinding where
  line := number
  column := line.length
  message := "Missing semicolon"
  severity := .warning
  quickFix := some "Add semicolon at end of statement"
  code := "MISSING_SEMICOLON"

/-- The finding of a missing colon after a line without trailing blanks. -/
def missingColon (number : Nat) (line : Text) : SyntaxFinding where
  line := number
  column := line.length
  message := "Missing colon"
  severity := .error
  quickFix := some "Add colon at end of statement"
  code := "MISSING_COLON"

/-- Whether a line without trailing blanks lacks a semicolon. -/
def lacksSemicolon (line : Text) : Bool :=
  (statement.matchStart? line).isSome && !line.endsWithAny continuations

/-- Whether a line without trailing blanks lacks a colon. -/
def lacksColon (line : Text) : Bool :=
  !line.endsWithAny ["\\"] && (blockHead.matchStart? line).isSome

/-- Goes over lines with the brackets that are open, latest first. The answer is the errors, the
warnings and the brackets still open. -/
def scanFrom (language : String) :
    Nat → List Bracket → List Text → List SyntaxFinding × List SyntaxFinding × List Bracket
  | _, stack, [] => ([], [], stack)
  | number, stack, line :: rest =>
    let (found, after) := Bracket.scan stack (Bracket.onLine number line)
    let opens := decide (stack.length < after.length)
    let bare := line.trimRight
    let warning := !opens && semicolonLanguages.contains language && lacksSemicolon bare
    let colon := !opens && stack.isEmpty && colonLanguages.contains language && lacksColon bare
    let (errors, warnings, left) := scanFrom language (number + 1) after rest
    (found ++ (if colon then missingColon number bare :: errors else errors),
      if warning then missingSemicolon number bare :: warnings else warnings, left)

/-- Whether a finding stands before another one, or at the same place. -/
def precedes (a b : SyntaxFinding) : Bool :=
  decide (a.line < b.line) || (a.line == b.line && decide (a.column ≤ b.column))

/-- The findings about the syntax of a source, errors by their places. -/
def ofSource (p : Prepared) : SyntaxReport :=
  if p.isBlank then {}
  else
    let (errors, warnings, left) := scanFrom p.language.name 1 [] p.maskedLines
    { errors := (errors ++ left.reverse.map Bracket.unclosed).mergeSort precedes
      warnings := warnings }

end SyntaxCheck
end SourceAudit
