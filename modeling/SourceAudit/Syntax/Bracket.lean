import SourceAudit.Syntax.Finding
import SourceAudit.Text.Basic

/-!
  Matching of brackets. The brackets of a text are gone through with a stack of
  those that are open. A closing one takes the latest open one away, whatever
  its kind; a finding is made if that is of another kind, or if none is open.
  What is open at the end is found as well.
-/
namespace SourceAudit

/-- The kinds of brackets. -/
inductive BracketKind where
  | round
  | square
  | curly
  deriving DecidableEq, Repr

namespace BracketKind

/-- The opening bracket of a kind. -/
def opener : BracketKind → Char
  | round => '('
  | square => '['
  | curly => '\x7b'

/-- The closing bracket of a kind. -/
def closer : BracketKind → Char
  | round => ')'
  | square => ']'
  | curly => '\x7d'

/-- All kinds. -/
def all : List BracketKind := [round, square, curly]

end BracketKind

/-- A bracket of a text: its kind, whether it opens, and where it is, counted from one. -/
structure Bracket where
  kind : BracketKind
  opens : Bool
  line : Nat
  column : Nat
  deriving DecidableEq, Repr

namespace Bracket

/-- The bracket that a character is, if it is one. -/
def ofChar? (c : Char) (line column : Nat) : Option Bracket :=
  match BracketKind.all.find? fun k => k.opener == c with
  | some k => some ⟨k, true, line, column⟩
  | none => (BracketKind.all.find? fun k => k.closer == c).map fun k => ⟨k, false, line, column⟩

/-- The brackets of a line from a column on. -/
def onLineFrom (line : Nat) : Nat → Text → List Bracket
  | _, [] => []
  | column, c :: rest => (ofChar? c line column).toList ++ onLineFrom line (column + 1) rest

/-- The brackets of a line. -/
def onLine (line : Nat) (t : Text) : List Bracket := onLineFrom line 1 t

/-- A character in single quotes. -/
def shown (c : Char) : String := String.ofList ['\'', c, '\'']

/-- The finding of a closing bracket where none is open. -/
def unexpected (b : Bracket) : SyntaxFinding where
  line := b.line
  column := b.column
  message := "Unexpected closing bracket " ++ shown b.kind.closer
  severity := .error
  code := "UNEXPECTED_BRACKET"

/-- The finding of a closing bracket of another kind than the open one. -/
def mismatched (expected b : Bracket) : SyntaxFinding where
  line := b.line
  column := b.column
  message := "Mismatched bracket: expected " ++ shown expected.kind.closer ++ " but found " ++
    shown b.kind.closer
  severity := .error
  code := "MISMATCHED_BRACKET"

/-- The finding of an opening bracket that is never closed. -/
def unclosed (b : Bracket) : SyntaxFinding where
  line := b.line
  column := b.column
  message := "Unclosed bracket " ++ shown b.kind.opener
  severity := .error
  quickFix := some ("Add closing " ++ shown b.kind.closer)
  code := "UNCLOSED_BRACKET"

/-- Goes over some brackets; the first argument holds those that are open, latest first. The
answer is what is found and what is open afterwards. -/
def scan : List Bracket → List Bracket → List SyntaxFinding × List Bracket
  | stack, [] => ([], stack)
  | stack, b :: rest =>
    if b.opens then scan (b :: stack) rest
    else
      match stack with
      | [] =>
        let (found, left) := scan [] rest
        (unexpected b :: found, left)
      | o :: below =>
        let (found, left) := scan below rest
        (if o.kind == b.kind then found else mismatched o b :: found, left)

end Bracket
end SourceAudit
