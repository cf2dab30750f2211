import SourceAudit.Pattern.Notation
import SourceAudit.Source.Lexeme

/-!
  What the analysis knows about a language (`Language`): by which words and
  forms its texts are recognised, what its comments and literals look like, how
  functions and variables are declared, which words branch and loop, how blocks
  are laid out, and which words guard against errors.
-/
namespace SourceAudit

/-- How a language marks its blocks. -/
inductive BlockLayout where
  | braces
  | indentation
  deriving DecidableEq, Repr, Inhabited

/-- The table of a language. In a form of a function or a declaration, the first group is the
name. -/
structure Language where
  name : String
  extensions : List String := []
  keywords : List String := []
  imports : List String := []
  idioms : List Pattern := []
  hallmarks : List Pattern := []
  weight : Rat := 1
  lexemes : List Lexeme := []
  functionForms : List Pattern := []
  declarationForms : List Pattern := []
  branchWords : List String := []
  branchMarks : List Pattern := []
  loopWords : List String := ["for", "while", "do"]
  layout : BlockLayout := .braces
  tryWord : Option String := some "try"
  handlerWords : List String := ["catch"]
  debugForms : List Pattern := []
  constantWords : List String := ["const", "final"]

namespace Language

/-- Whether blocks stand between braces. -/
def usesBraces (l : Language) : Bool := l.layout == .braces

/-- What counts as a branch: a branching word between word boundaries, or a branching mark. -/
def branches (l : Language) : List Pattern :=
  l.branchWords.map (fun w => Pattern.bounded w.toList) ++ l.branchMarks

/-- Both operands of a logical connective are tested. -/
def bothMark : Pattern := .literal "&&".toList

/-- One of the operands of a logical connective is tested. -/
def eitherMark : Pattern := .literal "||".toList

/-- A question mark that chooses between two values: none stands before it, and no dot, colon
or question mark after it. -/
def choiceMark : Pattern := .written r"(?<!\?)\?(?![.?:])"

/-- Comments that C and its relatives share. -/
def slashComments : List Lexeme := [.lineComment "//", .blockComment "/*" "*/"]

end Language
end SourceAudit
