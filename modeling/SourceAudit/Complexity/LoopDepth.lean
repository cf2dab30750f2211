import SourceAudit.Complexity.LoopToken
import SourceAudit.Source.Prepared

/-!
  How deep the loops of a source are nested.

  Between braces, a loop waits for its body after its head. An opening brace
  takes all waiting loops for its block; a semicolon outside of the parentheses
  of their heads ends a body without a block, and the closing parenthesis of a
  call ends one that is an expression. By indentation, a loop is open while the
  lines are wider than its own, and each further loop on a line counts one more.
-/
namespace SourceAudit
namespace LoopDepth

/-- A loop whose body has not started: the number of open parentheses before it, and whether it is
a call with the body for an argument. -/
structure Waiting where
  parens : Nat
  isCall : Bool
  deriving DecidableEq, Repr

/-- A place between two tokens: how many loops each open brace took, innermost first; the waiting
loops, latest first; the open parentheses; and the deepest nesting so far. -/
structure State where
  blocks : List Nat := []
  waiting : List Waiting := []
  parens : Nat := 0
  deepest : Nat := 0
  deriving DecidableEq, Repr

namespace State

/-- The number of loops that the open braces took. -/
def taken (s : State) : Nat := s.blocks.foldr (· + ·) 0

/-- The number of loops that are open here, the waiting ones included. -/
def here (s : State) : Nat := s.taken + s.waiting.length

/-- Notes the nesting here. -/
def note (s : State) : State := { s with deepest := max s.deepest s.here }

/-- A call starts to wait, unless it stands in the head of a loop that is no call. -/
def addCall (s : State) : State :=
  let counts := match s.waiting with
    | [] => true
    | w :: _ => w.isCall || decide (s.parens ≤ w.parens)
  { s with
    waiting := if counts then ⟨s.parens, true⟩ :: s.waiting else s.waiting
    parens := s.parens + 1 }

/-- A parenthesis closes, and with it the latest waiting call if it is the call's own. -/
def closeParen (s : State) : State :=
  let parens := s.parens - 1
  match s.waiting with
  | w :: rest =>
    if w.isCall && parens == w.parens then { s.note with waiting := rest, parens := parens }
    else { s with parens := parens }
  | [] => { s with parens := parens }

/-- A brace opens a block for all waiting loops. -/
def openBrace (s : State) : State :=
  { s.note with blocks := s.waiting.length :: s.blocks, waiting := [] }

/-- A semicolon ends the bodies of all waiting loops, if it stands outside of the head of the
first one. -/
def endBody (s : State) : State :=
  match s.waiting.getLast? with
  | some w => if s.parens ≤ w.parens then { s.note with waiting := [] } else s
  | none => s

/-- Steps over a token. -/
def step (s : State) : LoopToken → State
  | .loop => { s with waiting := ⟨s.parens, false⟩ :: s.waiting }
  | .call => s.addCall
  | .parenOpen => { s with parens := s.parens + 1 }
  | .parenClose => s.closeParen
  | .braceOpen => s.openBrace
  | .braceClose => { s with blocks := s.blocks.drop 1 }
  | .semicolon => s.endBody

end State

/-- The depth of loops among tokens; a loop without a body counts. -/
def ofTokens (tokens : List LoopToken) : Nat := (tokens.foldl State.step {}).note.deepest

/-- The head of an indented loop. -/
def headForm (words : List String) : Pattern :=
  .seq (.written r"^\s*(?:async\s+)?")
    (.seq (.firstOf (words.map fun w => .literal w.toList)) .boundary)

/-- A loop inside of an expression. -/
def inlineForm : Pattern := .written r"\bfor\b[^\n]*?\bin\b"

/-- The depth of loops among indented lines. `widths` holds the widths of the open loops, innermost
first, and `deepest` the answer so far. -/
def ofLinesFrom (head : Pattern) : (widths : List Nat) → (deepest : Nat) → List Text → Nat
  | _, deepest, [] => deepest
  | widths, deepest, line :: rest =>
    if line.isBlank then ofLinesFrom head widths deepest rest
    else
      let width := line.indentWidth
      let widths := widths.dropWhile fun w => decide (width ≤ w)
      let inlined := inlineForm.count line
      if (head.matchStart? line).isSome then
        let widths := width :: widths
        ofLinesFrom head widths (max deepest (widths.length + (inlined - 1))) rest
      else if inlined == 0 then ofLinesFrom head widths deepest rest
      else ofLinesFrom head widths (max deepest (widths.length + inlined)) rest

/-- The depth of loops of a source. -/
def ofSource (p : Prepared) : Nat :=
  let words := p.language.loopWords
  if p.language.usesBraces then ofTokens (LoopToken.all (words.map String.toList) p.masked)
  else ofLinesFrom (headForm words) [] 0 p.maskedLines

/-- The forms in which a loop names its variable. -/
def variableForms : List Pattern := [
  .written (r"\bfor\s*\(\s*(?:let\s+|var\s+|const\s+|int\s+|long\s+|auto\s+|size_t\s+)?(\w+)"),
  .written r"\bfor\s+(\w+)\s+in\b",
  .written r"\bfor\s+(\w+)(?:\s*,\s*\w+)?\s*:="]

/-- The variables of the loops of a text, form by form, each once. -/
def loopNames (t : Text) : List Text :=
  (variableForms.flatMap fun form => (form.findAll t).map fun m => m.part 1).eraseDups

end LoopDepth
end SourceAudit
