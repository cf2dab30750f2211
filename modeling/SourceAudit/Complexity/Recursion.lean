import SourceAudit.Metrics.FunctionSpan

/-!
  Functions that call themselves. A function that does so more than once is
  taken to branch with every call.
-/
namespace SourceAudit

/-- The functions of a source that call themselves, and those that do so more than once. -/
structure Recursion where
  recursive : List String := []
  branching : List String := []
  deriving DecidableEq, Repr

namespace Recursion

/-- A call of a function. -/
def callForm (name : String) : Pattern :=
  .seq .boundary
    (.seq (.literal name.toList) (.seq (.many .space 0 none true) (.one (.char '('))))

/-- What the body of a function starts with on the line of its declaration. -/
def bodyStart : Pattern := .written r"[=\x7b]|\breturn\b"

/-- The first line of a function without its declaration: a call form there declares the function
if no body starts before it. -/
def withoutDeclaration (call : Pattern) (head : Text) : Text :=
  match call.find? head with
  | some m => if bodyStart.occurs (head.take m.start) then head else head.drop m.stop
  | none => head

/-- How often a function calls itself. -/
def selfCalls (p : Prepared) (f : FunctionSpan) : Nat :=
  match (p.maskedLines.take f.endLine).drop (f.startLine - 1) with
  | [] => 0
  | head :: rest =>
    let call := callForm f.name
    call.count (Text.joinLines (withoutDeclaration call head :: rest))

/-- The recursion of a source. -/
def ofSource (p : Prepared) : Recursion :=
  let counted := (FunctionSpan.usual p).map fun f => (f.name, selfCalls p f)
  { recursive := (counted.filter fun c => decide (0 < c.2)).map (·.1)
    branching := (counted.filter fun c => decide (1 < c.2)).map (·.1) }

end Recursion
end SourceAudit
