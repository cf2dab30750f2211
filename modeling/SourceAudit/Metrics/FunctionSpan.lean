import SourceAudit.Source.Prepared

/-!
  The functions of a source, from their declarations. Between braces a function
  ends on the line where the depth falls back to the depth before its
  declaration; by indentation it ends with the last line that is deeper than
  its declaration. A declaration whose block does not open in time is a
  function of one line.
-/
namespace SourceAudit

/-- A function and its first and last line, counted from one. -/
structure FunctionSpan where
  name : String
  startLine : Nat
  endLine : Nat
  deriving DecidableEq, Repr

namespace FunctionSpan

/-- The number of lines. -/
def length (f : FunctionSpan) : Int := (f.endLine : Int) - f.startLine + 1

/-- Words that a declaration form can take for a name, and that never are one. -/
def neverNames : List String :=
  ["if", "for", "while", "switch", "catch", "return", "else", "do", "new", "sizeof", "elif"]

/-- The name of the function declared on a line: from the first form that matches with a name. -/
def nameOn (l : Language) (line : Text) : Option Text :=
  l.functionForms.findSome? fun form =>
    match form.find? line with
    | none => none
    | some m => if String.ofList (m.part 1) ∈ neverNames then none else some (m.part 1)

/-- How many lines after its first one a function between braces ends. `before` is the depth
before the declaration, `patience` the number of lines after the first on which its block may
open, `passed` the number of lines behind us, and `opened` whether the block has opened. -/
def braceReach (before : Nat) (patience : Int) : Nat → Bool → List Depth → Nat
  | passed, opened, [] => if opened then passed - 1 else 0
  | passed, opened, d :: rest =>
    let opened := opened || decide (before < d.peak)
    if opened && decide (d.after ≤ before) then passed
    else if !opened && decide (patience ≤ passed) then 0
    else braceReach before patience (passed + 1) opened rest

/-- How many lines after its first one an indented function ends. `width` is the indentation of
the declaration, `passed` the number of lines behind us, and `last` the answer so far. -/
def indentReach (width : Nat) : Nat → Nat → List Text → Nat
  | _, last, [] => last
  | passed, last, line :: rest =>
    if line.isBlank then indentReach width (passed + 1) last rest
    else if line.indentWidth ≤ width then last
    else indentReach width (passed + 1) (passed + 1) rest

/-- How many lines after line `i` the function declared on it ends. -/
def reach (p : Prepared) (patience : Int) (i : Nat) : Nat :=
  if p.language.usesBraces then
    braceReach (p.depthBefore i) patience 0 false (p.depths.drop i)
  else indentReach (Text.indentWidth (p.maskedLines.getD i [])) 0 0 (p.maskedLines.drop (i + 1))

/-- The functions of a source, by line. -/
def all (p : Prepared) (patience : Int) : List FunctionSpan :=
  p.maskedLines.zipIdx.filterMap fun (line, i) =>
    (nameOn p.language line).map fun name =>
      ⟨String.ofList name, i + 1, i + reach p patience i + 1⟩

/-- The functions of a source whose blocks open on the line of the declaration or the next. -/
def usual (p : Prepared) : List FunctionSpan := all p 1

end FunctionSpan
end SourceAudit
