import SourceAudit.Context.Basic
import SourceAudit.Issue.Basic

/-!
  Findings about variables: names of one letter outside loops, and names that
  are declared and never used.
-/
namespace SourceAudit
namespace Detector

/-- Names of one letter that are counters and dimensions by convention. -/
def conventionalNames : List Text := [['i'], ['j'], ['k'], ['n'], ['m']]

/-- The word that loops over something. -/
def forWord : Pattern := .bounded "for".toList

/-- Whether a declared name is a single letter that says nothing. -/
def isShortName (c : Context) (name : Text) : Bool :=
  name.length == 1 && name.all Char.isAlpha && !conventionalNames.contains name &&
    !c.bound.contains name

/-- The short names declared in a source with their lines, counted from one. -/
def shortNames (p : Prepared) (c : Context) : List (Text × Nat) :=
  p.maskedLines.zipIdx.flatMap fun (line, i) =>
    if forWord.occurs line then []
    else p.language.declarationForms.flatMap fun form =>
      (form.findAll line).filterMap fun m =>
        if isShortName c (m.part 1) then some (m.part 1, i + 1) else none

/-- The first entry of each name; the second argument holds the names seen before. -/
def firstOfEach : List (Text × Nat) → List Text → List (Text × Nat)
  | [], _ => []
  | (name, line) :: rest, seen =>
    if seen.contains name then firstOfEach rest seen
    else (name, line) :: firstOfEach rest (name :: seen)

/-- Reports each short name at its first declaration. -/
def shortVariableNames (p : Prepared) (c : Context) : List RawIssue :=
  (firstOfEach (shortNames p c) []).map fun (name, line) =>
    ⟨line, "Short variable name \"" ++ String.ofList name ++ "\" - use descriptive names", .minor,
      "short-variable-name"⟩

/-- A place where a name stands: line and column, counted from one and from zero. -/
structure Site where
  line : Nat
  column : Nat
  deriving DecidableEq, Repr

/-- The declarations of a source with their places. Names that start with an underscore are
unused on purpose and are left out. -/
def declarations (p : Prepared) : List (Text × Site) :=
  p.maskedLines.zipIdx.flatMap fun (line, i) =>
    p.language.declarationForms.flatMap fun form =>
      (form.findAll line).filterMap fun m =>
        match m.capture? (.place 1) with
        | some ⟨start, c :: rest⟩ => if c == '_' then none else some (c :: rest, ⟨i + 1, start⟩)
        | _ => none

/-- What goes on with a name: word characters and the dollar sign. -/
def nameParts : CharSet := .union .word (.char '$')

/-- A name as a whole. -/
def wholeName (name : Text) : Pattern :=
  .seq (.behind false nameParts) (.seq (.literal name) (.ahead false (.one nameParts)))

/-- The places where a name stands as a whole. -/
def occurrences (name : Text) (lines : List Text) : List Site :=
  lines.zipIdx.flatMap fun (line, i) =>
    ((wholeName name).findAll line).map fun m => ⟨i + 1, m.start⟩

/-- The places where a name is declared. -/
def sitesOf (name : Text) (declared : List (Text × Site)) : List Site :=
  (declared.filter fun d => d.1 == name).map (·.2)

/-- Reports the names that stand nowhere but where they are declared, each at its first line. -/
def unusedVariables (p : Prepared) : List RawIssue :=
  let declared := declarations p
  let unused := (firstOfEach (declared.map fun d => (d.1, d.2.line)) []).filter fun (name, _) =>
    let sites := sitesOf name declared
    (occurrences name p.maskedLines).all fun site => sites.contains site
  unused.map fun (name, line) =>
    ⟨line, "Unused variable '" ++ String.ofList name ++ "'", .minor, "unused-variables"⟩

end Detector
end SourceAudit
