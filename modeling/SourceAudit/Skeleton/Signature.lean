import SourceAudit.Metrics.FunctionSpan
import SourceAudit.Skeleton.Kind
import SourceAudit.Skeleton.Parameters

/-!
  The signature of the first function of a source: its name, its parameters with
  their types and kinds, and what it returns, as far as the line of the
  declaration shows them.
-/
namespace SourceAudit

/-- A parameter of a function. -/
structure Parameter where
  name : String
  declaredType : String := ""
  kind : ValueKind := .unknown
  deriving DecidableEq, Repr

/-- The signature of a function. -/
structure FunctionSignature where
  name : String
  parameters : List Parameter := []
  returnType : String := ""
  returnKind : ValueKind := .unknown
  isAsync : Bool := false
  deriving DecidableEq, Repr

namespace FunctionSignature

/-- Characters that belong to names. -/
def nameChars : CharSet := .union .word (.char '$')

/-- A name that is no part of a longer one. -/
def nameForm (name : Text) : Pattern :=
  .seq (.behind false nameChars) (.seq (.literal name) (.ahead false (.one nameChars)))

/-- Where a name first starts and stops on a line; the start of the line if it is not there. -/
def nameSpan (line name : Text) : Nat × Nat :=
  match (nameForm name).find? line with
  | some m => (m.start, m.stop)
  | none => (0, 0)

/-- What stands before the parenthesis that closes an open one; everything if none does. The first
argument is the number of parentheses that are open beyond it. -/
def beforeClose : Nat → Text → Text
  | _, [] => []
  | depth, c :: rest =>
    if c == '(' then c :: beforeClose (depth + 1) rest
    else if c == ')' then
      match depth with
      | 0 => []
      | depth + 1 => c :: beforeClose depth rest
    else c :: beforeClose depth rest

/-- What stands in the first parentheses after a name. -/
def parameterList (line name : Text) : Text :=
  match (line.drop (nameSpan line name).2).dropWhile (· != '(') with
  | [] => []
  | _ :: rest => beforeClose 0 rest

/-- The parameter of a name and a declared type. -/
def parameterOf (name declared : Text) : Parameter :=
  ⟨String.ofList name, String.ofList declared, ValueKind.infer name declared⟩

/-- The parameters of a list. Where `shared` is set, names without a type have the type of the next
parameter that has one; the first argument holds such names. -/
def parametersFrom (shared : Bool) : List Text → List (Text × Text) → List Parameter
  | pending, [] => pending.map fun name => parameterOf name []
  | pending, (name, declared) :: rest =>
    if shared && declared.isEmpty then parametersFrom shared (pending ++ [name]) rest
    else
      pending.map (fun other => parameterOf other declared) ++
        parameterOf name declared :: parametersFrom shared [] rest

/-- The parameters of a function that is declared on a line. -/
def parametersOf (language : String) (line name : Text) : List Parameter :=
  let parts := (Parameters.split (parameterList line name)).filterMap (Parameters.parse language)
  parametersFrom (language == "go") [] parts

/-- A result type after an arrow. -/
def arrowResult : Pattern := .written r"\)\s*->\s*([^:\x7b]+)"

/-- A result type after a colon. -/
def colonResult : Pattern := .written r"\)\s*:\s*([\w<>\[\]| ]+)\s*(?:=>|\x7b)"

/-- A result type before the block. -/
def plainResult : Pattern := .written r"\)\s*([\w\[\]*.]+)\s*\x7b"

/-- The first group of a match on a line, or nothing. -/
def partOf (form : Pattern) (line : Text) : Text :=
  match form.find? line with
  | some m => m.part 1
  | none => []

/-- The result type that a declaration shows. -/
def returnTypeOf (language : String) (line name : Text) : Text :=
  if language == "python" || language == "rust" then Text.trim (partOf arrowResult line)
  else if language == "typescript" then Text.trim (partOf colonResult line)
  else if language == "go" then partOf plainResult line
  else if language == "java" || language == "c" || language == "cpp" then
    ((Text.fields (line.take (nameSpan line name).1)).getLast?).getD []
  else []

/-- The word that makes a function asynchronous. -/
def asyncWord : Pattern := .bounded "async".toList

/-- The signature of the function of a name that is declared on a line. -/
def ofLine (language : String) (line name : Text) : FunctionSignature :=
  let result := returnTypeOf language line name
  { name := String.ofList name
    parameters := parametersOf language line name
    returnType := String.ofList result
    returnKind := ValueKind.ofType result
    isAsync := asyncWord.occurs line }

/-- The signature of the first function of a source. -/
def ofSource? (p : Prepared) : Option FunctionSignature :=
  p.maskedLines.findSome? fun line =>
    (FunctionSpan.nameOn p.language line).map fun name => ofLine p.language.name line name

end FunctionSignature
end SourceAudit
