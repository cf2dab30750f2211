import SourceAudit.Config.Fault
import SourceAudit.Skeleton.Sample
import SourceAudit.Skeleton.Signature

/-!
  Skeletons of test cases for the first function of a source: one for each case
  that applies. Boundaries are tested where there is a condition or a loop, large
  input where there is a loop or a collection. A source that has no function and
  reads no input gets a single skeleton.
-/
namespace SourceAudit

/-- A skeleton of a test case. -/
structure TestSkeleton where
  name : String
  description : String
  input : String
  expected : String
  category : String
  priority : String := "medium"
  deriving DecidableEq, Repr

namespace TestSkeleton

/-- How a case is called and described, and where it belongs. -/
structure Label where
  suffix : String
  description : String
  category : String
  priority : String

/-- The label of a case. -/
def label : SampleCase → Label
  | .normal =>
    ⟨"Happy Path", "Test with valid, typical input values", "normal", "high"⟩
  | .empty => ⟨"Empty Input", "Test with empty or null input values", "edge", "high"⟩
  | .boundary =>
    ⟨"Boundary Values", "Test with boundary values (min/max/edge cases)", "boundary", "medium"⟩
  | .invalid =>
    ⟨"Invalid Input", "Test with invalid or unexpected input types", "error", "medium"⟩
  | .large => ⟨"Large Input", "Test with large input values", "performance", "low"⟩

/-- Loops of any language. -/
def loopWord : Pattern := .boundedAny ["for", "while", "do"]

/-- Conditions of any language. -/
def conditionWord : Pattern := .boundedAny ["if", "switch", "case", "match"]

/-- Collections of any language. -/
def collectionForm : Pattern := .written r"\[|\b(?:Array|List|list|vector|Vec|map|Map|dict)\b"

/-- What reads input in any language. -/
def inputWord : Pattern :=
  .boundedAny ["input", "scanf", "readline", "readLine", "prompt", "argv", "args", "Scanner"]

/-- Names of numeric types, and numbers. -/
def numberForm : Pattern := .written r"\b(?:int|float|double|Integer|parseInt|\d+)\b"

/-- The skeleton of a source that has no function and reads no input. -/
def basic : TestSkeleton where
  name := "Basic Functionality Test"
  description := "Test basic functionality of the code"
  input := "sample_input"
  expected := "expected_output"
  category := "normal"

/-- The kind of input of a source whose first function has no parameters. -/
def fallbackKind (masked : Text) (hasCollection : Bool) : ValueKind :=
  if numberForm.occurs masked then .number else if hasCollection then .array else .unknown

/-- The skeleton of a case. -/
def ofCase (name language : String) (result : ValueKind) (kinds : List ValueKind)
    (case : SampleCase) : TestSkeleton :=
  let l := label case
  { name := name ++ " - " ++ l.suffix
    description := l.description
    input := ", ".intercalate (kinds.map fun k => Sample.value k case language)
    expected := Sample.expected result case
    category := l.category
    priority := l.priority }

/-- The skeletons of a source with its first function, if it has one. -/
def ofSignature (p : Prepared) (signature : Option FunctionSignature) : List TestSkeleton :=
  let masked := p.masked
  let parameters := match signature with
    | some s => s.parameters
    | none => []
  let hasLoop := loopWord.occurs masked
  let hasCollection :=
    parameters.any (fun q => q.kind == .array) || collectionForm.occurs masked
  let kinds := if parameters.isEmpty then [fallbackKind masked hasCollection]
    else parameters.map (·.kind)
  let applies : SampleCase → Bool
    | .boundary => hasLoop || conditionWord.occurs masked
    | .large => hasLoop || hasCollection
    | _ => true
  let name := match signature with
    | some s => s.name
    | none => "Function"
  let result := match signature with
    | some s => s.returnKind
    | none => .unknown
  (SampleCase.all.filter applies).map (ofCase name p.language.name result kinds)

/-- The things up to a limit, or all if there is none; a limit below zero counts from the end. -/
def upTo {α : Type} (limit : Option Int) (xs : List α) : List α :=
  match limit with
  | none => xs
  | some n => if 0 ≤ n then xs.take n.toNat else xs.take (xs.length - (-n).toNat)

/-- All skeletons for a source, and whether a limit is laid on them. -/
def drafts (p : Prepared) : List TestSkeleton × Bool :=
  if p.isBlank then ([], false)
  else
    match FunctionSignature.ofSource? p with
    | none => if inputWord.occurs p.masked then (ofSignature p none, true) else ([basic], false)
    | some s => (ofSignature p (some s), true)

/-- The skeletons for a source; a limit that is none counts only where one is needed. -/
def ofSource (limit : Except SettingFault (Option Int)) (p : Prepared) :
    Except SettingFault (List TestSkeleton) :=
  let (all, limited) := drafts p
  if limited then limit.map fun n => upTo n all else .ok all

end TestSkeleton
end SourceAudit
