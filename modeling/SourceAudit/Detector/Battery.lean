import SourceAudit.Detector.Structure
import SourceAudit.Detector.Variables
import SourceAudit.Detector.Statements
import SourceAudit.Detector.Duplicates
import SourceAudit.Detector.Risk

/-!
  The detectors in the order in which they run. A detector has a name and a
  check; a check that cannot be carried out, since a threshold is of no use,
  fails. Detectors do not see one another's findings.
-/
namespace SourceAudit

/-- A named check. -/
structure Detector where
  name : String
  check : Prepared → Context → Except SettingFault (List RawIssue)

namespace Detector

/-- A check that never fails. -/
def total (name : String) (check : Prepared → Context → List RawIssue) : Detector :=
  ⟨name, fun p c => .ok (check p c)⟩

/-- Comments: the number of lines that are too few to report has to be a number. -/
def fewComments (t : Thresholds) (p : Prepared) : Except SettingFault (List RawIssue) :=
  t.commentDensityMinLines.map fun n => commentDensity n t.commentDensityFail p

/-- Protected blocks: the length that is too small to report has to be a number, in languages that
have such blocks. -/
def noProtection (t : Thresholds) (p : Prepared) (c : Context) :
    Except SettingFault (List RawIssue) :=
  match p.language.tryWord with
  | none => .ok []
  | some _ => t.errorHandlingMinChars.map fun n => missingErrorHandling n p c

/-- Repeated code: the block size has to be a whole number once there are rows enough. -/
def duplicateCode (t : Thresholds) (p : Prepared) : Except SettingFault (List RawIssue) :=
  let rows := Duplicates.rows p
  let few := match t.duplicateWindow with
    | .finite q => decide ((rows.length : Rat) < q * 2)
    | .infinite _ => true
    | _ => false
  if few then .ok []
  else do
    let n ← t.duplicateRows
    let least ← t.duplicateMinChars
    return Duplicates.find n.toNat
      (fun block => least.lt (.ofInt (Duplicates.blockLength block))) rows

/-- Unguarded operations: the number of lines has to be whole once an operation applies. -/
def riskyOperations (t : Thresholds) (p : Prepared) (c : Context) :
    Except SettingFault (List RawIssue) :=
  if (RiskyOperation.applicable RiskyOperation.catalogue p.language).isEmpty then .ok []
  else t.maxRiskyLines.map fun n => RiskyOperation.report n.toNat RiskyOperation.catalogue p c

/-- The detectors under some thresholds. -/
def battery (t : Thresholds) : List Detector := [
  total "deep_nesting" fun p _ => deepNesting t.nestingWarn p,
  total "long_function" fun p _ => longFunction t.functionLengthWarn t.functionLengthFail p,
  ⟨"missing_error_handling", noProtection t⟩,
  ⟨"comment_density", fun p _ => fewComments t p⟩,
  total "short_variable_names" shortVariableNames,
  total "magic_numbers" fun p _ => magicNumbers t.exemptNumbers p,
  total "unused_variables" fun p _ => unusedVariables p,
  ⟨"duplicate_code", fun p _ => duplicateCode t p⟩,
  total "dead_code" fun p _ => deadCode p,
  ⟨"risky_operations", riskyOperations t⟩,
  total "debug_statements" fun p _ => debugStatements p,
  total "todo_comments" fun p _ => todoComments p]

/-- What a battery finds: the findings of its detectors in order, failing ones left out. -/
def findings (detectors : List Detector) (p : Prepared) (c : Context) : List RawIssue :=
  detectors.flatMap fun d => ((d.check p c).toOption).getD []

end Detector
end SourceAudit
