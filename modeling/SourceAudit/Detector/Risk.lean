import SourceAudit.Config.Thresholds
import SourceAudit.Context.Basic
import SourceAudit.Issue.Basic
import SourceAudit.Metrics.FunctionSpan

/-!
  Operations that can fail at run time (`RiskyOperation`). An operation found on
  a line is reported unless the line is protected or what the operation works
  on is known to be safe; how it becomes safe is the guard of the operation.
  Per operation only the first lines are reported.
-/
namespace SourceAudit

/-- What makes an operation safe: a subject tested against null; the same, or a receiver that is
never null; an index or collection bound by a loop or tested; a divisor tested against zero or a
number other than zero; a subject of known type; a method that declares what it throws. -/
inductive Guard where
  | none
  | nonNull
  | receiver
  | bounds
  | nonZero
  | typed
  | declared
  deriving DecidableEq, Repr

/-- A kind of operation that can fail: how it looks, where it counts, and what makes it safe. A
statement is safe anywhere in a protected block, handlers included; on lines that match `exempt`
the operation is never looked for. -/
structure RiskyOperation where
  id : String
  form : Pattern
  message : String
  languages : List String
  guard : Guard := .none
  statement : Bool := false
  exempt : Option Pattern := Option.none

namespace RiskyOperation

/-- Receivers that are global, a name space, or the object itself. -/
def safeReceivers : List Text :=
  ["this", "self", "super", "console", "window", "document", "process", "module",
   "exports", "require", "fs", "path", "os", "sys", "json", "math", "re", "std",
   "fmt"].map String.toList

/-- A call of a method of a name. -/
def receiverCall : Pattern :=
  .written r"(?<![\w$.?])(?P<subject>[A-Za-z_$][\w$]*)\s*\.\s*[A-Za-z_$][\w$]*\s*\("

/-- An element of a collection. -/
def indexed : Pattern := .written r"\b(?P<subject>\w+)\[\s*(?P<index>\w+)\s*\]"

/-- A division by a name or a number. -/
def division : Pattern :=
  .written r"[\w)\]]\s*(?<![/*])//?(?![/=*])\s*(?P<subject>[A-Za-z_]\w*|\d+(?:\.\d+)?)"

/-- A new error thrown. -/
def thrown : Pattern := .written r"\bthrow\s+new\s+\w+"

/-- The names of JavaScript and its typed sister. -/
def scriptLanguages : List String := ["javascript", "typescript"]

/-- The operations that are looked for. -/
def catalogue : List RiskyOperation := [
  { id := "json-parse"
    form := .written r"\bJSON\.parse\s*\(\s*(?P<subject>[A-Za-z_$][\w$]*)?"
    message := "Unhandled JSON.parse could throw on invalid JSON"
    languages := scriptLanguages
    guard := .nonNull },
  { id := "file-system"
    form := .written r"\bfs\.\w+Sync\s*\("
    message := "Unhandled synchronous file operations may throw exceptions"
    languages := scriptLanguages },
  { id := "null-unsafe"
    form := receiverCall
    message := "Potential null/undefined property access without checks"
    languages := scriptLanguages
    guard := .receiver },
  { id := "array-unsafe"
    form := indexed
    message := "Array access without bounds checking"
    languages := scriptLanguages ++ ["python", "c", "cpp"]
    guard := .bounds },
  { id := "explicit-throw"
    form := thrown
    message := "Explicit throw statement not within try-catch"
    languages := scriptLanguages
    statement := true },
  { id := "await-without-catch"
    form := .written r"\bawait\s+[A-Za-z_$][\w$.]*"
    message := "Awaited promise without error handling"
    languages := scriptLanguages
    exempt := some (.written r"\.catch\s*\(") },
  { id := "java-arithmetic"
    form := division
    message := "Division operation may cause ArithmeticException if divisor is zero"
    languages := ["java"]
    guard := .nonZero },
  { id := "division"
    form := division
    message := "Division operation may fail if divisor is zero"
    languages := ["python", "c", "cpp", "go"]
    guard := .nonZero
    exempt := some (.written r"^\s*#") },
  { id := "java-null-pointer"
    form := receiverCall
    message := "Potential NullPointerException without null check"
    languages := ["java"]
    guard := .receiver },
  { id := "java-array-index"
    form := indexed
    message := "Potential ArrayIndexOutOfBoundsException without bounds check"
    languages := ["java"]
    guard := .bounds },
  { id := "java-cast"
    form := .written r"\(\s*(?P<type>[A-Z]\w*)\s*\)\s*(?P<subject>[a-z_]\w*)"
    message := "Type casting may cause ClassCastException"
    languages := ["java"]
    guard := .typed },
  { id := "java-throw"
    form := thrown
    message := "Exception thrown without being caught or declared"
    languages := ["java"]
    guard := .declared
    statement := true },
  { id := "json-loads"
    form := .written r"\bjson\.loads?\s*\(\s*(?P<subject>[A-Za-z_]\w*)?"
    message := "Unhandled json.loads could raise on invalid JSON"
    languages := ["python"]
    guard := .nonNull },
  { id := "bare-open"
    form := .written r"(?<![\w.])open\s*\("
    message := "File opened outside a with statement may leak or raise"
    languages := ["python"]
    exempt := some (.written r"^\s*(?:async\s+)?with\b") },
  { id := "explicit-raise"
    form := .written r"^\s*raise\b"
    message := "Explicit raise statement not within try-except"
    languages := ["python"]
    statement := true }]

/-- Whether a divisor written in digits is other than zero. -/
def isNonZeroNumber (t : Text) : Bool :=
  let whole := t.takeWhile (· != '.')
  let places := (t.dropWhile (· != '.')).drop 1
  let n := (whole ++ places).foldl (fun n d => 10 * n + (Unicode.digitValue? d).getD 0) 0
  !(Quantity.ofDecimal false n (-(places.length : Int))).isZero

/-- Whether a name is known to hold something. -/
def isKnown (c : Context) (name : Option Text) : Bool :=
  match name with
  | some n => c.nullChecked.contains n
  | Option.none => false

/-- Whether a name is bound by a loop. -/
def isBound (c : Context) (name : Option Text) : Bool :=
  match name with
  | some n => c.bound.contains n
  | Option.none => false

/-- Whether what a match works on is safe. -/
def isGuarded (guard : Guard) (c : Context) (m : Match) : Bool :=
  let subject := m.named? "subject"
  match guard with
  | .none | .declared => false
  | .nonNull | .typed => isKnown c subject
  | .receiver =>
    let name := subject.getD []
    safeReceivers.contains name || name.head?.any Unicode.isUpper || isKnown c subject
  | .bounds =>
    let index := m.named? "index"
    isBound c index || isBound c subject || isKnown c index || isKnown c subject
  | .nonZero =>
    match subject with
    | Option.none => false
    | some name =>
      if name.head?.any Unicode.isDigit then isNonZeroNumber name
      else c.zeroChecked.contains name

/-- The word by which a method declares what it throws. -/
def throwsWord : Pattern := .bounded "throws".toList

/-- Whether the last method declared in some lines declares what it throws; the lines come last
first. -/
def declaresThrows (l : Language) (linesUp : List Text) : Bool :=
  match linesUp.find? fun line => Pattern.anyOccurs l.functionForms line with
  | some line => throwsWord.occurs line
  | Option.none => false

/-- Whether a line, counted from zero, lies anywhere in a protected block. -/
def inTryBlock (c : Context) (i : Nat) : Bool :=
  c.tryBlocks.any fun b => decide (b.start ≤ i + 1) && decide (i + 1 ≤ b.stop)

/-- Whether the operation stands unguarded on line `i`, counted from zero. -/
def isUnguarded (op : RiskyOperation) (p : Prepared) (c : Context) (i : Nat) (line : Text) : Bool :=
  let found := op.form.findAll line
  if found.isEmpty then false
  else if op.statement && inTryBlock c i then false
  else if c.isProtected (i + 1) line then false
  else if op.guard == .declared && declaresThrows p.language (p.maskedLines.take (i + 1)).reverse then
    false
  else found.any fun m => !isGuarded op.guard c m

/-- Whether the operation is looked for on a line. -/
def isExempt (op : RiskyOperation) (line : Text) : Bool :=
  match op.exempt with
  | some form => form.occurs line
  | Option.none => false

/-- The lines, counted from one, on which the operation stands unguarded. -/
def unguardedLines (op : RiskyOperation) (p : Prepared) (c : Context) : List Nat :=
  p.maskedLines.zipIdx.filterMap fun (line, i) =>
    if !line.isBlank && !op.isExempt line && op.isUnguarded p c i line then some (i + 1) else none

/-- The operations of a list that are looked for in a language. -/
def applicable (ops : List RiskyOperation) (l : Language) : List RiskyOperation :=
  ops.filter fun op => op.languages.contains l.name

/-- Reports for each operation the first `limit` lines on which it stands unguarded. -/
def report (limit : Nat) (ops : List RiskyOperation) (p : Prepared) (c : Context) : List RawIssue :=
  (applicable ops p.language).flatMap fun op =>
    ((op.unguardedLines p c).take limit).map fun (line : Nat) => ⟨line, op.message, .major, op.id⟩

end RiskyOperation
end SourceAudit
