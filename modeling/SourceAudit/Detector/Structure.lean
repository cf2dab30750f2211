import SourceAudit.Config.Thresholds
import SourceAudit.Context.Basic
import SourceAudit.Issue.Basic
import SourceAudit.Metrics.Basic

/-!
  Findings about the shape of a source: blocks nested too deep, functions too
  long, too few comments, and control flow without any protected block.
-/
namespace SourceAudit
namespace Detector

/-- Reports every line that opens a block deeper than the limit. -/
def deepNesting (limit : Quantity) (p : Prepared) : List RawIssue :=
  p.depths.zipIdx.filterMap fun (d, i) =>
    if limit.lt (.ofInt d.peak) then
      some ⟨i + 1, "Deep nesting (level " ++ toString d.peak ++
        ") - consider extracting nested blocks into helper methods", .major, "deep-nesting"⟩
    else none

/-- Reports functions longer than the first limit, as major those longer than the second. -/
def longFunction (warn fail : Quantity) (p : Prepared) : List RawIssue :=
  (FunctionSpan.usual p).filterMap fun f =>
    if warn.lt (.ofInt f.length) then
      some ⟨f.startLine, "Long function (" ++ toString f.length ++ " lines)",
        if fail.lt (.ofInt f.length) then .major else .minor, "long-method"⟩
    else none

/-- Comment lines in per cent of all lines. -/
def commentShareOfAll (p : Prepared) : Rat :=
  Number.toBinary (Number.ratio p.commentLineCount p.lines.length * 100)

/-- Reports a source with more lines than the minimum whose share of comment lines is below the
limit. -/
def commentDensity (minLines limit : Quantity) (p : Prepared) : List RawIssue :=
  if Quantity.le (.ofInt p.lines.length) minLines then []
  else if limit.le (.finite (commentShareOfAll p)) then []
  else [⟨1, "Insufficient comments - add documentation for better maintainability", .minor,
    "comment-density"⟩]

/-- Words of control flow. -/
def controlFlow : Pattern := .boundedAny ["if", "for", "while"]

/-- Names of functions that compute something. -/
def computeName : Pattern := .writtenAnyCase "^(?:compute|calculate)"

/-- The line of the first function that computes something, else the first line. -/
def computeLine (p : Prepared) : Nat :=
  match (FunctionSpan.usual p).find? fun f => (computeName.matchStart? f.name.toList).isSome with
  | some f => f.startLine
  | none => 1

/-- Reports a source longer than the minimum that has control flow and no protected block, in
languages that have such blocks. -/
def missingErrorHandling (minChars : Quantity) (p : Prepared) (c : Context) : List RawIssue :=
  match p.language.tryWord with
  | none => []
  | some word =>
    if Quantity.le (.ofInt p.text.length) minChars then []
    else if !controlFlow.occurs p.masked || !c.tryBlocks.isEmpty then []
    else [⟨computeLine p, "Missing error handling - consider adding " ++ word ++ "-" ++
      p.language.handlerWords.headD "catch" ++ " blocks for robust code", .major,
      "missing-error-handling"⟩]

end Detector
end SourceAudit
