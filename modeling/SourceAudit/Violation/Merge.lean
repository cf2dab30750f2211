import SourceAudit.Violation.Category

/-!
  One violation per line. The findings of a line are gone through in order;
  one that tells of the same problem as one kept before replaces it if its
  message is longer, and is dropped otherwise. Of those kept the best gives the
  violation its message and type, and the line is major if any of its findings
  is.
-/
namespace SourceAudit

/-- A violation of a line. -/
structure Issue where
  line : Int
  message : String
  severity : Severity
  category : String := ""
  type : String := ""
  deriving DecidableEq, Repr, Inhabited

namespace Merge

/-- A number put into a rising list of numbers, unless it is there. -/
def insertLine (n : Int) : List Int → List Int
  | [] => [n]
  | m :: rest =>
    if n < m then n :: m :: rest else if n == m then m :: rest else m :: insertLine n rest

/-- The lines of findings, rising. -/
def linesOf (raw : List RawIssue) : List Int := raw.foldl (fun ls i => insertLine i.line ls) []

/-- Whether two findings tell of the same problem. -/
def related (a b : RawIssue) : Bool :=
  Message.similar a.message b.message || Message.shortForm a.message b.message

/-- Takes one more finding: it meets the first one kept that is related to it, and the longer of
the two stays; if none is, it is kept as well. -/
def absorb : List RawIssue → RawIssue → List RawIssue
  | [], issue => [issue]
  | kept :: rest, issue =>
    if related kept issue then
      (if kept.message.length < issue.message.length then issue else kept) :: rest
    else kept :: absorb rest issue

/-- The findings kept of some. -/
def distinct (group : List RawIssue) : List RawIssue := group.foldl absorb []

/-- The severity of a line. -/
def severityOf (group : List RawIssue) : Severity :=
  if group.any fun i => i.severity == .major then .major else .minor

/-- The violation of a line, from its findings. -/
def issueOf (line : Int) (group : List RawIssue) : Option Issue :=
  match distinct group with
  | [] => none
  | first :: others =>
    let chosen := Message.best first others
    some ⟨line, chosen.message, severityOf group, Category.of chosen.message, chosen.kind⟩

/-- The findings of a line. -/
def onLine (line : Int) (raw : List RawIssue) : List RawIssue := raw.filter fun i => i.line == line

/-- The violations of all lines with findings, by line. -/
def issues (raw : List RawIssue) : List Issue :=
  (linesOf raw).filterMap fun line => issueOf line (onLine line raw)

end Merge
end SourceAudit
