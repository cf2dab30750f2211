import SourceAudit.Security.Signature
import SourceAudit.Text.Position

/-!
  The report on vulnerabilities. Each signature is reported once, on the line of
  its first match. The score is 100 less the penalties of the findings, and not
  below zero; the grade goes by the score, the summary by the gravest findings.
-/
namespace SourceAudit

/-- A vulnerability that was found. -/
structure SecurityFinding where
  id : String
  title : String
  severity : Risk
  category : String
  weakness : String
  form : String
  suggestion : String
  sample : String := ""
  description : String := ""
  topic : String := ""
  line : Option Int := none
  deriving DecidableEq, Repr

/-- The report on the vulnerabilities of a source. -/
structure SecurityReport where
  findings : List SecurityFinding := []
  score : Int := 100
  grade : String := "A"
  summary : String := ""
  deriving DecidableEq, Repr, Inhabited

namespace SecurityFinding

/-- The finding of a signature on a line. -/
def ofSignature (s : Signature) (line : Option Int) : SecurityFinding where
  id := s.id
  title := s.title
  severity := s.severity
  category := s.category
  weakness := s.weakness
  form := s.form
  suggestion := s.suggestion
  sample := s.sample
  description := s.description
  topic := s.topic
  line := line

/-- The vulnerabilities of a text. -/
def ofText (t : Text) : List SecurityFinding :=
  if t.isBlank then []
  else
    let table := LineTable.ofText t
    Signature.readied.filterMap fun (s, p) =>
      (p.find? t).map fun m => ofSignature s (some (table.lineOf m.start))

/-- Those to be dealt with first, the gravest first. -/
def urgent (findings : List SecurityFinding) : List SecurityFinding :=
  (findings.filter fun f => f.severity.isUrgent).mergeSort fun a b =>
    decide (b.severity.rank ≤ a.severity.rank)

/-- How often each text stands among some, in order of appearance. -/
def tally (names : List String) : List (String × Nat) :=
  names.eraseDups.map fun n => (n, names.count n)

/-- The topics of the findings, counted; findings without a topic are left out. -/
def topics (findings : List SecurityFinding) : List (String × Nat) :=
  tally ((findings.map (·.topic)).filter fun t => !t.isEmpty)

/-- The weaknesses of the findings, counted. -/
def weaknesses (findings : List SecurityFinding) : List (String × Nat) :=
  tally (findings.map (·.weakness))

end SecurityFinding

namespace SecurityReport

/-- The score of some findings. -/
def scoreOf (findings : List SecurityFinding) : Int :=
  let penalty : Nat := (findings.map fun f => f.severity.penalty).foldr (· + ·) 0
  max 0 (100 - (penalty : Int))

/-- The grade of a score. -/
def gradeOf (score : Int) : String :=
  if 90 ≤ score then "A" else if 80 ≤ score then "B" else if 70 ≤ score then "C"
  else if 60 ≤ score then "D" else "F"

/-- The number of findings of a degree. -/
def countOf (r : Risk) (findings : List SecurityFinding) : Nat :=
  findings.countP fun f => f.severity == r

/-- The summary of some findings. -/
def summaryOf (findings : List SecurityFinding) : String :=
  let critical := countOf .critical findings
  let high := countOf .high findings
  let medium := countOf .medium findings
  if critical != 0 then
    toString critical ++ " critical vulnerabilities require immediate attention"
  else if high != 0 then toString high ++ " high-severity issues need to be addressed"
  else if medium != 0 then toString medium ++ " medium-severity issues found"
  else if !findings.isEmpty then toString findings.length ++ " minor security issues detected"
  else "No major security vulnerabilities detected"

/-- The report on some findings. -/
def ofFindings (findings : List SecurityFinding) : SecurityReport where
  findings := findings
  score := scoreOf findings
  grade := gradeOf (scoreOf findings)
  summary := summaryOf findings

/-- The report on a text. -/
def ofText (t : Text) : SecurityReport := ofFindings (SecurityFinding.ofText t)

/-- What is advised whatever the findings. -/
def practices : List String := [
  "Implement automated security testing in CI/CD pipeline",
  "Regular security code reviews and penetration testing",
  "Keep dependencies updated and monitor for vulnerabilities",
  "Implement proper logging and monitoring for security events",
  "Use static application security testing (SAST) tools",
  "Implement dynamic application security testing (DAST)",
  "Follow secure coding guidelines and standards",
  "Implement security training for development team"]

end SecurityReport
end SourceAudit
