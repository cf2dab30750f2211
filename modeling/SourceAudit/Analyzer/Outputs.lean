import SourceAudit.Analyzer.Basic

/-!
  The outputs of the stages that do not wait for one another: complexity,
  detectors, security and the gateway. Each fills its own place, so the order in
  which they finish does not matter.
-/
namespace SourceAudit

/-- What the independent stages work on: a source, the name under which its language was found, and
what is prepared of it by the table of that name. -/
structure Subject where
  source : Text
  language : String
  prepared : Prepared
  context : Context

/-- What the independent stages put out; a stage that fails puts out nothing. -/
structure Outputs where
  complexity : Option Complexity := none
  findings : Option (List RawIssue) := none
  security : Option SecurityReport := none
  exchange : Option Remote.Exchange := none

namespace Stage

/-- The independent stages in the order in which they are started. -/
def independent : List Stage := [complexity, detectors, security, gateway]

end Stage

namespace Analyzer

/-- What the detectors find, in their order; a detector that fails finds nothing. -/
def findings (a : Analyzer) (s : Subject) : List RawIssue :=
  Detector.findings a.detectors s.prepared s.context

/-- The outputs after one more stage has finished. -/
def finish (a : Analyzer) (s : Subject) (o : Outputs) : Stage → Outputs
  | .complexity =>
    { o with
      complexity := a.guarded .complexity fun _ => some (Complexity.ofSource s.prepared) }
  | .detectors => { o with findings := a.guarded .detectors fun _ => some (a.findings s) }
  | .security =>
    { o with security := a.guarded .security fun _ => some (SecurityReport.ofText s.source) }
  | .gateway =>
    if a.gateway.isActive then
      { o with
        exchange := a.guarded .gateway fun _ => some (a.gateway.ask s.source s.language) }
    else o
  | _ => o

/-- The outputs of stages that finish in the given order. -/
def outputs (a : Analyzer) (s : Subject) (order : List Stage) : Outputs :=
  order.foldl (a.finish s) {}

end Analyzer
end SourceAudit
