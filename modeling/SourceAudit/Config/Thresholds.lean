import SourceAudit.Config.Fault
import SourceAudit.Number.Quantity

/-!
  The numbers that decide when a detector reports (`Thresholds`), with the
  values they have unless set otherwise. The three that nothing validates need
  not be numbers, and the two that count rows or lines need not be whole: then
  the fault stands in their place.
-/
namespace SourceAudit

/-- The thresholds of the detectors. -/
structure Thresholds where
  cyclomaticWarn : Quantity := .ofInt 10
  cyclomaticFail : Quantity := .ofInt 15
  functionLengthWarn : Quantity := .ofInt 25
  functionLengthFail : Quantity := .ofInt 40
  nestingWarn : Quantity := .ofInt 4
  nestingFail : Quantity := .ofInt 6
  commentDensityWarn : Quantity := .ofInt 10
  commentDensityFail : Quantity := .ofInt 5
  commentDensityMinLines : Except SettingFault Quantity := .ok (.ofInt 20)
  duplicateWindow : Quantity := .ofInt 3
  duplicateRows : Except SettingFault Int := .ok 3
  duplicateMinChars : Except SettingFault Quantity := .ok (.ofInt 20)
  exemptNumbers : List String := ["0", "1", "2", "10", "100", "1000"]
  maxRiskyLines : Except SettingFault Int := .ok 3
  errorHandlingMinChars : Except SettingFault Quantity := .ok (.ofInt 100)

end SourceAudit
