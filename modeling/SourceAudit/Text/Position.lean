import SourceAudit.Text.Basic

/-!
  Lines and columns of offsets. The table of a text (`LineTable`) holds the
  offset at which each line starts; the line of an offset is the last one that
  starts at or before it. Lines and columns count from one.
-/
namespace SourceAudit

/-- The offsets at which the lines of a text start, in rising order. -/
structure LineTable where
  starts : List Nat
  deriving DecidableEq, Repr

namespace LineTable

/-- The offsets behind the newlines of a text that starts at `offset`. -/
def startsFrom : Nat → Text → List Nat
  | _, [] => []
  | offset, c :: rest =>
    if c == '\n' then (offset + 1) :: startsFrom (offset + 1) rest
    else startsFrom (offset + 1) rest

/-- The table of a text. -/
def ofText (t : Text) : LineTable := ⟨0 :: startsFrom 0 t⟩

/-- The line an offset lies in. -/
def lineOf (table : LineTable) (offset : Nat) : Nat :=
  (table.starts.takeWhile fun s => decide (s ≤ offset)).length

/-- The column of an offset in its line. -/
def columnOf (table : LineTable) (offset : Nat) : Nat :=
  offset - table.starts.getD (table.lineOf offset - 1) 0 + 1

/-- The line and the column of an offset. An offset below zero lies in no line: it has line zero,
and its column counts from the start of the last line. -/
def positionOf (table : LineTable) : Int → Nat × Int
  | .ofNat offset => (table.lineOf offset, table.columnOf offset)
  | .negSucc n => (0, .negSucc n - table.starts.getLastD 0 + 1)

end LineTable
end SourceAudit
