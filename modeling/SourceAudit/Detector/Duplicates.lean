import SourceAudit.Issue.Basic
import SourceAudit.Source.Prepared

/-!
  Repeated code. The rows of a source are its lines without comments and
  without blanks around them, the empty ones left out. A block is a number of
  rows in a row; a block that starts at two rows or more is reported once, and a
  longer repetition only by its first block.
-/
namespace SourceAudit
namespace Duplicates

/-- A row: its line, counted from one, and its text. -/
structure Row where
  line : Nat
  text : Text
  deriving DecidableEq, Repr

/-- The rows of a source. -/
def rows (p : Prepared) : List Row :=
  p.codeLines.zipIdx.filterMap fun (line, i) =>
    if line.isBlank then none else some ⟨i + 1, line.trim⟩

/-- The texts of the block of a size that starts each list of rows. -/
def blocks (size : Nat) : List Text → List (List Text)
  | [] => []
  | t :: rest =>
    if rest.length + 1 < size then [] else (t :: rest).take size :: blocks size rest

/-- The length of a block: its texts and the line breaks between them. -/
def blockLength (block : List Text) : Nat :=
  (block.map List.length).foldr (· + ·) 0 + (block.length - 1)

/-- The places at which a block starts. -/
def startsOf (block : List Text) (all : List (List Text)) : List Nat :=
  (all.zipIdx.filter fun b => b.1 == block).map (·.2)

/-- The places of every block that is long enough and is repeated, in the order of the first. -/
def repeats (long : List Text → Bool) (all : List (List Text)) : List (List Nat) :=
  all.zipIdx.filterMap fun (block, i) =>
    if long block then
      let starts := startsOf block all
      if starts.head? == some i && decide (2 ≤ starts.length) then some starts else none
    else none

/-- The places that do not go on, one further each, with the places before them; the first
argument holds the places before. -/
def leading : List Nat → List (List Nat) → List (List Nat)
  | _, [] => []
  | before, starts :: rest =>
    if starts == before.map (· + 1) then leading starts rest
    else starts :: leading starts rest

/-- Reports each repeated block with the lines it starts at. -/
def report (rows : List Row) (starts : List Nat) : RawIssue :=
  let lines := starts.map fun s => (rows.getD s ⟨0, []⟩).line
  ⟨lines.headD 0, "Duplicate code block found at lines: " ++
    ", ".intercalate (lines.map toString), .major, "duplicate-code"⟩

/-- The repeated blocks of `size` rows that are longer than the minimum. -/
def find (size : Nat) (long : List Text → Bool) (rows : List Row) : List RawIssue :=
  if rows.length < size * 2 then []
  else (leading [] (repeats long (blocks size (rows.map (·.text))))).map (report rows)

end Duplicates
end SourceAudit
