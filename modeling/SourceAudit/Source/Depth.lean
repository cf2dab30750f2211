import SourceAudit.Text.Basic

/-!
  Depths of blocks. For each line, the depth after it and the depth of the
  deepest block opened on it (its peak, zero if it opens none).

  Between braces the depth rises and falls with them and never goes below zero.
  By indentation a block is open while the lines are at least as wide as its
  first line, and a line that ends in a colon opens one.
-/
namespace SourceAudit

/-- The depth after a line, and the depth of the deepest block opened on it. -/
structure Depth where
  after : Nat
  peak : Nat
  deriving DecidableEq, Repr, Inhabited

namespace Depth

/-- One character in the count of braces. -/
def braceStep (d : Depth) (c : Char) : Depth :=
  if c == '\x7b' then ⟨d.after + 1, max d.peak (d.after + 1)⟩
  else if c == '\x7d' then ⟨d.after - 1, d.peak⟩
  else d

/-- A line in the count of braces, from the depth before it. -/
def braceLine (before : Nat) (line : Text) : Depth := line.foldl braceStep ⟨before, 0⟩

/-- The depths of lines with braces, from the depth before them. -/
def bracesFrom : Nat → List Text → List Depth
  | _, [] => []
  | before, line :: rest =>
    let d := braceLine before line
    d :: bracesFrom d.after rest

/-- The depths of lines with braces. -/
def braces (lines : List Text) : List Depth := bracesFrom 0 lines

/-- The widths of the blocks that stay open at a line of the given width, innermost first: wider
ones are closed, and a line wider than all opens one. -/
def openAt (width : Nat) (blocks : List Nat) : List Nat :=
  let kept := blocks.dropWhile fun w => decide (width < w)
  if kept.headD 0 < width then width :: kept else kept

/-- The depths of indented lines; the first argument is the depth before them and the second the
widths of the open blocks, innermost first. -/
def indentedFrom : Nat → List Nat → List Text → List Depth
  | _, _, [] => []
  | before, blocks, line :: rest =>
    if line.isBlank then ⟨before, 0⟩ :: indentedFrom before blocks rest
    else
      let blocks := openAt line.indentWidth blocks
      let level := blocks.length
      if line.trimRight.getLast? == some ':' then
        ⟨level + 1, level + 1⟩ :: indentedFrom (level + 1) blocks rest
      else ⟨level, 0⟩ :: indentedFrom level blocks rest

/-- The depths of indented lines. -/
def indented (lines : List Text) : List Depth := indentedFrom 0 [] lines

end Depth
end SourceAudit
