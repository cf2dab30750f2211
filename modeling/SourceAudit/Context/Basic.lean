import SourceAudit.Context.Guards
import SourceAudit.Context.TryBlock

/-!
  What a source says about its own names (`Context`): which of them are bound
  by loops, tested against null or zero, and which lines are protected. The
  checks use it to leave guarded code alone.
-/
namespace SourceAudit

/-- The facts about the names of a source. -/
structure Context where
  bound : List Text := []
  nullChecked : List Text := []
  zeroChecked : List Text := []
  tryBlocks : List TryBlock := []
  keywords : List Text := []

namespace Context

/-- The facts about a source. -/
def ofSource (p : Prepared) : Context where
  bound := p.maskedLines.flatMap Guards.boundOn
  nullChecked := Guards.namesIn Guards.nullChecks p.maskedLines
  zeroChecked := Guards.namesIn Guards.zeroChecks p.maskedLines
  tryBlocks := TryBlock.all p
  keywords := p.language.keywords.map fun w => Text.lower w.toList

/-- The names on a line that are no keywords. -/
def namesOn (c : Context) (line : Text) : List Text := Names.onLine c.keywords line

/-- The first block whose body holds a line. -/
def enclosing? (c : Context) (line : Nat) : Option TryBlock :=
  c.tryBlocks.find? fun b => b.covers line

/-- Whether a line lies in the body of a block that has one of the line's names in its scope. -/
def isProtected (c : Context) (line : Nat) (text : Text) : Bool :=
  let names := c.namesOn text
  c.tryBlocks.any fun b => b.covers line && names.any fun name => b.scope.contains name

end Context
end SourceAudit
