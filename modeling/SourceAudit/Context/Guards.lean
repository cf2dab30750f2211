import SourceAudit.Context.Names

/-!
  Names that a source has made safe: bound by a loop or a callback over a
  collection, compared with null or known not to be null, compared with zero.
-/
namespace SourceAudit
namespace Guards

/-- The first group of every match of some patterns in some lines. -/
def namesIn (patterns : List Pattern) (lines : List Text) : List Text :=
  lines.flatMap fun line =>
    patterns.flatMap fun p => (p.findAll line).map fun m => m.part 1

/-- The words for null, as alternatives. -/
def nulls : String := "(?:null|undefined|NULL|nullptr|nil|None)"

/-- Headers of loops that bind one name. -/
def loopHeaders : List Pattern := [
  .written (r"\bfor\s*\(\s*(?:let\s+|var\s+|const\s+|int\s+|long\s+|short\s+|byte\s+" ++
    r"|size_t\s+|unsigned\s+|auto\s+)?(\w+)\s*="),
  .written r"\bfor\s*\(\s*(?:const\s+|let\s+|var\s+)?(\w+)\s+(?:of|in)\b",
  .written r"\bfor\s*\(\s*(?:final\s+|const\s+)?[\w:<>\[\]]+\s*[&*]?\s+(\w+)\s*:(?!:)",
  .written r"\bfor\s+(\w+)(?:\s*,\s*\w+)?\s*:=",
  .written r"\bfor\s+\w+\s*,\s*(\w+)\s*:=\s*range\b"]

/-- Headers of loops that bind a list of names. -/
def loopOverNames : Pattern := .written r"\bfor\s+\(?\s*(\w+(?:\s*,\s*\w+)*)\s*\)?\s+in\b"

/-- Callbacks over a collection: a function, an arrow with a parameter list, or one with a single
name. -/
def collectionCallback : Pattern :=
  .written (r"\.(?:forEach|map|filter|reduce|some|every|find|findIndex|flatMap)\s*\(\s*" ++
    r"(?:function\s*\(\s*([^)]*)\)|\(\s*([^)]*)\)\s*=>|(\w+)\s*=>)")

/-- The names that a callback binds. -/
def callbackNames (m : Match) : List Text :=
  match m.capture? (.place 1), m.capture? (.place 2), m.capture? (.place 3) with
  | some c, _, _ => Names.ofParameters c.text
  | none, some c, _ => Names.ofParameters c.text
  | none, none, some c => [c.text]
  | none, none, none => []

/-- The names that loops and callbacks bind on a line. -/
def boundOn (line : Text) : List Text :=
  namesIn loopHeaders [line] ++
    ((loopOverNames.findAll line).flatMap fun m => (Text.splitOn ',' (m.part 1)).map Text.trim) ++
    ((collectionCallback.findAll line).flatMap callbackNames)

/-- Tests against null, in any order, by type, or by the first value given. -/
def nullChecks : List Pattern := [
  .written (r"\b(\w+)\s*(?:!=|!==)\s*" ++ nulls ++ r"\b"),
  .written (r"\b" ++ nulls ++ r"\s*(?:!=|!==)\s*(\w+)\b"),
  .written (r"\bif\s*\(\s*(\w+)\s*(?:==|===)\s*" ++ nulls ++ r"\s*\)"),
  .written r"\bObjects\.nonNull\s*\(\s*(\w+)\s*\)",
  .written r"\b(\w+)\.isPresent\s*\(\s*\)",
  .written r"\b(\w+)\?\.",
  .written r"\b(\w+)\s*\?\?",
  .written r"\b(\w+)\s+is\s+not\s+None\b",
  .written r"\bif\s+(?:not\s+)?(\w+)\s*:",
  .written r"\bif\s*\(\s*!?\s*(\w+)\s*\)",
  .written r"\btypeof\s+(\w+)\s*[!=]==",
  .written r"\bisinstance\s*\(\s*(\w+)\s*,",
  .written r"\b(\w+)\s+instanceof\b",
  .written r#"\b(?:const|let|var)\s+(\w+)\s*=\s*(?:\[|\x7b|new\b|["'`]|\d)"#]

/-- Comparisons with zero. -/
def zeroChecks : List Pattern := [
  .written r"\b(\w+)\s*(?:!=|!==|>|==|===)\s*0(?![\w.])",
  .written r"(?<![\w.])0\s*(?:!=|!==|<|==|===)\s*(\w+)\b"]

end Guards
end SourceAudit
