import SourceAudit.Language.Basic

/-! The table of Go. -/
namespace SourceAudit
namespace Language

/-- Go. -/
def go : Language where
  name := "go"
  extensions := [".go"]
  keywords :=
    ["func", "package", "import", "var", "const", "type", "struct", "interface", "map",
     "chan", "go", "defer", "select", "range", "fallthrough", "goto", "if", "else", "for",
     "switch", "case", "default", "break", "continue", "return", "nil"]
  imports := ["import", "package"]
  idioms := [
    .writtenByLine r"\bfunc\s+(?:\([^)]*\)\s*)?\w+\s*\(",
    .writtenByLine r":=",
    .writtenByLine r"fmt\.Print(?:ln|f)?\(",
    .writtenByLine r"//.*"]
  hallmarks := [
    .writtenByLine r"package\s+main",
    .writtenByLine r"\bgo\s+func\b",
    .writtenByLine r"\bchan\s+\w+",
    .writtenByLine r"if\s+err\s*!=\s*nil"]
  lexemes := slashComments ++ [.quoted '`' true, .quoted '"' false, .quoted '\'' false]
  functionForms := [
    .written r"\bfunc\s+(?:\([^)]*\)\s*)?([A-Za-z_]\w*)\s*\("]
  declarationForms := [
    .written r"\b([A-Za-z_]\w*)\s*:=",
    .written r"\bvar\s+([A-Za-z_]\w*)\b"]
  branchWords := ["if", "for", "case", "select"]
  branchMarks := [bothMark, eitherMark]
  loopWords := ["for"]
  tryWord := none
  handlerWords := []
  debugForms := [
    .written r"\bfmt\.Print(?:ln|f)?\s*\("]

end Language
end SourceAudit
