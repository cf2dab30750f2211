import SourceAudit.Language.Basic

/-! The table of Python. -/
namespace SourceAudit
namespace Language

/-- Python. -/
def python : Language where
  name := "python"
  extensions := [".py", ".pyw"]
  keywords :=
    ["def", "class", "import", "from", "as", "if", "elif", "else", "for", "while", "try",
     "except", "finally", "with", "lambda", "return", "yield", "global", "nonlocal", "assert",
     "del", "pass", "break", "continue", "raise", "True", "False", "None", "self", "print",
     "in", "is", "not", "and", "or"]
  imports := ["import", "from"]
  idioms := [
    .writtenByLine r"def\s+\w+\s*\(",
    .writtenByLine r"class\s+\w+\s*\(?\w*\)?:",
    .writtenByLine r"print\(.+\)",
    .writtenByLine r"#.*$",
    .writtenByLine r#""""[\s\S]*?""""#,
    .writtenByLine r"\bself\b",
    .writtenByLine r":\s*\w+\s*=\s*\w+"]
  hallmarks := [
    .writtenByLine r#"if __name__ == ['\"]__main__['\"]:"#,
    .writtenByLine r"@\w+",
    .writtenByLine r"except\s+\w+\s+as\s+\w+",
    .writtenByLine r"with\s+open\(.+\)\s+as\s+\w+:"]
  lexemes := [
    .blockComment "\"\"\"" "\"\"\"",
    .blockComment "'''" "'''",
    .lineComment "#",
    .quoted '"' false,
    .quoted '\'' false]
  functionForms := [
    .written r"^\s*(?:async\s+)?def\s+([A-Za-z_]\w*)\s*\("]
  declarationForms := [
    .written r"^\s*([A-Za-z_]\w*)\s*(?::\s*[\w\[\], .]+)?\s*=(?!=)"]
  branchWords := ["if", "elif", "for", "while", "except", "and", "or"]
  loopWords := ["for", "while"]
  layout := .indentation
  handlerWords := ["except"]
  debugForms := [
    .written r"^\s*print\s*\("]
  constantWords := []

end Language
end SourceAudit
