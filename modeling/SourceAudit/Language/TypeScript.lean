import SourceAudit.Language.Basic

/-! The table of TypeScript. -/
namespace SourceAudit
namespace Language

/-- TypeScript. -/
def typeScript : Language where
  name := "typescript"
  extensions := [".ts", ".tsx", ".mts", ".cts"]
  keywords :=
    ["interface", "type", "enum", "namespace", "implements", "extends", "public", "private",
     "protected", "readonly", "abstract", "declare", "as", "any", "unknown", "never", "void",
     "number", "string", "boolean", "symbol", "bigint", "infer", "keyof", "typeof", "asserts",
     "is", "from", "global", "module", "require", "import", "export", "const", "let", "var",
     "function", "class", "super", "this", "new", "return", "if", "else", "for", "while",
     "do", "switch", "case", "default", "break", "continue", "try", "catch", "finally",
     "throw", "yield", "await", "static", "get", "set"]
  imports := ["import", "export", "from", "require"]
  idioms := [
    .writtenByLine r":\s*(?:string|number|boolean|void|any|unknown|never|symbol|bigint)",
    .writtenByLine r"interface\s+\w+",
    .writtenByLine r"type\s+\w+\s*=",
    .writtenByLine r"function\s+\w+\s*\([^)]*\)\s*:\s*\w+",
    .writtenByLine r"\w+\s*:\s*\w+(?:\[\])?",
    .writtenByLine r"readonly\s+\w+",
    .writtenByLine r"abstract\s+class",
    .writtenByLine r"declare\s+(?:module|global|function|const|let|var|class|interface|type)"]
  hallmarks := [
    .writtenByLine r"React\.FC",
    .writtenByLine r"useState<\w+>",
    .writtenByLine r"as\s+\w+",
    .writtenByLine r"implements\s+\w+",
    .writtenByLine r"enum\s+\w+",
    .writtenByLine r"namespace\s+\w+",
    .writtenByLine r"type\s+\w+\s*=",
    .writtenByLine r"interface\s+\w+",
    .writtenByLine r"import\s+type\s+\x7b.*\x7d"]
  lexemes := slashComments ++ [.quoted '`' true, .quoted '"' false, .quoted '\'' false]
  functionForms := [
    .written r"\bfunction\s*\*?\s*([A-Za-z_$][\w$]*)\s*(?:<[^>]*>)?\s*\(",
    .written r"\b(?:const|let|var)\s+([A-Za-z_$][\w$]*)\s*(?::[^=]+)?=\s*(?:async\s+)?(?:function\b|\([^)]*\)\s*(?::\s*[^=]+)?=>|[A-Za-z_$][\w$]*\s*=>)",
    .written r"^\s*(?:public|private|protected)\s+(?:static\s+)?(?:async\s+)?([A-Za-z_$][\w$]*)\s*\("]
  declarationForms := [
    .written r"\b(?:let|const|var)\s+([A-Za-z_$][\w$]*)\s*(?:=|;|$)"]
  branchWords := ["if", "for", "while", "case", "catch"]
  branchMarks := [bothMark, eitherMark, choiceMark]
  debugForms := [
    .written r"\bconsole\.(?:log|debug|info|warn|error)\s*\("]
  constantWords := []

end Language
end SourceAudit
