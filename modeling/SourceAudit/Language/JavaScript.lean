import SourceAudit.Language.Basic

/-! The table of JavaScript. -/
namespace SourceAudit
namespace Language

/-- JavaScript. -/
def javaScript : Language where
  name := "javascript"
  extensions := [".js", ".mjs", ".cjs", ".jsx"]
  keywords :=
    ["function", "var", "let", "const", "class", "extends", "import", "export", "async",
     "await", "yield", "constructor", "super", "this", "prototype", "static", "get", "set",
     "new", "delete", "typeof", "instanceof", "in", "of", "with", "try", "catch", "finally",
     "throw", "switch", "case", "default", "break", "continue", "do", "while", "for", "if",
     "else", "return", "debugger", "void", "null", "undefined", "true", "false"]
  imports := ["import", "require", "module.exports", "export default", "export const",
              "export function"]
  idioms := [
    .writtenByLine r"function\s+\w+\s*\(",
    .writtenByLine r"=>\s*\x7b",
    .writtenByLine r"console\.log\(",
    .writtenByLine r"\.addEventListener\(",
    .writtenByLine r"document\.",
    .writtenByLine r"window\.",
    .writtenByLine r"//.*",
    .writtenByLine r"/\*[\s\S]*?\*/",
    .writtenByLine r"\bPromise\b",
    .writtenByLine r"\basync\b.*\bawait\b"]
  hallmarks := [
    .writtenByLine r"\$\(",
    .writtenByLine r"React\.",
    .writtenByLine r"useState\(",
    .writtenByLine r"process\.env",
    .writtenByLine r"module\.exports",
    .writtenByLine r"require\(.+\)",
    .writtenByLine r"export\s+(?:default|const|function|class)"]
  lexemes := slashComments ++ [.quoted '`' true, .quoted '"' false, .quoted '\'' false]
  functionForms := [
    .written r"\bfunction\s*\*?\s*([A-Za-z_$][\w$]*)\s*\(",
    .written r"\b(?:const|let|var)\s+([A-Za-z_$][\w$]*)\s*=\s*(?:async\s+)?(?:function\b|\([^)]*\)\s*=>|[A-Za-z_$][\w$]*\s*=>)",
    .written r"^\s*([A-Za-z_$][\w$]*)\s*:\s*(?:async\s+)?function\s*\("]
  declarationForms := [
    .written r"\b(?:let|const|var)\s+([A-Za-z_$][\w$]*)\s*(?:=|;|$)"]
  branchWords := ["if", "for", "while", "case", "catch"]
  branchMarks := [bothMark, eitherMark, choiceMark]
  debugForms := [
    .written r"\bconsole\.(?:log|debug|info|warn|error)\s*\("]
  constantWords := []

end Language
end SourceAudit
