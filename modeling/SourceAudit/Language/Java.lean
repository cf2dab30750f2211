import SourceAudit.Language.Basic

/-! The table of Java. -/
namespace SourceAudit
namespace Language

/-- Java. -/
def java : Language where
  name := "java"
  extensions := [".java"]
  keywords :=
    ["public", "private", "protected", "class", "interface", "extends", "implements",
     "import", "package", "static", "final", "void", "int", "double", "float", "char",
     "boolean", "new", "return", "if", "else", "for", "while", "do", "switch", "case",
     "default", "break", "continue", "try", "catch", "finally", "throw", "throws", "this",
     "super", "synchronized", "volatile", "transient", "abstract", "native", "strictfp",
     "enum", "assert", "instanceof", "null", "true", "false"]
  imports := ["import", "package"]
  idioms := [
    .writtenByLine r"public\s+class\s+\w+",
    .writtenByLine r"static\s+void\s+main\s*\(",
    .writtenByLine r"System\.out\.println\(",
    .writtenByLine r"//.*",
    .writtenByLine r"/\*[\s\S]*?\*/",
    .writtenByLine r"@\w+",
    .writtenByLine r"extends\s+\w+",
    .writtenByLine r"implements\s+\w+"]
  hallmarks := [
    .writtenByLine r"package\s+\w+(?:\.\w+)*",
    .writtenByLine r"import\s+\w+(?:\.\w+)*;",
    .writtenByLine r"throws\s+\w+",
    .writtenByLine r"@Override"]
  lexemes := slashComments ++ [.quoted '"' false, .quoted '\'' false]
  functionForms := [
    .written r"^\s*(?:(?:public|private|protected|static|final|abstract|synchronized)\s+)+[\w<>\[\], ]+?\s+([A-Za-z_]\w*)\s*\([^)]*\)\s*(?:throws\s+[\w., ]+)?\s*\x7b?\s*$"]
  declarationForms := [
    .written r"^\s*(?:final\s+)?(?:int|long|short|byte|double|float|char|boolean|String|var|[A-Z]\w*(?:<[^>]*>)?(?:\[\])?)\s+([a-z_]\w*)\s*(?:=|;)"]
  branchWords := ["if", "for", "while", "case", "catch"]
  branchMarks := [bothMark, eitherMark, choiceMark]
  debugForms := [
    .written r"\bSystem\.(?:out|err)\.print(?:ln|f)?\s*\("]

end Language
end SourceAudit
