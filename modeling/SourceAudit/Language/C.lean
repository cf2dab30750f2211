import SourceAudit.Language.Basic

/-! The table of C. -/
namespace SourceAudit
namespace Language

/-- C. -/
def c : Language where
  name := "c"
  extensions := [".c", ".h"]
  keywords :=
    ["int", "float", "double", "char", "void", "struct", "union", "enum", "typedef", "const",
     "volatile", "static", "extern", "register", "auto", "signed", "unsigned", "short",
     "long", "if", "else", "for", "while", "do", "switch", "case", "default", "break",
     "continue", "goto", "return", "sizeof", "NULL", "printf", "scanf", "main"]
  imports := ["#include"]
  idioms := [
    .writtenByLine r"#include\s+<\w+\.h>",
    .writtenByLine r"int\s+main\s*\(",
    .writtenByLine r"printf\(.+\)",
    .writtenByLine r"//.*",
    .writtenByLine r"/\*[\s\S]*?\*/",
    .writtenByLine r"->"]
  hallmarks := [
    .writtenByLine r"#define\s+\w+",
    .writtenByLine r"typedef\s+struct",
    .writtenByLine r"scanf\(.+\)"]
  lexemes := slashComments ++ [.quoted '"' false, .quoted '\'' false]
  functionForms := [
    .written r"^\s*(?:static\s+|inline\s+|extern\s+)*(?:unsigned\s+|signed\s+)?(?:void|int|long|short|char|float|double|bool|size_t|struct\s+\w+)\s*\**\s*([A-Za-z_]\w*)\s*\([^;]*\)\s*\x7b?\s*$"]
  declarationForms := [
    .written r"^\s*(?:const\s+|static\s+|unsigned\s+|signed\s+|long\s+|short\s+)*(?:int|long|short|char|float|double|bool|size_t|auto)\s*\*?\s+([A-Za-z_]\w*)\s*(?:=|;|\[)"]
  branchWords := ["if", "for", "while", "case"]
  branchMarks := [bothMark, eitherMark, choiceMark]
  tryWord := none
  handlerWords := []
  debugForms := [
    .written r"\bprintf\s*\("]

end Language
end SourceAudit
