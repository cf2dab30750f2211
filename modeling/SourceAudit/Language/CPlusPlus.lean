import SourceAudit.Language.Basic

/-! The table of C++. -/
namespace SourceAudit
namespace Language

/-- C++. -/
def cPlusPlus : Language where
  name := "cpp"
  extensions := [".cpp", ".cc", ".cxx", ".hpp", ".hh", ".h"]
  keywords :=
    ["int", "float", "double", "char", "void", "struct", "union", "enum", "typedef", "const",
     "volatile", "static", "extern", "register", "auto", "signed", "unsigned", "short",
     "long", "if", "else", "for", "while", "do", "switch", "case", "default", "break",
     "continue", "goto", "return", "sizeof", "NULL", "cout", "cin", "endl", "namespace",
     "using", "std", "class", "public", "private", "protected", "virtual", "override",
     "template", "typename", "this", "new", "delete", "try", "catch", "throw", "operator",
     "friend", "explicit", "mutable", "constexpr", "noexcept", "static_cast", "dynamic_cast",
     "reinterpret_cast", "const_cast", "typeid", "main"]
  imports := ["#include", "using namespace"]
  idioms := [
    .writtenByLine r"#include\s+<\w+\.h>",
    .writtenByLine r"int\s+main\s*\(",
    .writtenByLine r"std::cout",
    .writtenByLine r"std::cin",
    .writtenByLine r"//.*",
    .writtenByLine r"/\*[\s\S]*?\*/",
    .writtenByLine r"->"]
  hallmarks := [
    .writtenByLine r"#define\s+\w+",
    .writtenByLine r"typedef\s+struct",
    .writtenByLine r"cin\s*>>",
    .writtenByLine r"cout\s*<<",
    .writtenByLine r"using\s+namespace\s+std",
    .writtenByLine r"template\s*<.*>"]
  lexemes := slashComments ++ [.quoted '"' false, .quoted '\'' false]
  functionForms := [
    .written r"^\s*(?:static\s+|inline\s+|virtual\s+|constexpr\s+)*(?:unsigned\s+|signed\s+)?(?:void|int|long|short|char|float|double|bool|size_t|auto|std::\w+(?:<[^>]*>)?|\w+::\w+)\s*[*&]*\s*([A-Za-z_]\w*)\s*\([^;]*\)\s*(?:const\s*)?(?:noexcept\s*)?\x7b?\s*$"]
  declarationForms := [
    .written r"^\s*(?:const\s+|static\s+|unsigned\s+|signed\s+|long\s+|short\s+)*(?:int|long|short|char|float|double|bool|size_t|auto)\s*\*?\s+([A-Za-z_]\w*)\s*(?:=|;|\[)"]
  branchWords := ["if", "for", "while", "case", "catch"]
  branchMarks := [bothMark, eitherMark, choiceMark]
  debugForms := [
    .written r"\b(?:std::)?cout\s*<<",
    .written r"\bprintf\s*\("]
  constantWords := ["const", "constexpr"]

end Language
end SourceAudit
