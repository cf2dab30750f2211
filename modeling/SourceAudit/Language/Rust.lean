import SourceAudit.Language.Basic

/-! The table of Rust. -/
namespace SourceAudit
namespace Language

/-- Rust. -/
def rust : Language where
  name := "rust"
  extensions := [".rs"]
  keywords :=
    ["fn", "let", "mut", "impl", "trait", "struct", "enum", "pub", "use", "mod", "crate",
     "match", "loop", "while", "for", "in", "if", "else", "return", "break", "continue",
     "unsafe", "where", "Some", "None", "Ok", "Err", "self", "Self"]
  imports := ["use", "extern crate"]
  idioms := [
    .writtenByLine r"\bfn\s+\w+\s*(?:<[^>]*>)?\s*\(",
    .writtenByLine r"\blet\s+mut\b",
    .writtenByLine r"println!\(",
    .writtenByLine r"->\s*\w+",
    .writtenByLine r"//.*"]
  hallmarks := [
    .writtenByLine r"\bimpl\s+\w+",
    .writtenByLine r"\bmatch\s+\w+\s*\x7b",
    .writtenByLine r"&mut\s+\w+",
    .writtenByLine r"\w+!\("]
  lexemes := slashComments ++ [.quoted '"' false]
  functionForms := [
    .written r"\bfn\s+([A-Za-z_]\w*)\s*(?:<[^>]*>)?\s*\("]
  declarationForms := [
    .written r"\blet\s+(?:mut\s+)?([A-Za-z_]\w*)\b"]
  branchWords := ["if", "for", "while", "match", "loop"]
  branchMarks := [bothMark, eitherMark, choiceMark]
  loopWords := ["for", "while", "loop"]
  tryWord := none
  handlerWords := []
  debugForms := [
    .written r"\b(?:println|dbg|eprintln)!\s*\("]
  constantWords := ["const", "static"]

end Language
end SourceAudit
