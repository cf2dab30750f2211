import SourceAudit.Source.Prepared

/-!
  The names that count as variables: those on a line, without the words of the
  language, and those of a parameter list.
-/
namespace SourceAudit
namespace Names

/-- Words that are no variable in any of the languages. -/
def commonWords : List Text :=
  ["if", "else", "for", "while", "do", "return", "new", "this", "self", "try", "catch",
   "except", "finally", "throw", "raise", "function", "const", "let", "var", "await",
   "async", "true", "false", "null", "undefined", "None", "True", "False", "in", "of",
   "and", "or", "not", "is", "def", "int", "long", "double", "float", "char", "void",
   "String", "boolean", "typeof", "instanceof", "with", "as"].map String.toList

/-- The names on a line that are neither common words nor keywords, whatever their case. -/
def onLine (keywords : List Text) (line : Text) : List Text :=
  (Text.names line).filter fun name =>
    !commonWords.contains name && !keywords.contains (Text.lower name)

/-- The name of one parameter: what stands before a default and a type, without leading dots, and
of that the last word. A parameter that is taken apart has none. -/
def ofParameter (param : Text) : Option Text :=
  let param := Text.trim param
  match param with
  | [] => none
  | c :: _ =>
    if c == '\x7b' || c == '[' then none
    else
      let head := (param.takeWhile (· != '=')).takeWhile (· != ':')
      let head := (Text.trim head).dropWhile (· == '.')
      match (Text.fields head).getLast? with
      | none => none
      | some name => if Unicode.isIdentifier name then some name else none

/-- The names of a parameter list. -/
def ofParameters (list : Text) : List Text := (Text.splitOn ',' list).filterMap ofParameter

end Names
end SourceAudit
