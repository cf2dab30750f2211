import SourceAudit.Pattern.Notation

/-!
  Parameter lists. A list is cut at the commas outside of brackets, where angle
  brackets count as brackets; a parameter gives a name and the type declared for
  it, as the language writes them.
-/
namespace SourceAudit
namespace Parameters

/-- The change of depth at a character. -/
def depthOf (c : Char) : Int :=
  if c == '(' || c == '[' || c == '\x7b' || c == '<' then 1
  else if c == ')' || c == ']' || c == '\x7d' || c == '>' then -1
  else 0

/-- The parts of a list between the commas at depth zero; the second argument is the part under
way, backwards. -/
def splitFrom : Int → Text → Text → List Text
  | _, current, [] => [current.reverse]
  | depth, current, c :: rest =>
    let depth := depth + depthOf c
    if c == ',' && depth == 0 then current.reverse :: splitFrom depth [] rest
    else splitFrom depth (c :: current) rest

/-- The parts of a list that are not blank, without blanks around them. -/
def split (list : Text) : List Text :=
  ((splitFrom 0 [] list).map Text.trim).filter fun part => !part.isEmpty

/-- Words in place of a parameter that name none. -/
def markers : List String := ["self", "cls", "this", "&self", "&mut self", "..."]

/-- The languages in which a colon stands between the name and the type. -/
def colonLanguages : List String := ["python", "javascript", "typescript", "rust"]

/-- A text with every occurrence of a part taken out. -/
def without (part : Text) : Text → Text
  | [] => []
  | c :: rest => removeFrom part 0 (c :: rest)
where
  /-- Goes over a text; the second argument counts the characters ahead that are taken out. -/
  removeFrom (part : Text) : Nat → Text → Text
    | _, [] => []
    | skip + 1, _ :: rest => removeFrom part skip rest
    | 0, c :: rest =>
      if !part.isEmpty && part.isPrefixOf (c :: rest) then removeFrom part (part.length - 1) rest
      else c :: removeFrom part 0 rest

/-- A text with blanks around every occurrence of a character. -/
def spaced (mark : Char) (t : Text) : Text :=
  t.flatMap fun c => if c == mark then [' ', c, ' '] else [c]

/-- A text without the given characters at its ends. -/
def trimOf (marks : List Char) (t : Text) : Text :=
  ((t.dropWhile marks.contains).reverse.dropWhile marks.contains).reverse

/-- Name and type with a colon between them; stars, dots and the word for a variable that changes
stand before the name. -/
def ofColon (param : Text) : Text × Text :=
  let name := Text.trim (param.takeWhile (· != ':'))
  let name := name.dropWhile fun c => c == '*' || c == '.'
  (Text.trim (without "mut ".toList name), Text.trim ((param.dropWhile (· != ':')).drop 1))

/-- The name, and after a blank the type. -/
def ofNameFirst (param : Text) : Text × Text :=
  (param.takeWhile fun c => !Unicode.isBlank c,
    Text.trimLeft (param.dropWhile fun c => !Unicode.isBlank c))

/-- The type, and last the name; brackets after the name belong to the type. -/
def ofTypeFirst (param : Text) : Text × Text :=
  let words := Text.fields (spaced '&' (spaced '*' param))
  let declared := Text.joinWith [' '] words.dropLast
  (trimOf ['[', ']'] (words.getLast?.getD []),
    if param.endsWith "[]".toList then declared ++ "[]".toList else declared)

/-- Name and type of a parameter, if it is one; a default does not count. -/
def parse (language : String) (param : Text) : Option (Text × Text) :=
  let param := Text.trim (param.takeWhile (· != '='))
  if param.isEmpty || markers.contains (String.ofList param) then none
  else if colonLanguages.contains language then some (ofColon param)
  else if language == "go" then some (ofNameFirst param)
  else some (ofTypeFirst param)

end Parameters
end SourceAudit
