import SourceAudit.Pattern.Notation

/-!
  Kinds of values: what a parameter or a result is taken for, by the type that
  is declared for it or else by the words of its name.

  A name is cut into words at every character that is neither an ASCII letter nor
  a digit, between small letters and a capital, between letters and digits, and
  before the last of several capitals if a small letter follows it.
-/
namespace SourceAudit

/-! ## Words of names -/

namespace NameWords

/-- Small ASCII letters. -/
def isSmall (c : Char) : Bool := decide ('a' ≤ c) && decide (c ≤ 'z')

/-- ASCII capitals. -/
def isCapital (c : Char) : Bool := decide ('A' ≤ c) && decide (c ≤ 'Z')

/-- Characters that belong to words. -/
def isPart (c : Char) : Bool := isSmall c || isCapital c || Unicode.isDigit c

/-- Whether a character goes on with the word that ends in another one, given what comes next. -/
def goesOn (last c : Char) (next : Option Char) : Bool :=
  if isSmall c then isSmall last || isCapital last
  else if isCapital c then isCapital last && !next.any isSmall
  else Unicode.isDigit last

/-- The word under way, given backwards, in front of some words. -/
def close (letters : Text) (rest : List Text) : List Text :=
  if letters.isEmpty then rest else letters.reverse :: rest

/-- The words of a name; the first argument is the word under way, backwards. -/
def cutFrom : Text → Text → List Text
  | letters, [] => close letters []
  | [], c :: rest => if isPart c then cutFrom [c] rest else cutFrom [] rest
  | last :: letters, c :: rest =>
    if !isPart c then close (last :: letters) (cutFrom [] rest)
    else if goesOn last c rest.head? then cutFrom (c :: last :: letters) rest
    else close (last :: letters) (cutFrom [c] rest)

/-- The words of a name in small letters. -/
def all (name : Text) : List Text := (cutFrom [] name).map Text.lower

end NameWords

/-! ## Kinds -/

/-- The kind of a value. -/
inductive ValueKind where
  | number
  | string
  | boolean
  | array
  | object
  | void
  | unknown
  deriving DecidableEq, Repr, Inhabited

namespace ValueKind

/-- The name of a kind. -/
def name : ValueKind → String
  | number => "number"
  | string => "string"
  | boolean => "boolean"
  | array => "array"
  | object => "object"
  | void => "void"
  | unknown => "unknown"

/-- The kinds that are known. -/
def known : List ValueKind := [number, string, boolean, array, object, void]

/-- The kind of a name. -/
def ofName (s : String) : ValueKind := (known.find? fun k => k.name == s).getD unknown

/-- How types of each kind look; the first that fits decides. -/
def typeForms : List (Pattern × ValueKind) := [
  (.written (r"\[\]|\bList\b|\blist\b|\bArray\b|\bvector\b|\bVec\b|\bSet\b|\bset\b" ++
    r"|\btuple\b|\w+\[\]"), array),
  (.written r"(?:\bvoid|\bNone|\(\))$", void),
  (.written r"\b(?:bool|boolean|Boolean)\b", boolean),
  (.written (r"\b(?:int|long|short|byte|float|double|number|Integer|Long|Double|Float|" ++
    r"u?int\d*|i\d+|u\d+|f\d+|usize|isize|size_t|bigint|BigInteger|BigDecimal)\b"), number),
  (.written r"\b(?:str|string|String|char|rune)\b", string),
  (.written r"\b(?:dict|Dict|Map|HashMap|map|object|Object|Record)\b", object)]

/-- The kind of a declared type. A pointer to numbers is an array, and a type that starts with a
capital and fits nothing else an object. -/
def ofType (declared : Text) : ValueKind :=
  let declared := Text.trim declared
  if declared.isEmpty then unknown
  else
    match typeForms.find? fun form => form.1.occurs declared with
    | some (_, kind) => if kind == number && declared.contains '*' then array else kind
    | none => if declared.head?.any Unicode.isUpper then object else unknown

/-- Words of names by the kind they stand for. -/
def nameWords : List (List String × ValueKind) := [
  (["count", "index", "idx", "num", "number", "size", "length", "len", "total", "amount", "age",
    "id", "max", "min", "limit", "offset", "n", "k", "x", "y", "width", "height", "price",
    "quantity", "score", "level", "depth", "target"], number),
  (["name", "text", "str", "string", "message", "msg", "title", "label", "path", "url", "word",
    "char", "prefix", "suffix", "email", "query", "key", "s"], string),
  (["is", "has", "should", "can", "enabled", "flag", "allow"], boolean),
  (["items", "list", "array", "arr", "values", "nums", "numbers", "elements", "data", "records",
    "rows", "matrix", "grid", "nodes"], array),
  (["config", "options", "opts", "obj", "map", "dict", "params"], object)]

/-- The kind that a word stands for. -/
def ofWord? (w : Text) : Option ValueKind :=
  (nameWords.find? fun entry => entry.1.contains (String.ofList w)).map (·.2)

/-- The words that a question starts with. -/
def questionWords : List String := ["is", "has", "should", "can"]

/-- The kind of a variable, by its name: a question is answered by yes or no, and otherwise the
last word that stands for a kind decides. -/
def ofVariable (name : Text) : ValueKind :=
  let words := NameWords.all name
  if words.head?.any fun w => questionWords.contains (String.ofList w) then boolean
  else (words.reverse.findSome? ofWord?).getD unknown

/-- The kind of a variable with the type declared for it. -/
def infer (name declared : Text) : ValueKind :=
  let kind := ofType declared
  if kind == unknown then ofVariable name else kind

end ValueKind

end SourceAudit
