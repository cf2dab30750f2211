import SourceAudit.Document.Toml.Scalar
import SourceAudit.Document.Toml.Word

/-!
  Statements of TOML: an entry with a key and a value, the head of a table, and
  the head of one more element of a list of tables. Each ends with its line; a
  comment may stand before the end.

  Values nest, so reading takes a bound; the length of the text is one. A value
  that nests too deep (`maxHeight`) is refused.
-/
namespace SourceAudit
namespace Toml

/-- A value as written: a table between braces still has the keys of its entries. -/
inductive Expr where
  | scalar (v : Value)
  | list (items : List Expr)
  | table (entries : List (List String × Expr))

mutual

/-- How deep a value nests: a list adds two to what it holds, a table three. -/
def Expr.height : Expr → Nat
  | .scalar _ => 0
  | .list items => heightOfItems items + 2
  | .table entries => heightOfEntries entries + 3

/-- The greatest height of some items. -/
def heightOfItems : List Expr → Nat
  | [] => 0
  | e :: rest => max e.height (heightOfItems rest)

/-- The greatest height of the values of some entries. -/
def heightOfEntries : List (List String × Expr) → Nat
  | [] => 0
  | (_, e) :: rest => max e.height (heightOfEntries rest)

end

/-- The greatest height of a value that is read. -/
def maxHeight : Nat := 980

/-- A statement. -/
inductive Statement where
  | entry (key : List String) (value : Expr)
  | table (key : List String)
  | element (key : List String)

/-- What follows a comment at the head of a text; nothing if the comment holds a control
character. -/
def skipComment? : Text → Option Text
  | '#' :: rest =>
    if (rest.takeWhile (· != '\n')).any isControl then none
    else some (rest.dropWhile (· != '\n'))
  | t => some t

/-- What follows the blanks, line breaks and comments of a list; the first argument bounds the
comments. -/
def skipFiller? : Nat → Text → Option Text
  | 0, t => some t
  | fuel + 1, t =>
    match t.dropWhile fun c => isSpace c || c == '\n' with
    | '#' :: rest => (skipComment? ('#' :: rest)).bind (skipFiller? fuel)
    | rest => some rest

/-- A key and the value after its equals sign, from the reader of values. -/
def pairWith? (value? : Text → Option (Expr × Text)) (t : Text) :
    Option ((List String × Expr) × Text) :=
  match key? (t.length + 1) t with
  | some (key, '=' :: rest) => (value? (skipSpace rest)).map fun (v, r) => ((key, v), r)
  | _ => none

mutual

/-- A value at the head of a text. -/
def value? : Nat → Text → Option (Expr × Text)
  | 0, _ => none
  | fuel + 1, t =>
    match t with
    | '"' :: _ | '\'' :: _ => (quoted? t).map fun (s, r) => (.scalar (.text (String.ofList s)), r)
    | 't' :: 'r' :: 'u' :: 'e' :: rest => some (.scalar (.flag true), rest)
    | 'f' :: 'a' :: 'l' :: 's' :: 'e' :: rest => some (.scalar (.flag false), rest)
    | '[' :: rest => (items? fuel rest).map fun (es, r) => (.list es, r)
    | '\x7b' :: rest =>
      match skipSpace rest with
      | '\x7d' :: r => some (.table [], r)
      | r => (pairs? fuel r).map fun (es, r) => (.table es, r)
    | _ => (scalar? t).map fun (v, r) => (.scalar v, r)

/-- The items of a list up to the closing bracket. -/
def items? : Nat → Text → Option (List Expr × Text)
  | 0, _ => none
  | fuel + 1, t =>
    match skipFiller? (t.length + 1) t with
    | none => none
    | some (']' :: rest) => some ([], rest)
    | some rest =>
      match value? fuel rest with
      | none => none
      | some (v, after) =>
        match skipFiller? (after.length + 1) after with
        | some (']' :: rest) => some ([v], rest)
        | some (',' :: rest) => (items? fuel rest).map fun (vs, r) => (v :: vs, r)
        | _ => none

/-- The entries of a table up to the closing brace; at least one. -/
def pairs? : Nat → Text → Option (List (List String × Expr) × Text)
  | 0, _ => none
  | fuel + 1, t =>
    match pairWith? (value? fuel) t with
    | none => none
    | some (pair, after) =>
      match skipSpace after with
      | '\x7d' :: rest => some ([pair], rest)
      | ',' :: rest => (pairs? fuel (skipSpace rest)).map fun (ps, r) => (pair :: ps, r)
      | _ => none

end

/-- A statement at the head of a text that starts with neither blanks nor a comment. -/
def statement? (t : Text) : Option (Statement × Text) :=
  match t with
  | '[' :: '[' :: rest =>
    match key? (rest.length + 1) (skipSpace rest) with
    | some (key, ']' :: ']' :: r) => some (.element key, r)
    | _ => none
  | '[' :: rest =>
    match key? (rest.length + 1) (skipSpace rest) with
    | some (key, ']' :: r) => some (.table key, r)
    | _ => none
  | _ =>
    match pairWith? (value? (t.length + 1)) t with
    | some ((key, v), r) => if v.height ≤ maxHeight then some (.entry key v, r) else none
    | none => none

/-- What follows the end of a line, where only blanks and a comment may stand before it. -/
def endLine? (t : Text) : Option Text :=
  match skipComment? (skipSpace t) with
  | some [] => some []
  | some ('\n' :: rest) => some rest
  | _ => none

/-- The statements of a text; the first argument bounds the lines. -/
def statementsFrom? : Nat → Text → Option (List Statement)
  | 0, _ => none
  | fuel + 1, t =>
    match skipSpace t with
    | [] => some []
    | '\n' :: rest => statementsFrom? fuel rest
    | '#' :: rest => (endLine? ('#' :: rest)).bind (statementsFrom? fuel)
    | rest =>
      match statement? rest with
      | none => none
      | some (s, after) =>
        match endLine? after with
        | none => none
        | some next => (statementsFrom? fuel next).map (s :: ·)

/-- A text with every line break of two characters made one. -/
def oneBreak : Text → Text
  | '\r' :: '\n' :: rest => '\n' :: oneBreak rest
  | c :: rest => c :: oneBreak rest
  | [] => []

/-- The statements of a text. -/
def statements? (t : Text) : Option (List Statement) :=
  statementsFrom? (t.length + 2) (oneBreak t)

end Toml
end SourceAudit
