import SourceAudit.Number.Hexadecimal
import SourceAudit.Text.Basic

/-!
  Texts and keys of TOML. A text stands between single quotes, where every
  character is itself, or between double quotes, where a backslash starts an
  escape; three quotes allow line breaks. A key is a sequence of parts with dots
  between them.
-/
namespace SourceAudit
namespace Toml

/-- Spaces and tabs. -/
def isSpace (c : Char) : Bool := c == ' ' || c == '\t'

/-- What follows the spaces and tabs of a text. -/
def skipSpace (t : Text) : Text := t.dropWhile isSpace

/-- Control characters other than the tab: nowhere allowed but for line breaks. -/
def isControl (c : Char) : Bool := (decide (c.toNat < 32) && c != '\t') || c.toNat == 127

/-- Characters of a key without quotes. -/
def isKeyPart (c : Char) : Bool := c.isAlphanum || c == '-' || c == '_'

/-- The character that an escape without digits stands for. -/
def plainEscape? (c : Char) : Option Char :=
  match c with
  | 'b' => some (Char.ofNat 8)
  | 't' => some '\t'
  | 'n' => some '\n'
  | 'f' => some (Char.ofNat 12)
  | 'r' => some '\r'
  | '"' => some '"'
  | '\\' => some '\\'
  | _ => none

/-- The character of a number, if there is one. -/
def character? (n : Nat) : Option Char := if n.isValidChar then some (Char.ofNat n) else none

/-- The character that `width` hexadecimal digits stand for, with what follows them. -/
def numberedEscape? (width : Nat) (t : Text) : Option (Char × Text) :=
  if t.length < width then none
  else
    match (Number.ofHexDigits? (t.take width)).bind character? with
    | some c => some (c, t.drop width)
    | none => none

/-- What an escape, after its backslash, adds to a text, with what follows. In texts of several
lines a backslash at the end of a line takes away the line break and the blanks after it. -/
def escape? (severalLines : Bool) : Text → Option (Text × Text)
  | [] => none
  | c :: rest =>
    if c == 'u' then (numberedEscape? 4 rest).map fun (d, r) => ([d], r)
    else if c == 'U' then (numberedEscape? 8 rest).map fun (d, r) => ([d], r)
    else
      match plainEscape? c with
      | some d => some ([d], rest)
      | none =>
        if severalLines && (isSpace c || c == '\n') then
          match skipSpace (c :: rest) with
          | [] => some ([], [])
          | '\n' :: r => some ([], r.dropWhile fun d => isSpace d || d == '\n')
          | _ => none
        else none

/-- A text between double quotes on one line, after the first quote; the first argument bounds
the characters, the last is what was read so far, backwards. -/
def escaped? : Nat → Text → Text → Option (Text × Text)
  | 0, _, _ => none
  | _, [], _ => none
  | fuel + 1, c :: rest, done =>
    if c == '"' then some (done.reverse, rest)
    else if c == '\\' then
      match escape? false rest with
      | some (part, r) => escaped? fuel r (part.reverse ++ done)
      | none => none
    else if isControl c then none
    else escaped? fuel rest (c :: done)

/-- A text between single quotes on one line, after the first quote. -/
def plain? (t : Text) : Option (Text × Text) :=
  let body := t.takeWhile (· != '\'')
  match t.dropWhile (· != '\'') with
  | _ :: rest => if body.any isControl then none else some (body, rest)
  | [] => none

/-- Up to two more quotes in front of the closing three belong to the text. -/
def withTrailing (quote : Char) (body : Text) : Text → Text × Text
  | c :: d :: rest =>
    if c == quote && d == quote then (body ++ [c, d], rest)
    else if c == quote then (body ++ [c], d :: rest)
    else (body, c :: d :: rest)
  | [c] => if c == quote then (body ++ [c], []) else (body, [c])
  | [] => (body, [])

/-- A text between three double quotes, after the first three. -/
def escapedLines? : Nat → Text → Text → Option (Text × Text)
  | 0, _, _ => none
  | _, [], _ => none
  | fuel + 1, c :: rest, done =>
    if c == '"' && rest.take 2 == ['"', '"'] then
      some (withTrailing '"' done.reverse (rest.drop 2))
    else if c == '\\' then
      match escape? true rest with
      | some (part, r) => escapedLines? fuel r (part.reverse ++ done)
      | none => none
    else if isControl c && c != '\n' then none
    else escapedLines? fuel rest (c :: done)

/-- A text between three single quotes, after the first three. -/
def plainLines? : Text → Text → Option (Text × Text)
  | [], _ => none
  | c :: rest, done =>
    if c == '\'' && rest.take 2 == ['\'', '\''] then
      some (withTrailing '\'' done.reverse (rest.drop 2))
    else if isControl c && c != '\n' then none
    else plainLines? rest (c :: done)

/-- What follows a line break right after the opening quotes. -/
def skipFirstBreak : Text → Text
  | '\n' :: rest => rest
  | t => t

/-- A text in quotes of any kind, from its first quote. -/
def quoted? : Text → Option (Text × Text)
  | '"' :: '"' :: '"' :: rest => escapedLines? (rest.length + 1) (skipFirstBreak rest) []
  | '\'' :: '\'' :: '\'' :: rest => plainLines? (skipFirstBreak rest) []
  | '"' :: rest => escaped? (rest.length + 1) rest []
  | '\'' :: rest => plain? rest
  | _ => none

/-- One part of a key: bare, or between quotes on one line. -/
def keyPart? : Text → Option (String × Text)
  | '"' :: rest => (escaped? (rest.length + 1) rest []).map fun (s, r) => (String.ofList s, r)
  | '\'' :: rest => (plain? rest).map fun (s, r) => (String.ofList s, r)
  | t =>
    let part := t.takeWhile isKeyPart
    if part.isEmpty then none else some (String.ofList part, t.dropWhile isKeyPart)

/-- The parts of a key; the first argument bounds their number. -/
def key? : Nat → Text → Option (List String × Text)
  | 0, _ => none
  | fuel + 1, t =>
    match keyPart? t with
    | none => none
    | some (part, rest) =>
      match skipSpace rest with
      | '.' :: more => (key? fuel (skipSpace more)).map fun (parts, r) => (part :: parts, r)
      | rest => some ([part], rest)

end Toml
end SourceAudit
