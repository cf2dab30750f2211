import SourceAudit.Document.Value
import SourceAudit.Number.Hexadecimal
import SourceAudit.Text.Basic

/-!
  Values as JSON text, in ASCII: other characters are written as the escapes of
  their UTF-16 units. A text on one line has a space after each comma and
  colon; a text on several lines is indented by two spaces a level.
-/
namespace SourceAudit
namespace Json

/-- The escape of one UTF-16 unit. -/
def escapeUnit (n : Nat) : Text := '\\' :: 'u' :: Number.hexDigits 4 n

/-- A character inside a JSON string. -/
def escapeChar (c : Char) : Text :=
  let n := c.toNat
  if c == '"' then ['\\', '"']
  else if c == '\\' then ['\\', '\\']
  else if c == '\n' then ['\\', 'n']
  else if c == '\r' then ['\\', 'r']
  else if c == '\t' then ['\\', 't']
  else if n == 8 then ['\\', 'b']
  else if n == 12 then ['\\', 'f']
  else if 32 ≤ n ∧ n ≤ 126 then [c]
  else if n < 0x10000 then escapeUnit n
  else
    let m := n - 0x10000
    escapeUnit (0xd800 + m / 0x400) ++ escapeUnit (0xdc00 + m % 0x400)

/-- A JSON string. -/
def string (s : String) : String :=
  "\"" ++ String.ofList (s.toList.flatMap escapeChar) ++ "\""

/-- The text of a quantity in JSON. -/
def number (q : Quantity) : String := q.textWith "Infinity" "NaN"

mutual

/-- A value on one line. -/
def compact : Value → String
  | .null => "null"
  | .flag b => if b then "true" else "false"
  | .whole n => toString n
  | .real q => number q
  | .text s => string s
  | .moment _ s => string s
  | .list items => "[" ++ ", ".intercalate (compactItems items) ++ "]"
  | .table entries => "\x7b" ++ ", ".intercalate (compactEntries entries) ++ "\x7d"

/-- The items of a list, each on one line. -/
def compactItems : List Value → List String
  | [] => []
  | v :: rest => compact v :: compactItems rest

/-- The entries of a table, each on one line. -/
def compactEntries : List (String × Value) → List String
  | [] => []
  | (name, v) :: rest => (string name ++ ": " ++ compact v) :: compactEntries rest

end

mutual

/-- A value with the entries of its tables, at every level, in the order of their names. -/
def sorted : Value → Value
  | .list items => .list (sortedItems items)
  | .table entries =>
    .table ((sortedEntries entries).mergeSort fun a b => decide (a.1 ≤ b.1))
  | v => v

/-- The items of a list, each with sorted tables. -/
def sortedItems : List Value → List Value
  | [] => []
  | v :: rest => sorted v :: sortedItems rest

/-- The entries of a table, each with sorted tables. -/
def sortedEntries : List (String × Value) → List (String × Value)
  | [] => []
  | (name, v) :: rest => (name, sorted v) :: sortedEntries rest

end

/-- A line break and the indentation of a level. -/
def newLine (level : Nat) : String := "\n" ++ String.ofList (List.replicate (2 * level) ' ')

mutual

/-- A value on several lines, indented from the given level on. -/
def indented (level : Nat) : Value → String
  | .list [] => "[]"
  | .list (v :: rest) =>
    "[" ++ newLine (level + 1) ++
      ("," ++ newLine (level + 1)).intercalate (indentedItems (level + 1) (v :: rest)) ++
      newLine level ++ "]"
  | .table [] => "\x7b\x7d"
  | .table (e :: rest) =>
    "\x7b" ++ newLine (level + 1) ++
      ("," ++ newLine (level + 1)).intercalate (indentedEntries (level + 1) (e :: rest)) ++
      newLine level ++ "\x7d"
  | v => compact v

/-- The items of a list on several lines. -/
def indentedItems (level : Nat) : List Value → List String
  | [] => []
  | v :: rest => indented level v :: indentedItems level rest

/-- The entries of a table on several lines. -/
def indentedEntries (level : Nat) : List (String × Value) → List String
  | [] => []
  | (name, v) :: rest =>
    (string name ++ ": " ++ indented level v) :: indentedEntries level rest

end

end Json
end SourceAudit
