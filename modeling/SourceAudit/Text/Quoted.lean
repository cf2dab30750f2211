import SourceAudit.Number.Hexadecimal
import SourceAudit.Text.Basic

/-!
  Texts in quotes, as messages show them. The quote is the single one, unless
  the text holds single quotes and no double ones. Backslashes and the quote
  itself follow a backslash, and a character that has no shape is written by its
  number.
-/
namespace SourceAudit
namespace Quoted

/-- A character by its number: two, four or eight digits, as many as it takes. -/
def numbered (n : Nat) : Text :=
  if n < 0x100 then '\\' :: 'x' :: Number.hexDigits 2 n
  else if n < 0x10000 then '\\' :: 'u' :: Number.hexDigits 4 n
  else '\\' :: 'U' :: Number.hexDigits 8 n

/-- A character between quotes. -/
def escape (quote c : Char) : Text :=
  if c == quote || c == '\\' then ['\\', c]
  else if c == '\n' then ['\\', 'n']
  else if c == '\r' then ['\\', 'r']
  else if c == '\t' then ['\\', 't']
  else if Unicode.isShown c then [c]
  else numbered c.toNat

/-- The quote for a text. -/
def quoteFor (t : Text) : Char := if t.contains '\'' && !t.contains '"' then '"' else '\''

/-- A text in quotes. -/
def encode (t : Text) : Text :=
  let quote := quoteFor t
  quote :: t.flatMap (escape quote) ++ [quote]

/-- A text in quotes, as a string. -/
def ofString (s : String) : String := String.ofList (encode s.toList)

end Quoted
end SourceAudit
