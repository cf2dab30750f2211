import SourceAudit.Text.Basic

/-!
  Markup of console texts. A tag stands in brackets and starts with a small
  letter or one of the marks `#`, `/`, `@`. Text that must not be read as tags is
  escaped: the backslashes before a tag are doubled and one more is put before
  it, and a lone backslash at the end is doubled.
-/
namespace SourceAudit
namespace Markup

/-- A text between a tag and its closing counterpart. -/
def styled (style text : String) : String := "[" ++ style ++ "]" ++ text ++ "[/" ++ style ++ "]"

/-- Whether a character can follow the bracket of a tag. -/
def opensTag (c : Char) : Bool :=
  c.isLower || c == '#' || c == '/' || c == '@'

/-- The number of characters of the tag that a text starts with. -/
def tagLength? : Text → Option Nat
  | '[' :: c :: rest =>
    if opensTag c then
      let body := rest.takeWhile fun d => d != '[' && d != ']'
      if (rest.drop body.length).head? == some ']' then some (body.length + 3) else none
    else none
  | _ => none

/-- Escapes the tags of a text. The first argument is how many characters still belong to a tag,
the second one how many backslashes stand right before the text. -/
def escapeFrom : Nat → Nat → Text → Text
  | _, _, [] => []
  | inside + 1, _, c :: rest => c :: escapeFrom inside 0 rest
  | 0, before, c :: rest =>
    if c == '\\' then c :: escapeFrom 0 (before + 1) rest
    else
      match tagLength? (c :: rest) with
      | some n => List.replicate (before + 1) '\\' ++ c :: escapeFrom (n - 1) 0 rest
      | none => c :: escapeFrom 0 0 rest

/-- A text with a lone backslash at its end doubled. -/
def closed (t : Text) : Text :=
  match t.reverse with
  | ['\\'] => t ++ ['\\']
  | '\\' :: c :: _ => if c == '\\' then t else t ++ ['\\']
  | _ => t

/-- A text that no part of is read as a tag. -/
def escape (s : String) : String := String.ofList (closed (escapeFrom 0 0 s.toList))

end Markup
end SourceAudit
