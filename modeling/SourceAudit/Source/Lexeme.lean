import SourceAudit.Text.Basic

/-!
  Comments and literals. A rule (`Lexeme`) says how many characters, from a
  place of a text on, belong to one comment or literal; it may look at what
  stands before the place as well. Masking goes through a text from left to
  right; where a rule applies, the stretch it takes is replaced, and the search
  goes on behind it. Every replacement keeps the length and the newlines, so
  lines and columns of a masked text are those of the text.
-/
namespace SourceAudit

/-- The two kinds of stretches that are not code. -/
inductive LexemeKind where
  | comment
  | literal
  deriving DecidableEq, Repr, Inhabited

/-- A rule for one kind of comment or literal: the number of characters that one takes at a place,
if one starts there. The characters before the place are given from the nearest on. -/
structure Lexeme where
  kind : LexemeKind
  extent : (before after : Text) → Option Nat

namespace Lexeme

/-- The number of characters up to the end of the line, after an opening mark. -/
def lineExtent (opening : Text) (t : Text) : Option Nat :=
  if opening.isPrefixOf t then
    some (opening.length + ((t.drop opening.length).takeWhile (· != '\n')).length)
  else none

/-- The number of characters up to and with the first closing mark. -/
def closeExtent (closing : Text) : Text → Option Nat
  | [] => if closing.isEmpty then some 0 else none
  | c :: rest =>
    if closing.isPrefixOf (c :: rest) then some closing.length
    else (closeExtent closing rest).map (· + 1)

/-- The number of characters from an opening mark up to and with the first closing mark. -/
def blockExtent (opening closing : Text) (t : Text) : Option Nat :=
  if opening.isPrefixOf t then
    (closeExtent closing (t.drop opening.length)).map (opening.length + ·)
  else none

/-- The number of characters up to and with the closing quote. A backslash and the character
after it stand together, and that character is no newline; a newline of its own is allowed only
in literals of several lines. -/
def bodyExtent (quote : Char) (severalLines : Bool) : Text → Option Nat
  | [] => none
  | [c] => if c == quote then some 1 else none
  | c :: d :: rest =>
    if c == '\\' then
      if d == '\n' then none else (bodyExtent quote severalLines rest).map (· + 2)
    else if c == quote then some 1
    else if c == '\n' && !severalLines then none
    else (bodyExtent quote severalLines (d :: rest)).map (· + 1)

/-- The number of characters of a literal between quotes. -/
def quotedExtent (quote : Char) (severalLines : Bool) : Text → Option Nat
  | [] => none
  | c :: rest => if c == quote then (bodyExtent quote severalLines rest).map (· + 1) else none

/-- Comments from a mark to the end of the line. -/
def lineComment (opening : String) : Lexeme := ⟨.comment, fun _ => lineExtent opening.toList⟩

/-- Comments between two marks. -/
def blockComment (opening closing : String) : Lexeme :=
  ⟨.comment, fun _ => blockExtent opening.toList closing.toList⟩

/-- Literals between quotes, on one line or on several. -/
def quoted (quote : Char) (severalLines : Bool) : Lexeme :=
  ⟨.literal, fun _ => quotedExtent quote severalLines⟩

/-- The first rule that applies at a place, with the length it takes. -/
def firstAt (rules : List Lexeme) (before after : Text) : Option (LexemeKind × Nat) :=
  rules.findSome? fun rule => (rule.extent before after).map fun n => (rule.kind, n)

end Lexeme

/-- How a comment shows in a masked text: blank. -/
def maskComment (t : Text) : Text := t.blank

/-- How a literal shows in a masked text: the first and the last character stay, and what lies
between is blank. -/
def maskLiteral (t : Text) : Text :=
  match t with
  | [] => []
  | [c] => [c]
  | c :: d :: rest => c :: (Text.blank (d :: rest).dropLast ++ [(d :: rest).getLast (by simp)])

/-- Which of the two views of a text is wanted: the one without comments, or the one without the
contents of literals as well. -/
inductive View where
  | uncommented
  | codeOnly
  deriving DecidableEq, Repr

/-- How a stretch shows in a view. -/
def View.render : View → LexemeKind → Text → Text
  | _, .comment, t => maskComment t
  | .codeOnly, .literal, t => maskLiteral t
  | .uncommented, .literal, t => t

/-- The view of a text from a place on. The characters before the place come first, from the
nearest on; the number counts the characters ahead that belong to a stretch already shown. -/
def viewFrom (rules : List Lexeme) (view : View) : Text → Nat → Text → Text
  | _, _, [] => []
  | before, skip + 1, c :: rest => viewFrom rules view (c :: before) skip rest
  | before, 0, c :: rest =>
    match Lexeme.firstAt rules before (c :: rest) with
    | some (kind, n + 1) =>
      view.render kind ((c :: rest).take (n + 1)) ++ viewFrom rules view (c :: before) n rest
    | _ => c :: viewFrom rules view (c :: before) 0 rest

/-- A text with comments blank and literals reduced to their quotes. -/
def mask (rules : List Lexeme) (t : Text) : Text := viewFrom rules .codeOnly [] 0 t

/-- A text with comments blank and literals kept. -/
def stripComments (rules : List Lexeme) (t : Text) : Text := viewFrom rules .uncommented [] 0 t

end SourceAudit
