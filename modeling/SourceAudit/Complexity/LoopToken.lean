import SourceAudit.Text.Basic

/-!
  The tokens that say how loops are nested. A text is first cut into words,
  gaps and marks (`Piece`); of these the loop words, the calls of methods that
  go through a collection, and the brackets and semicolons count (`LoopToken`).
-/
namespace SourceAudit

/-- A part of a text: a word as long as it can be, a blank, or any other character. -/
inductive Piece where
  | word (t : Text)
  | gap
  | mark (c : Char)
  deriving DecidableEq, Repr

namespace Piece

/-- The word under way, given backwards, in front of some pieces. -/
def close (letters : Text) (rest : List Piece) : List Piece :=
  if letters.isEmpty then rest else .word letters.reverse :: rest

/-- The pieces of a text; the first argument is the word under way, backwards. -/
def allFrom : Text → Text → List Piece
  | letters, [] => close letters []
  | letters, c :: rest =>
    if Unicode.isWord c then allFrom (c :: letters) rest
    else close letters ((if Unicode.isBlank c then .gap else .mark c) :: allFrom [] rest)

/-- The pieces of a text. -/
def all (t : Text) : List Piece := allFrom [] t

/-- Whether the next piece that is no gap is an opening parenthesis. -/
def opensCall : List Piece → Bool
  | .gap :: rest => opensCall rest
  | .mark c :: _ => c == '('
  | _ => false

end Piece

/-- A token that counts for the nesting of loops. -/
inductive LoopToken where
  | loop
  | call
  | parenOpen
  | parenClose
  | braceOpen
  | braceClose
  | semicolon
  deriving DecidableEq, Repr

namespace LoopToken

/-- The methods that go through a collection and take what is to be done as an argument. -/
def iterators : List Text :=
  ["forEach", "map", "filter", "reduce", "flatMap", "some", "every"].map String.toList

/-- The token of a mark. -/
def ofMark? (c : Char) : Option LoopToken :=
  if c == '(' then some parenOpen
  else if c == ')' then some parenClose
  else if c == '\x7b' then some braceOpen
  else if c == '\x7d' then some braceClose
  else if c == ';' then some semicolon
  else none

/-- The tokens of some pieces. The flag says that the next opening parenthesis belongs to a call
that has been counted. -/
def ofPiecesFrom (words : List Text) : (called : Bool) → List Piece → List LoopToken
  | _, [] => []
  | called, .gap :: rest => ofPiecesFrom words called rest
  | _, .word w :: rest =>
    if words.contains w then loop :: ofPiecesFrom words false rest
    else ofPiecesFrom words false rest
  | _, .mark '.' :: .word w :: rest =>
    if iterators.contains w && Piece.opensCall rest then call :: ofPiecesFrom words true rest
    else ofPiecesFrom words false (.word w :: rest)
  | called, .mark c :: rest =>
    if called then ofPiecesFrom words false rest
    else
      match ofMark? c with
      | some token => token :: ofPiecesFrom words false rest
      | none => ofPiecesFrom words false rest

/-- The tokens of a text, for the loop words of a language. -/
def all (words : List Text) (t : Text) : List LoopToken := ofPiecesFrom words false (Piece.all t)

end LoopToken
end SourceAudit
