import SourceAudit.Unicode.Basic

/-!
  Texts as lists of characters: lines, blanks at the ends, words between blanks,
  containment, and the width of an indentation.

  Lines are cut at the newline alone, so joining the lines of a text gives the
  text back (`joinLines_lines`).
-/
namespace SourceAudit

/-- A text, or a part of one, as its characters. -/
abbrev Text := List Char

namespace Text

/-- The parts of a text between the occurrences of a character; never empty. -/
def splitOn (sep : Char) : Text → List Text
  | [] => [[]]
  | c :: rest =>
    if c == sep then [] :: splitOn sep rest
    else
      match splitOn sep rest with
      | [] => [[c]]
      | part :: parts => (c :: part) :: parts

/-- Parts joined by a text between each two. -/
def joinWith (sep : Text) : List Text → Text
  | [] => []
  | [part] => part
  | part :: parts => part ++ sep ++ joinWith sep parts

/-- The lines of a text, cut at every newline. -/
def lines (t : Text) : List Text := splitOn '\n' t

/-- Lines joined by newlines. -/
def joinLines (ls : List Text) : Text := joinWith ['\n'] ls

theorem splitOn_ne_nil (sep : Char) (t : Text) : splitOn sep t ≠ [] := by
  cases t with
  | nil => simp [splitOn]
  | cons c rest =>
    simp only [splitOn]
    split
    · simp
    · split <;> simp

theorem joinWith_splitOn (sep : Char) (t : Text) : joinWith [sep] (splitOn sep t) = t := by
  induction t with
  | nil => rfl
  | cons c rest ih =>
    simp only [splitOn]
    split
    · rename_i h
      have hc : c = sep := by simpa using h
      cases hs : splitOn sep rest with
      | nil => exact absurd hs (splitOn_ne_nil sep rest)
      | cons part parts => simp [joinWith, ← hs, ih, hc]
    · cases hs : splitOn sep rest with
      | nil => exact absurd hs (splitOn_ne_nil sep rest)
      | cons part parts =>
        rw [hs] at ih
        cases parts with
        | nil => simpa [joinWith] using ih
        | cons p ps => simpa [joinWith] using ih

/-- Nothing is lost when a text is cut into lines. -/
theorem joinLines_lines (t : Text) : joinLines (lines t) = t := joinWith_splitOn '\n' t

/-- A text without its leading blanks. -/
def trimLeft (t : Text) : Text := t.dropWhile Unicode.isBlank

/-- A text without its trailing blanks. -/
def trimRight (t : Text) : Text := (t.reverse.dropWhile Unicode.isBlank).reverse

/-- A text without blanks at either end. -/
def trim (t : Text) : Text := trimRight (trimLeft t)

/-- Whether a text holds nothing but blanks. -/
def isBlank (t : Text) : Bool := t.all Unicode.isBlank

/-- The words of a text between blanks; the first argument is the word under way, backwards. -/
def fieldsFrom : Text → Text → List Text
  | [], [] => []
  | word, [] => [word.reverse]
  | word, c :: rest =>
    if Unicode.isBlank c then
      if word.isEmpty then fieldsFrom [] rest else word.reverse :: fieldsFrom [] rest
    else fieldsFrom (c :: word) rest

/-- The words of a text between blanks. -/
def fields (t : Text) : List Text := fieldsFrom [] t

/-- Whether the text begins with the given one. -/
def startsWith (t lead : Text) : Bool := lead.isPrefixOf t

/-- Whether the text ends with the given one. -/
def endsWith (t tail : Text) : Bool := tail.isSuffixOf t

/-- Whether the text begins with one of the given ones. -/
def startsWithAny (t : Text) (leads : List String) : Bool :=
  leads.any fun lead => t.startsWith lead.toList

/-- Whether the text ends with one of the given ones. -/
def endsWithAny (t : Text) (tails : List String) : Bool :=
  tails.any fun tail => t.endsWith tail.toList

/-- Whether `part` occurs in a text, in one piece. -/
def holds (part : Text) : Text → Bool
  | [] => part.isEmpty
  | c :: rest => part.isPrefixOf (c :: rest) || holds part rest

/-- A text with every tab replaced by blanks up to the next multiple of four columns; the first
argument is the column, which starts again after a line break of either kind. -/
def expandTabsFrom : Nat → Text → Text
  | _, [] => []
  | column, c :: rest =>
    if c == '\t' then
      let fill := 4 - column % 4
      List.replicate fill ' ' ++ expandTabsFrom (column + fill) rest
    else if c == '\n' || c == '\r' then c :: expandTabsFrom 0 rest
    else c :: expandTabsFrom (column + 1) rest

/-- The width of a line's indentation: its leading spaces once tabs reach to columns of four. -/
def indentWidth (line : Text) : Nat := ((expandTabsFrom 0 line).takeWhile (· == ' ')).length

/-- Every character but a newline turned into a space. -/
def blank (t : Text) : Text := t.map fun c => if c == '\n' then c else ' '

/-- The text in small letters. -/
def lower (t : Text) : Text := Unicode.lowerText t

/-- ASCII letters, the underscore and the dollar sign start a name. -/
def isNameStart (c : Char) : Bool := c.isAlpha || c == '_' || c == '$'

/-- Word characters and the dollar sign go on with a name. -/
def isNamePart (c : Char) : Bool := Unicode.isWord c || c == '$'

/-- The names in a text from left to right; the first argument is the name under way, backwards,
or nothing between names. -/
def namesFrom : Text → Text → List Text
  | [], [] => []
  | name, [] => [name.reverse]
  | [], c :: rest => if isNameStart c then namesFrom [c] rest else namesFrom [] rest
  | d :: name, c :: rest =>
    if isNamePart c then namesFrom (c :: d :: name) rest
    else (d :: name).reverse :: namesFrom [] rest

/-- The names in a text: each starts at the first character that may start one, and is as long
as it can be. -/
def names (t : Text) : List Text := namesFrom [] t

end Text
end SourceAudit
