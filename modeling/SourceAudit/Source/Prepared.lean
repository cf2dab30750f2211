import SourceAudit.Language.Basic
import SourceAudit.Source.Depth

/-!
  A source prepared for analysis: its text and lines, the same lines without
  comments and without the contents of literals, and the depth of each line.
  All lists of lines have one entry for each line of the text.
-/
namespace SourceAudit

/-- A source with the views that the analyses share. -/
structure Prepared where
  language : Language
  text : Text
  lines : List Text
  masked : Text
  maskedLines : List Text
  codeLines : List Text
  depths : List Depth

/-- Prepares a source. -/
def prepare (language : Language) (text : Text) : Prepared :=
  let masked := mask language.lexemes text
  let maskedLines := masked.lines
  { language := language
    text := text
    lines := text.lines
    masked := masked
    maskedLines := maskedLines
    codeLines := (stripComments language.lexemes text).lines
    depths := if language.usesBraces then Depth.braces maskedLines else Depth.indented maskedLines }

namespace Prepared

/-- Whether the text holds nothing but blanks. -/
def isBlank (p : Prepared) : Bool := p.text.isBlank

/-- The depth at the start of the line with the given index, counted from zero. -/
def depthBefore (p : Prepared) : Nat → Nat
  | 0 => 0
  | i + 1 => (p.depths.getD i default).after

/-- Whether the line with the given index is blank. -/
def isBlankLine (p : Prepared) (i : Nat) : Bool := (p.lines.getD i []).isBlank

/-- Whether the line with the given index holds a comment and nothing else. -/
def isCommentLine (p : Prepared) (i : Nat) : Bool :=
  !(p.lines.getD i []).isBlank && (p.codeLines.getD i []).isBlank

/-- The number of lines that are not blank. -/
def codeLineCount (p : Prepared) : Nat := p.lines.countP fun line => !line.isBlank

/-- The number of lines that hold a comment and nothing else. -/
def commentLineCount (p : Prepared) : Nat :=
  (p.lines.zip p.codeLines).countP fun (line, code) => !line.isBlank && code.isBlank

end Prepared
end SourceAudit
