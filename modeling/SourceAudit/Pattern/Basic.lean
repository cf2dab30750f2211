import SourceAudit.Text.Basic

/-!
  Search patterns: sets of characters (`CharSet`) and the patterns built from
  them (`Pattern`), with the few shorthands the tables of this library need.

  A pattern is data. What it matches, and in which order the ways to match are
  tried, is `Pattern.run` in the module beside this one.
-/
namespace SourceAudit

/-- A set of characters. -/
inductive CharSet where
  | char (c : Char)
  | span (first last : Char)
  | word
  | digit
  | space
  | union (s t : CharSet)
  | except (s : CharSet)
  deriving DecidableEq, Repr, Inhabited

namespace CharSet

/-- Whether a character belongs to the set. -/
def has : CharSet → Char → Bool
  | char c, d => d == c
  | span first last, d => decide (first ≤ d) && decide (d ≤ last)
  | word, d => Unicode.isWord d
  | digit, d => Unicode.isDigit d
  | space, d => Unicode.isBlank d
  | union s t, d => s.has d || t.has d
  | except s, d => !s.has d

/-- Every character but the newline: what a dot stands for. -/
def dot : CharSet := .except (.char '\n')

/-- The union of sets; of none, the empty set. -/
def unionAll : List CharSet → CharSet
  | [] => .except (.union .word (.except .word))
  | [s] => s
  | s :: rest => .union s (unionAll rest)

end CharSet

/-- How a group of a pattern is called: by its place among the groups, or by a name. -/
inductive GroupName where
  | place (n : Nat)
  | called (name : String)
  deriving DecidableEq, Repr, Inhabited

/-- A search pattern. `many` and `loop` repeat at least `least` and, if given, at most `most`
times; greedy ones try the longest repetition first, the others the shortest. -/
inductive Pattern where
  | empty
  | one (s : CharSet)
  | letter (c : Char)
  | seq (p q : Pattern)
  | either (p q : Pattern)
  | many (s : CharSet) (least : Nat) (most : Option Nat) (greedy : Bool)
  | loop (p : Pattern) (least : Nat) (most : Option Nat) (greedy : Bool)
  | group (name : GroupName) (p : Pattern)
  | ahead (wanted : Bool) (p : Pattern)
  | behind (wanted : Bool) (s : CharSet)
  | boundary
  | textStart
  | textEnd
  | lineStart
  | lineEnd
  deriving DecidableEq, Repr, Inhabited

namespace Pattern

/-- Patterns one after the other. -/
def sequence : List Pattern → Pattern
  | [] => .empty
  | [p] => p
  | p :: rest => .seq p (sequence rest)

/-- The first of the patterns that leads to a match. -/
def firstOf : List Pattern → Pattern
  | [] => .one (CharSet.unionAll [])
  | [p] => p
  | p :: rest => .either p (firstOf rest)

/-- Exactly these characters. -/
def literal (t : Text) : Pattern := sequence (t.map fun c => .one (.char c))

/-- These characters, capital or small. -/
def letters (t : Text) : Pattern := sequence (t.map .letter)

/-- The text as a word of its own, capital or small: no word character touches it. -/
def wholeWord (t : Text) : Pattern :=
  .seq (.behind false .word) (.seq (letters t) (.ahead false (.one .word)))

/-- The text between word boundaries. -/
def bounded (t : Text) : Pattern := .seq .boundary (.seq (literal t) .boundary)

/-- One of the words, between word boundaries. -/
def boundedAny (words : List String) : Pattern :=
  .seq .boundary (.seq (firstOf (words.map fun w => literal w.toList)) .boundary)

end Pattern
end SourceAudit
