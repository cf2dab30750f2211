import SourceAudit.Issue.Basic
import SourceAudit.Text.Basic

/-!
  When two messages tell of the same problem, and which of several messages is
  kept. Two are similar if one contains the other once reduced to letters and
  digits, or if both name the same group of problems; one is a short form of the
  other if both name the same concept and it is much shorter.
-/
namespace SourceAudit
namespace Message

/-- A message in small letters. -/
def small (message : String) : Text := Text.lower message.toList

/-- Whether a message names something, whatever the case. -/
def names (message : String) (word : String) : Bool := Text.holds word.toList (small message)

/-- The small letters and digits of a message. -/
def normalized (message : String) : Text :=
  (small message).filter fun c => ('a' ≤ c && c ≤ 'z') || ('0' ≤ c && c ≤ '9')

/-- Problems that two messages may have in common. -/
def groups : List String := ["nesting", "array", "null", "division"]

/-- Concepts of which a much shorter message is a less exact form. -/
def concepts : List String :=
  ["nesting", "error handling", "array", "null", "division", "magic number", "variable name",
   "redundant", "inefficient"]

/-- Concepts by priority, the highest first. -/
def priorities : List String := ["nesting", "error handling", "division", "null"]

/-- Whether both messages name one of the words. -/
def shareOne (words : List String) (a b : String) : Bool :=
  let x := small a
  let y := small b
  words.any fun w => Text.holds w.toList x && Text.holds w.toList y

/-- Whether two messages tell of the same problem. -/
def similar (a b : String) : Bool :=
  let x := normalized a
  let y := normalized b
  Text.holds x y || Text.holds y x || shareOne groups a b

/-- Whether one length is below seven tenths of the other. -/
def muchShorter (m n : Nat) : Bool := decide (10 * m < 7 * n)

/-- Whether one message is a short form of the other. -/
def shortForm (a b : String) : Bool :=
  shareOne concepts a b && (muchShorter a.length b.length || muchShorter b.length a.length)

/-- The place of the first of some words that a message names, or their number. -/
def firstNamed (message : String) : List String → Nat
  | [] => 0
  | w :: rest => if names message w then 0 else firstNamed message rest + 1

/-- The priority of a message; zero is the highest. -/
def priority (message : String) : Nat := firstNamed message priorities

/-- Whether the first finding is to be kept rather than the second: its message has a higher
priority, or the same one and more characters. -/
def better (a b : RawIssue) : Bool :=
  decide (priority a.message < priority b.message) ||
    (priority a.message == priority b.message && decide (b.message.length < a.message.length))

/-- The finding to keep of a first one and others; of equally good ones the first. -/
def best (first : RawIssue) (others : List RawIssue) : RawIssue :=
  others.foldl (fun kept issue => if better issue kept then issue else kept) first

end Message
end SourceAudit
