import SourceAudit.Pattern.Basic

/-!
  Matching. A cursor stands between two characters of a text (`Cursor`);
  `Pattern.run` tries a pattern there and hands every way to match, in order,
  to what follows, until one leads to the end. The order is: alternatives from
  left to right, greedy repetitions from the longest down, the others from the
  shortest up.

  `Pattern.find?` gives the first match of a text and `Pattern.findAll` all of
  them, left to right without overlap: an empty match is given as well, unless
  one was just given at the same place.
-/
namespace SourceAudit

/-- A place in a text: the character before it, the characters after it, and its offset. -/
structure Cursor where
  before : Option Char
  rest : Text
  offset : Nat

namespace Cursor

/-- The start of a text. -/
def start (t : Text) : Cursor := ⟨none, t, 0⟩

/-- Whether exactly one side of the place is a word character. -/
def atBoundary (c : Cursor) : Bool :=
  (c.before.any Unicode.isWord) != (c.rest.head?.any Unicode.isWord)

/-- Whether a line starts here. -/
def atLineStart (c : Cursor) : Bool :=
  match c.before with
  | none => true
  | some d => d == '\n'

/-- Whether a line ends here. -/
def atLineEnd (c : Cursor) : Bool :=
  match c.rest with
  | [] => true
  | d :: _ => d == '\n'

/-- Whether the text ends here, or after one more newline. -/
def atTextEnd (c : Cursor) : Bool := c.rest == [] || c.rest == ['\n']

/-- The places reached by stepping over characters of a set, at least `least` and at most `most` of
them, farthest first; the last argument holds the places passed so far. -/
def reachFrom (s : CharSet) (before : Option Char) :
    Text → Nat → Nat → Option Nat → List Cursor → List Cursor
  | [], offset, least, _, passed =>
    if least == 0 then ⟨before, [], offset⟩ :: passed else passed
  | d :: rest, offset, least, most, passed =>
    let passed := if least == 0 then ⟨before, d :: rest, offset⟩ :: passed else passed
    if most != some 0 && s.has d then
      reachFrom s (some d) rest (offset + 1) (least - 1) (most.map (· - 1)) passed
    else passed

/-- The places reached from a cursor by stepping over characters of a set, farthest first. -/
def reach (c : Cursor) (s : CharSet) (least : Nat) (most : Option Nat) : List Cursor :=
  reachFrom s c.before c.rest c.offset least most []

/-- The first result of the places reached by stepping over characters of a set, nearest first. -/
def nearestFrom {α : Type} (s : CharSet) (attempt : Cursor → Option α) (before : Option Char) :
    Text → Nat → Nat → Option Nat → Option α
  | [], offset, least, _ => if least == 0 then attempt ⟨before, [], offset⟩ else none
  | d :: rest, offset, least, most =>
    match if least == 0 then attempt ⟨before, d :: rest, offset⟩ else none with
    | some a => some a
    | none =>
      if most != some 0 && s.has d then
        nearestFrom s attempt (some d) rest (offset + 1) (least - 1) (most.map (· - 1))
      else none

/-- The first result of the places reached from a cursor, farthest or nearest first. -/
def tryReach {α : Type} (c : Cursor) (s : CharSet) (least : Nat) (most : Option Nat)
    (greedy : Bool) (attempt : Cursor → Option α) : Option α :=
  if greedy then (c.reach s least most).findSome? attempt
  else nearestFrom s attempt c.before c.rest c.offset least most

end Cursor

/-- The offsets at which a group starts and stops. -/
structure Span where
  start : Nat
  stop : Nat
  deriving DecidableEq, Repr

/-- The groups of a match so far, the latest first. -/
abbrev GroupSpans := List (GroupName × Span)

/-- Where a match may end, with its groups. -/
abbrev Hit := Cursor × GroupSpans

/-- Repeats a step, each time past at least one character. `left` bounds the repetitions and is
at least the number of characters that remain. -/
def repeatStep (step : Cursor → GroupSpans → (Cursor → GroupSpans → Option Hit) → Option Hit)
    (greedy : Bool) : (left least : Nat) → Option Nat → Cursor → GroupSpans →
      (Cursor → GroupSpans → Option Hit) → Option Hit
  | 0, least, _, c, g, k => if least == 0 then k c g else none
  | left + 1, least, most, c, g, k =>
    let again : Unit → Option Hit := fun _ =>
      if most == some 0 then none
      else step c g fun c' g' =>
        if c.offset < c'.offset then
          repeatStep step greedy left (least - 1) (most.map (· - 1)) c' g' k
        else none
    if least != 0 then again ()
    else if greedy then
      match again () with
      | some hit => some hit
      | none => k c g
    else
      match k c g with
      | some hit => some hit
      | none => again ()

namespace Pattern

/-- Tries a pattern at a cursor; `k` is what has to match after it. -/
def run : Pattern → Cursor → GroupSpans → (Cursor → GroupSpans → Option Hit) → Option Hit
  | empty, c, g, k => k c g
  | one s, c, g, k =>
    match c.rest with
    | [] => none
    | d :: rest => if s.has d then k ⟨some d, rest, c.offset + 1⟩ g else none
  | letter a, c, g, k =>
    match c.rest with
    | [] => none
    | d :: rest => if Unicode.sameLetter a d then k ⟨some d, rest, c.offset + 1⟩ g else none
  | seq p q, c, g, k => run p c g fun c' g' => run q c' g' k
  | either p q, c, g, k =>
    match run p c g k with
    | some hit => some hit
    | none => run q c g k
  | many s least most greedy, c, g, k =>
    c.tryReach s least most greedy fun c' => k c' g
  | loop p least most greedy, c, g, k =>
    repeatStep (fun c' g' k' => run p c' g' k') greedy (c.rest.length + 1) least most c g k
  | group name p, c, g, k =>
    run p c g fun c' g' => k c' ((name, ⟨c.offset, c'.offset⟩) :: g')
  | ahead wanted p, c, g, k =>
    match run p c g (fun c' g' => some (c', g')) with
    | some hit => if wanted then k c hit.2 else none
    | none => if wanted then none else k c g
  | behind wanted s, c, g, k => if c.before.any s.has == wanted then k c g else none
  | boundary, c, g, k => if c.atBoundary then k c g else none
  | textStart, c, g, k => if c.before.isNone then k c g else none
  | textEnd, c, g, k => if c.atTextEnd then k c g else none
  | lineStart, c, g, k => if c.atLineStart then k c g else none
  | lineEnd, c, g, k => if c.atLineEnd then k c g else none

section
variable {c : Cursor} {g : GroupSpans} {k : Cursor → GroupSpans → Option Hit}

/-- The next character is taken if the set has it. -/
theorem run_one_cons {s : CharSet} {d : Char} {rest : Text} (h : c.rest = d :: rest) :
    (one s).run c g k = if s.has d then k ⟨some d, rest, c.offset + 1⟩ g else none := by
  rw [run, h]

/-- Of two patterns the first one is tried first. -/
theorem run_either (p q : Pattern) :
    (either p q).run c g k = (p.run c g k).or (q.run c g k) := by
  rw [run]
  cases p.run c g k <;> rfl

end

end Pattern

/-- What a group of a pattern took: where it starts, and its characters. -/
structure Capture where
  start : Nat
  text : Text
  deriving DecidableEq, Repr

/-- The part of a cursor's text that a span covers. -/
def Cursor.capture (c : Cursor) (s : Span) : Capture :=
  ⟨s.start, (c.rest.drop (s.start - c.offset)).take (s.stop - s.start)⟩

/-- A match: where it starts and stops, its characters, and what the groups took. -/
structure Match where
  start : Nat
  stop : Nat
  text : Text
  captures : List (GroupName × Capture)
  deriving DecidableEq, Repr

namespace Match

/-- What the group took, if it took part. -/
def capture? (m : Match) (name : GroupName) : Option Capture :=
  (m.captures.find? fun entry => entry.1 == name).map (·.2)

/-- The text of the group at the given place, counted from one; empty if it took no part. -/
def part (m : Match) (n : Nat) : Text :=
  match m.capture? (.place n) with
  | some c => c.text
  | none => []

/-- The text of the group called so, if it took part. -/
def named? (m : Match) (name : String) : Option Text :=
  (m.capture? (.called name)).map (·.text)

end Match

namespace Pattern

/-- The match of a pattern that starts at a cursor; with `proper`, only one that is not empty. -/
def matchHere (p : Pattern) (c : Cursor) (proper : Bool) : Option Match :=
  (p.run c [] fun c' g => if proper && c'.offset == c.offset then none else some (c', g)).map
    fun (c', g) => ⟨c.offset, c'.offset, (c.capture ⟨c.offset, c'.offset⟩).text,
      g.map fun (name, s) => (name, c.capture s)⟩

/-- The set that a pattern repeats without bound at its start, if it starts so. -/
def lead? : Pattern → Option CharSet
  | many s _ none _ => some s
  | seq p _ => lead? p
  | group _ p => lead? p
  | _ => none

/-- Whether a pattern cannot match at a place since it did not match one character before: the
character in between is one that it repeats at its start. -/
def isBarred (p : Pattern) (failed : Bool) (before : Option Char) : Bool :=
  failed && match p.lead?, before with
    | some s, some d => s.has d
    | _, _ => false

/-- The first match at or after a place; `failed` says that none starts one character before. -/
def findFrom (p : Pattern) : Bool → Option Char → Text → Nat → Option Match
  | failed, before, [], offset =>
    if p.isBarred failed before then none else p.matchHere ⟨before, [], offset⟩ false
  | failed, before, d :: rest, offset =>
    match if p.isBarred failed before then none
      else p.matchHere ⟨before, d :: rest, offset⟩ false with
    | some m => some m
    | none => findFrom p true (some d) rest (offset + 1)

/-- The first match in a text. -/
def find? (p : Pattern) (t : Text) : Option Match := p.findFrom false none t 0

/-- Whether a text holds a match. -/
def occurs (p : Pattern) (t : Text) : Bool := (p.find? t).isSome

/-- The match at the very start of a text. -/
def matchStart? (p : Pattern) (t : Text) : Option Match := p.matchHere (.start t) false

/-- The matches that start at a place, at most two: an empty one, and then a longer one. -/
def matchesHere (p : Pattern) (c : Cursor) : List Match :=
  match p.matchHere c false with
  | none => []
  | some m => if m.start == m.stop then m :: (p.matchHere c true).toList else [m]

/-- All matches from a place on, skipping the places before `resume`; `failed` says that none starts
one character before. -/
def findAllFrom (p : Pattern) : Bool → Option Char → Text → Nat → Nat → List Match
  | failed, before, [], offset, resume =>
    if offset < resume || p.isBarred failed before then []
    else p.matchesHere ⟨before, [], offset⟩
  | failed, before, d :: rest, offset, resume =>
    if offset < resume then findAllFrom p false (some d) rest (offset + 1) resume
    else if p.isBarred failed before then findAllFrom p true (some d) rest (offset + 1) resume
    else
      let found := p.matchesHere ⟨before, d :: rest, offset⟩
      let next := match found.getLast? with
        | some m => m.stop
        | none => resume
      found ++ findAllFrom p found.isEmpty (some d) rest (offset + 1) next

/-- All matches of a text, left to right, none reaching into another. -/
def findAll (p : Pattern) (t : Text) : List Match := p.findAllFrom false none t 0 0

/-- How often a pattern matches in a text. -/
def count (p : Pattern) (t : Text) : Nat := (p.findAll t).length

/-- Whether one of the patterns occurs in a text. -/
def anyOccurs (ps : List Pattern) (t : Text) : Bool := ps.any fun p => p.occurs t

end Pattern
end SourceAudit
