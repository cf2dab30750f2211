import SourceAudit.Number.Hexadecimal
import SourceAudit.Pattern.Match

/-!
  The written form of patterns, as the tables of this library and its reports
  show them: characters stand for themselves; `.`, sets in brackets and the
  classes after a backslash stand for one character; `*`, `+`, `?` and counts in
  braces repeat, a further `?` makes them try the shortest first; parentheses
  group, a bar separates alternatives; `^`, `$`, the word boundary and the look
  ahead and behind (one character) are tests of a place.

  Reading goes from left to right with a bound on the nesting, which the length
  of the text supplies (`Pattern.ofText?`).
-/
namespace SourceAudit
namespace Pattern

/-- How a written pattern is meant: whether case is ignored, and whether `^` and `$` hold at
every line rather than at the ends of the text. -/
structure Reading where
  anyCase : Bool
  everyLine : Bool

/-- The character set that a backslash and the characters after it stand for, with what follows. -/
def readEscape : Text → Option (CharSet × Text)
  | 'w' :: rest => some (.word, rest)
  | 'W' :: rest => some (.except .word, rest)
  | 'd' :: rest => some (.digit, rest)
  | 's' :: rest => some (.space, rest)
  | 'S' :: rest => some (.except .space, rest)
  | 'n' :: rest => some (.char '\n', rest)
  | 't' :: rest => some (.char '\t', rest)
  | 'x' :: a :: b :: rest =>
    match Number.hexValue? a, Number.hexValue? b with
    | some m, some n => some (.char (Char.ofNat (16 * m + n)), rest)
    | _, _ => none
  | c :: rest => if c.isAlphanum then none else some (.char c, rest)
  | [] => none

/-- The members of a set in brackets up to the closing one; the first argument bounds their
number, the last holds the members read so far, backwards. -/
def readMembers : Nat → Text → List CharSet → Option (CharSet × Text)
  | 0, _, _ => none
  | _ + 1, [], _ => none
  | fuel + 1, c :: rest, members =>
    if c == ']' && !members.isEmpty then some (.unionAll members.reverse, rest)
    else
      let item := if c == '\\' then readEscape rest else some (.char c, rest)
      match item with
      | none => none
      | some (.char first, '-' :: last :: rest') =>
        if last == ']' then readMembers fuel ('-' :: last :: rest') (.char first :: members)
        else readMembers fuel rest' (.span first last :: members)
      | some (s, rest') => readMembers fuel rest' (s :: members)

/-- A set in brackets, after the opening one. -/
def readSet (t : Text) : Option (CharSet × Text) :=
  match t with
  | '^' :: rest => (readMembers (rest.length + 1) rest []).map fun (s, r) => (.except s, r)
  | _ => readMembers (t.length + 1) t []

/-- The decimal number that leads a text, if it starts with a digit. -/
def readNumber (t : Text) : Option Nat × Text :=
  let digits := t.takeWhile Char.isDigit
  let rest := t.dropWhile Char.isDigit
  if digits.isEmpty then (none, rest)
  else (some (digits.foldl (fun n d => 10 * n + (d.toNat - '0'.toNat)) 0), rest)

/-- A count in braces, after the opening one: the least and the greatest number. -/
def readCount (t : Text) : Option (Nat × Option Nat × Text) :=
  match readNumber t with
  | (some n, '\x7d' :: rest) => some (n, some n, rest)
  | (least, ',' :: rest) =>
    match readNumber rest with
    | (most, '\x7d' :: rest') => some (least.getD 0, most, rest')
    | _ => none
  | _ => none

/-- A repetition mark, if the text begins with one: least and greatest number. -/
def readRepeat : Text → Option (Option (Nat × Option Nat) × Text)
  | '*' :: rest => some (some (0, none), rest)
  | '+' :: rest => some (some (1, none), rest)
  | '?' :: rest => some (some (0, some 1), rest)
  | '\x7b' :: rest => (readCount rest).map fun (least, most, r) => (some (least, most), r)
  | t => some (none, t)

/-- A pattern repeated as the mark after it says. -/
def withRepeat (p : Pattern) (t : Text) : Option (Pattern × Text) :=
  match readRepeat t with
  | none => none
  | some (none, rest) => some (p, rest)
  | some (some (least, most), rest) =>
    let (greedy, rest) := match rest with
      | '?' :: r => (false, r)
      | r => (true, r)
    match p with
    | .one s => some (.many s least most greedy, rest)
    | _ => some (.loop p least most greedy, rest)

/-- What an opening parenthesis starts. -/
inductive Opening where
  | plain
  | named (name : String)
  | numbered
  | ahead (wanted : Bool)
  | behind (wanted : Bool)

/-- The kind of a group, after its opening parenthesis. -/
def readOpening : Text → Opening × Text
  | '?' :: ':' :: rest => (.plain, rest)
  | '?' :: '=' :: rest => (.ahead true, rest)
  | '?' :: '!' :: rest => (.ahead false, rest)
  | '?' :: '<' :: '=' :: rest => (.behind true, rest)
  | '?' :: '<' :: '!' :: rest => (.behind false, rest)
  | '?' :: 'P' :: '<' :: rest =>
    (.named (String.ofList (rest.takeWhile (· != '>'))), (rest.dropWhile (· != '>')).drop 1)
  | rest => (.numbered, rest)

/-- The pattern of one character that stands for itself. -/
def ofChar (mode : Reading) (c : Char) : Pattern :=
  if mode.anyCase && Unicode.isWord c && !c.isDigit && c != '_' then .letter c else .one (.char c)

/-- Reads one alternative after the other up to a closing parenthesis or the end. The first
argument bounds the nesting; `groups` is the number of groups opened so far; `done` holds the
alternatives read so far and `items` the parts of the one under way, both backwards. -/
def readBody (mode : Reading) : Nat → Nat → Text → List Pattern → List Pattern →
    Option (Pattern × Nat × Text)
  | 0, _, _, _, _ => none
  | fuel + 1, groups, t, done, items =>
    let finish : Unit → Pattern := fun _ => firstOf (sequence items.reverse :: done).reverse
    let goOn : Pattern → Text → Option (Pattern × Nat × Text) := fun p rest =>
      match withRepeat p rest with
      | none => none
      | some (q, rest') => readBody mode fuel groups rest' done (q :: items)
    match t with
    | [] => some (finish (), groups, [])
    | ')' :: _ => some (finish (), groups, t)
    | '|' :: rest => readBody mode fuel groups rest (sequence items.reverse :: done) []
    | '(' :: rest =>
      let (opening, inner) := readOpening rest
      let opened := match opening with
        | .numbered | .named _ => groups + 1
        | _ => groups
      match readBody mode fuel opened inner [] [] with
      | some (p, groups', ')' :: rest') =>
        let whole : Option Pattern := match opening, p with
          | .plain, p => some p
          | .numbered, p => some (.group (.place opened) p)
          | .named name, p => some (.group (.called name) p)
          | .ahead wanted, p => some (.ahead wanted p)
          | .behind wanted, .one s => some (.behind wanted s)
          | .behind _, _ => none
        match whole with
        | none => none
        | some p =>
          match withRepeat p rest' with
          | none => none
          | some (q, rest'') => readBody mode fuel groups' rest'' done (q :: items)
      | _ => none
    | '[' :: rest =>
      match readSet rest with
      | none => none
      | some (s, rest') => goOn (.one s) rest'
    | '.' :: rest => goOn (.one .dot) rest
    | '^' :: rest => goOn (if mode.everyLine then .lineStart else .textStart) rest
    | '$' :: rest => goOn (if mode.everyLine then .lineEnd else .textEnd) rest
    | '\\' :: 'b' :: rest => goOn .boundary rest
    | '\\' :: rest =>
      match readEscape rest with
      | none => none
      | some (.char c, rest') => goOn (ofChar mode c) rest'
      | some (s, rest') => goOn (.one s) rest'
    | c :: rest => goOn (ofChar mode c) rest

/-- The pattern a text is the written form of. -/
def ofText? (mode : Reading) (t : Text) : Option Pattern :=
  match readBody mode (2 * t.length + 2) 0 t [] [] with
  | some (p, _, []) => some p
  | _ => none

/-- The pattern of a written form; one that is not well formed matches nothing. -/
def ofNotation (mode : Reading) (s : String) : Pattern :=
  (ofText? mode s.toList).getD (firstOf [])

/-- A written pattern, case told apart, `^` and `$` at the ends of the text. -/
def written (s : String) : Pattern := ofNotation ⟨false, false⟩ s

/-- A written pattern that ignores case. -/
def writtenAnyCase (s : String) : Pattern := ofNotation ⟨true, false⟩ s

/-- A written pattern whose `^` and `$` hold at every line. -/
def writtenByLine (s : String) : Pattern := ofNotation ⟨false, true⟩ s

/-- A written pattern that ignores case and whose `^` and `$` hold at every line. -/
def writtenAnyCaseByLine (s : String) : Pattern := ofNotation ⟨true, true⟩ s

end Pattern
end SourceAudit
