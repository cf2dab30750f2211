import SourceAudit.Unicode.WordTable
import SourceAudit.Unicode.IdentifierTable
import SourceAudit.Unicode.CaseTable
import SourceAudit.Unicode.HiddenTable
import SourceAudit.Unicode.CasedTable

/-!
  Character classes and letter case over the whole code space: word characters,
  digits, blanks, capitals, identifiers, small letters, and what counts as the
  same letter when case is ignored.

  Every class is decided for ASCII by a comparison and beyond it by a table, so
  a closed ASCII instance evaluates without touching the tables.
-/
namespace SourceAudit.Unicode

/-- Binary search for `n` among the ranges at positions `lo` to `hi` of a sorted table; the
first argument bounds the number of halvings. -/
def coversBetween (table : Array (Nat × Nat)) (n : Nat) : Nat → Nat → Nat → Bool
  | 0, _, _ => false
  | fuel + 1, lo, hi =>
    if hi ≤ lo then false
    else
      let mid := (lo + hi) / 2
      match table[mid]? with
      | none => false
      | some (first, last) =>
        if n < first then coversBetween table n fuel lo mid
        else if last < n then coversBetween table n fuel (mid + 1) hi
        else true

/-- Whether a code point lies in one of the sorted, disjoint ranges of the table. -/
def covers (table : Array (Nat × Nat)) (n : Nat) : Bool :=
  coversBetween table n table.size 0 table.size

/-- Word characters: letters and numbers of every script, and the underscore. -/
def isWord (c : Char) : Bool :=
  c.isAlphanum || c == '_' || (decide (128 ≤ c.toNat) && covers wordRanges c.toNat)

/-- Blanks: the white space characters, with the four information separators and NEL. -/
def isBlank (c : Char) : Bool :=
  let n := c.toNat
  c == ' ' || (decide (9 ≤ n) && decide (n ≤ 13)) || (decide (28 ≤ n) && decide (n ≤ 31)) ||
    n == 0x85 || n == 0xa0 || n == 0x1680 || (decide (0x2000 ≤ n) && decide (n ≤ 0x200a)) ||
    n == 0x2028 || n == 0x2029 || n == 0x202f || n == 0x205f || n == 0x3000

/-- The value of a decimal digit of any script. -/
def digitValue? (c : Char) : Option Nat :=
  let n := c.toNat
  if c.isDigit then some (n - 0x30)
  else if n < 128 then none
  else (digitZeros.find? fun base => decide (base ≤ n) && decide (n < base + 10)).map (n - ·)

/-- Decimal digits of any script. -/
def isDigit (c : Char) : Bool := (digitValue? c).isSome

/-- Capital letters of any script. -/
def isUpper (c : Char) : Bool :=
  let n := c.toNat
  c.isUpper || (decide (128 ≤ n) && upperRuns.any fun (first, last, step) =>
    decide (first ≤ n) && decide (n ≤ last) && (n - first) % step == 0)

/-- The small letter of a capital, one character for one; other characters stay. -/
def lower (c : Char) : Char :=
  let n := c.toNat
  if n < 128 then c.toLower
  else
    match lowerRuns.find? fun (first, last, step, _) =>
        decide (first ≤ n) && decide (n ≤ last) && (n - first) % step == 0 with
    | some (_, _, _, shift) => Char.ofNat (Int.toNat (n + shift))
    | none => c

/-- Letters that have a case, and the numerals and enclosed letters that come in two cases. -/
def isCased (c : Char) : Bool :=
  c.isAlpha || (decide (128 ≤ c.toNat) && covers casedRanges c.toNat)

/-- Marks that stand inside a word and that casing looks past: the apostrophe, the full stop,
the colon, accents and joiners. -/
def isInert (c : Char) : Bool :=
  c == '.' || c == ':' || c == '^' || c.toNat == 0x27 || c.toNat == 0x60 ||
    (decide (128 ≤ c.toNat) && covers inertRanges c.toNat)

/-- The small letters of one character. The dotted capital I is the one that becomes two. -/
def lowers (c : Char) : List Char :=
  if c.toNat == 0x130 then ['i', Char.ofNat 0x307] else [lower c]

/-- A text in small letters in which a capital sigma takes its final form at the end of a word:
after a cased letter and not before one, inert marks aside. The flag tells whether the nearest
character before the text that is not inert has a case. -/
def lowerAfter : Bool → List Char → List Char
  | _, [] => []
  | afterCased, c :: rest =>
    let isFinal := c == 'Σ' && afterCased && !((rest.dropWhile isInert).head?.any isCased)
    (if isFinal then ['ς'] else lowers c) ++
      lowerAfter (if isInert c then afterCased else isCased c) rest

/-- A text in small letters: letter by letter, but for the sigma that ends a word. -/
def lowerText (t : List Char) : List Char :=
  if t.contains 'Σ' then lowerAfter false t else t.flatMap lowers

/-- Two characters are the same letter when their small letters are equal or lie in one class. -/
def sameLetter (a b : Char) : Bool :=
  let x := lower a
  let y := lower b
  x == y || ((decide (128 ≤ x.toNat) || decide (128 ≤ y.toNat)) &&
    caseClasses.any fun k => k.contains x.toNat && k.contains y.toNat)

/-- Characters that may start an identifier. -/
def isIdentifierStart (c : Char) : Bool :=
  c.isAlpha || c == '_' || (decide (128 ≤ c.toNat) && covers identifierStartRanges c.toNat)

/-- Characters that may follow in an identifier. -/
def isIdentifierPart (c : Char) : Bool :=
  c.isAlphanum || c == '_' || (decide (128 ≤ c.toNat) && covers identifierPartRanges c.toNat)

/-- Whether a text is one identifier. -/
def isIdentifier : List Char → Bool
  | [] => false
  | c :: rest => isIdentifierStart c && rest.all isIdentifierPart

/-- Whether a character is shown as it is: controls, separators other than the space, format
marks and code points without a character are not. -/
def isShown (c : Char) : Bool :=
  let n := c.toNat
  if n < 128 then decide (32 ≤ n) && decide (n ≤ 126) else !covers hiddenRanges n

end SourceAudit.Unicode
