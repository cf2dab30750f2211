import SourceAudit.Number.Hexadecimal
import SourceAudit.Text.Quoted
import SourceAudit.Text.Utf8

/-!
  Texts in a smaller alphabet.

  Percent encoding: a character that may not stand for itself is written as the
  bytes of its UTF-8 form, each of them as a percent sign and two hexadecimal
  digits. A percent sign itself stands for itself, so that what is encoded once
  stays as it is.

  Base64: three bytes are written as four digits of six bits. A group that is
  not full is filled up with equality signs.

  ASCII: what keeps a text from it is reported by its first run of other
  characters.

  Punycode: a text in ASCII letters and digits. The ASCII characters come first.
  The others follow as gaps: they are put in by code point and then by place, and
  each is told by the number of places passed since the last one. A gap is
  written in digits of base 36, the lowest first, and ends with a digit below a
  threshold that moves with the sizes of the gaps so far.
-/
namespace SourceAudit

namespace Percent

/-- A byte as a percent sign and two digits. -/
def byte (b : UInt8) : Text := '%' :: (Number.hexDigits 2 b.toNat).map Char.toUpper

/-- The bytes of a character. -/
def bytesOf (c : Char) : List UInt8 := String.utf8EncodeChar c

/-- A text with all characters encoded but those that are kept. -/
def encode (keeps : Char → Bool) (t : Text) : Text :=
  t.flatMap fun c => if keeps c || c == '%' then [c] else (bytesOf c).flatMap byte

/-- The bytes that an encoded text stands for. -/
def decode : Text → List UInt8
  | '%' :: a :: b :: rest =>
    match Number.hexValue? a, Number.hexValue? b with
    | some high, some low => UInt8.ofNat (16 * high + low) :: decode rest
    | _, _ => bytesOf '%' ++ decode (a :: b :: rest)
  | c :: rest => bytesOf c ++ decode rest
  | [] => []

end Percent

namespace Base64

/-- The digit of a number below 64. -/
def digit (n : Nat) : Char :=
  if n < 26 then Char.ofNat ('A'.toNat + n)
  else if n < 52 then Char.ofNat ('a'.toNat + n - 26)
  else if n < 62 then Char.ofNat ('0'.toNat + n - 52)
  else if n == 62 then '+'
  else '/'

/-- The four digits of three bytes. -/
def group (a b c : UInt8) : Text :=
  let n := (a.toNat * 256 + b.toNat) * 256 + c.toNat
  [digit (n / 262144), digit (n / 4096 % 64), digit (n / 64 % 64), digit (n % 64)]

/-- The digits of bytes. -/
def encode : List UInt8 → Text
  | [] => []
  | [a] => (group a 0 0).take 2 ++ ['=', '=']
  | [a, b] => (group a b 0).take 3 ++ ['=']
  | a :: b :: c :: rest => group a b c ++ encode rest

end Base64

namespace Ascii

/-- Whether a character is ASCII. -/
def has (c : Char) : Bool := decide (c.toNat < 128)

/-- Characters in a row that are not ASCII, and the offset of the first. -/
structure Foreign where
  offset : Nat
  first : Char
  others : Text
  deriving DecidableEq, Repr

/-- The first characters of a text that are not ASCII. -/
def foreign? (t : Text) : Option Foreign :=
  match t.dropWhile has with
  | [] => none
  | c :: rest => some ⟨(t.takeWhile has).length, c, rest.takeWhile fun d => !has d⟩

/-- How characters that are not ASCII are reported. -/
def Foreign.message (f : Foreign) : String :=
  let subject := if f.others.isEmpty then
      "character '" ++ String.ofList (Quoted.numbered f.first.toNat) ++ "' in position " ++
        toString f.offset
    else
      "characters in position " ++ toString f.offset ++ "-" ++ toString (f.offset + f.others.length)
  "'ascii' codec can't encode " ++ subject ++ ": ordinal not in range(128)"

end Ascii

namespace Punycode

/-- A digit below 36: the small letters, then the decimal digits. -/
def digit (n : Nat) : Char :=
  if n < 26 then Char.ofNat ('a'.toNat + n) else Char.ofNat ('0'.toNat + n - 26)

/-- The threshold of the digit at a position, which counts in steps of 36. -/
def threshold (bias position : Nat) : Nat := max 1 (min 26 (position - bias))

/-- The digits of a gap from a position on. -/
def gapFrom (bias position gap : Nat) : Text :=
  let least := threshold bias position
  if gap < least then [digit gap]
  else
    digit (least + (gap - least) % (36 - least)) ::
      gapFrom bias (position + 36) ((gap - least) / (36 - least))
termination_by gap
decreasing_by
  have low : 1 ≤ threshold bias position := Nat.le_max_left ..
  have := Nat.div_le_self (gap - threshold bias position) (36 - threshold bias position)
  omega

/-- A gap brought below 456 by dividing, with 36 for each division. -/
def scaled (gap steps : Nat) : Nat × Nat :=
  if 455 < gap then scaled (gap / 35) (steps + 36) else (gap, steps)
termination_by gap
decreasing_by exact Nat.div_lt_self (by omega) (by omega)

/-- The bias after a gap, with the number of characters that then are in place. -/
def biasAfter (gap inPlace : Nat) (isFirst : Bool) : Nat :=
  let start := if isFirst then gap / 700 else gap / 2
  let (rest, steps) := scaled (start + start / inPlace) 0
  steps + 36 * rest / (rest + 38)

/-- Where the putting in of characters stands: the places passed since the last one, the bias,
how many characters are in place, whether none has been put in, and what is written. -/
structure Progress where
  gap : Nat := 0
  bias : Nat := 72
  inPlace : Nat
  isFirst : Bool := true
  written : Text := []

/-- Passes a character of the text while the characters of one code point are put in. -/
def Progress.pass (point : Nat) (p : Progress) (c : Char) : Progress :=
  if c.toNat < point then { p with gap := p.gap + 1 }
  else if c.toNat == point then
    { gap := 0
      bias := biasAfter p.gap (p.inPlace + 1) p.isFirst
      inPlace := p.inPlace + 1
      isFirst := false
      written := p.written ++ gapFrom p.bias 36 p.gap }
  else p

/-- Puts in the characters of each of the code points, which are given in order; the code points
below `next` are in place. -/
def Progress.run (t : Text) : (next : Nat) → List Nat → Progress → Progress
  | _, [], p => p
  | next, point :: points, p =>
    let skipped := { p with gap := p.gap + (point - next) * (p.inPlace + 1) }
    let p := t.foldl (Progress.pass point) skipped
    Progress.run t (point + 1) points { p with gap := p.gap + 1 }

/-- A text in ASCII characters. -/
def encode (t : Text) : Text :=
  let plain := t.filter Ascii.has
  let points := ((t.filter fun c => !Ascii.has c).map Char.toNat).eraseDups.mergeSort
  plain ++ (if plain.isEmpty then [] else ['-']) ++
    (Progress.run t 128 points { inPlace := plain.length }).written

end Punycode

end SourceAudit
