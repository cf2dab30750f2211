import SourceAudit.Number.Hexadecimal
import SourceAudit.Number.Reading
import SourceAudit.Pattern.Notation
import SourceAudit.Text.Encoding
import SourceAudit.Text.Quoted

/-!
  Hosts of addresses: four numbers between dots, groups of hexadecimal digits
  between colons, or names. Names are written in small letters; a name with
  letters beyond ASCII is written label by label in ASCII.
-/
namespace SourceAudit
namespace Remote
namespace Host

/-- Why a text is no host. -/
inductive Fault where
  | numbers (t : Text)
  | groups (t : Text)
  | name (t : Text)
  deriving DecidableEq, Repr

/-- How a fault is reported. -/
def Fault.message : Fault → String
  | numbers t => "Invalid IPv4 address: " ++ String.ofList (Quoted.encode t)
  | groups t => "Invalid IPv6 address: " ++ String.ofList (Quoted.encode t)
  | name t => "Invalid IDNA hostname: " ++ String.ofList (Quoted.encode t)

/-- One of the four numbers: at most 255, without needless zeros. -/
def isByte (t : Text) : Bool :=
  !t.isEmpty && decide (t.length ≤ 3) && t.all Char.isDigit && (t == ['0'] || t.head? != some '0') &&
    decide (Number.ofDigits (t.map fun d => d.toNat - '0'.toNat) ≤ 255)

/-- Whether a text is four numbers between dots. -/
def isQuad (t : Text) : Bool :=
  let parts := t.splitOn '.'
  parts.length == 4 && parts.all isByte

/-- Hosts that are read as four numbers: digits up to the ends and three more runs of digits, with
one character of any kind between two runs. -/
def numeric : Pattern := .written "^[0-9]+.[0-9]+.[0-9]+.[0-9]+$"

/-- One to four hexadecimal digits. -/
def isGroup (t : Text) : Bool :=
  !t.isEmpty && decide (t.length ≤ 4) && t.all fun c => (Number.hexValue? c).isSome

/-- The parts between colons, with two groups in the place of four numbers at the end. -/
def groupParts? (t : Text) : Option (List Text) :=
  let parts := t.splitOn ':'
  let last := parts.getLastD []
  if parts.length < 3 then none
  else if last.contains '.' then
    if isQuad last then some (parts.dropLast ++ [['0'], ['0']]) else none
  else some parts

/-- Whether parts are eight groups, or fewer around one gap; a gap is an empty part, and two of
them at the very start or end. -/
def areGroups (parts : List Text) : Bool :=
  let inner := (parts.drop 1).dropLast
  match inner.findIdx? List.isEmpty with
  | none => parts.length == 8 && parts.all isGroup
  | some i =>
    let before := parts.take (i + 1)
    let after := parts.drop (i + 2)
    let before := if before == [[]] then [] else before
    let after := if after == [[]] then [] else after
    (before ++ after).all isGroup && decide (before.length + after.length ≤ 7)

/-- Whether a text is groups between colons, with or without the name of a zone. -/
def isGroups (t : Text) : Bool :=
  let zone := t.dropWhile (· != '%')
  let named := match zone with
    | [] => true
    | _ :: name => !name.isEmpty && !name.contains '%'
  named && ((groupParts? (t.takeWhile (· != '%'))).map areGroups).getD false

/-- Characters of a label: small letters, digits and hyphens. -/
def inLabel (c : Char) : Bool := c == '-' || (Unicode.isWord c && c != '_' && Unicode.lower c == c)

/-- A label in ASCII, if it can be written so. -/
def label? (t : Text) : Option Text :=
  let written := if t.all Ascii.has then t else "xn--".toList ++ Punycode.encode t
  if t.isEmpty || !t.all inLabel || t.head? == some '-' || t.getLast? == some '-' ||
      (t.drop 2).take 2 == ['-', '-'] || decide (63 < written.length) then none
  else some written

/-- The labels of a name, between full stops of any width. -/
def labels (t : Text) : List Text :=
  Text.splitOn '.' (t.map fun c =>
    if c.toNat == 0x3002 || c.toNat == 0xff0e || c.toNat == 0xff61 then '.' else c)

/-- A name in ASCII, label by label, if it can be written so. One full stop at the end stays. -/
def name? (t : Text) : Option Text :=
  let parts := labels t.lower
  let closed := 1 < parts.length && parts.getLast? == some []
  match (if closed then parts.dropLast else parts).mapM label? with
  | none => none
  | some written =>
    let name := Text.joinWith ['.'] written ++ if closed then ['.'] else []
    if (if closed then 254 else 253) < name.length then none else some name

/-- Characters of a name in ASCII that stand for themselves. -/
def isPlain (c : Char) : Bool :=
  c.isAlphanum || "-._~!$&'()*+,;=\"`|\\%".toList.contains c || c == '\x7b' || c == '\x7d'

/-- The host that a text stands for; groups lose their brackets. -/
def ofText (t : Text) : Except Fault Text :=
  if t.isEmpty then .ok t
  else if numeric.occurs t then if isQuad t then .ok t else .error (.numbers t)
  else if t.head? == some '[' && t.getLast? == some ']' then
    let inside := (t.drop 1).dropLast
    if isGroups inside then .ok inside else .error (.groups t)
  else if t.all Ascii.has then .ok (Percent.encode isPlain t.lower)
  else
    match name? t with
    | some name => .ok name
    | none => .error (.name t)

end Host
end Remote
end SourceAudit
