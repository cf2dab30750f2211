import SourceAudit.Document.Value
import SourceAudit.Number.Hexadecimal
import SourceAudit.Number.Reading
import SourceAudit.Text.Position

/-!
  Reading JSON. A text is read from left to right and the first fault ends the
  reading: the text is malformed at an offset, for a cause, or it exceeds what
  is read, by the digits of a whole number (`Number.maxDigits`) or by the
  lists and objects that are open at once (`maxDepth`). Beyond the standard, the
  names of the values that are no finite numbers are accepted, and a name given
  twice in an object keeps its last value.

  The readers are bounded by the length of the text (`Json.read`).
-/
namespace SourceAudit
namespace Json

/-- Why a text is not JSON. -/
inductive Cause where
  | noValue
  | noName
  | noColon
  | noComma
  | openString
  | controlCharacter
  | badEscape
  | badUnicodeEscape
  | moreData
  deriving DecidableEq, Repr

/-- What a cause is called. -/
def Cause.message : Cause → String
  | .noValue => "Expecting value"
  | .noName => "Expecting property name enclosed in double quotes"
  | .noColon => "Expecting ':' delimiter"
  | .noComma => "Expecting ',' delimiter"
  | .openString => "Unterminated string starting at"
  | .controlCharacter => "Invalid control character at"
  | .badEscape => "Invalid \\escape"
  | .badUnicodeEscape => "Invalid \\uXXXX escape"
  | .moreData => "Extra data"

/-- The most lists and objects that may be open at once. -/
def maxDepth : Nat := 988

/-- How a text exceeds what is read: by the digits of a whole number, or by a list or an object
inside of too many others. -/
inductive Excess where
  | digits (o : Number.Overlong)
  | depth (kind : String)
  deriving DecidableEq, Repr

/-- How an excess is reported. -/
def Excess.message : Excess → String
  | .digits o => o.message
  | .depth kind =>
    "maximum recursion depth exceeded while decoding a JSON " ++ kind ++ " from a unicode string"

/-- Why a text is not read. -/
inductive Fault where
  | malformed (cause : Cause) (offset : Nat)
  | excessive (e : Excess)
  deriving DecidableEq, Repr

/-- The report of a malformed text: the cause, and the line, column and offset it is found at. -/
def Cause.report (cause : Cause) (offset : Nat) (t : Text) : String :=
  let before := t.take offset
  let line := before.countP (· == '\n') + 1
  let column := (before.reverse.takeWhile (· != '\n')).length + 1
  cause.message ++ ": line " ++ toString line ++ " column " ++ toString column ++
    " (char " ++ toString offset ++ ")"

/-- The report of a fault of a text. -/
def Fault.report (f : Fault) (t : Text) : String :=
  match f with
  | .malformed cause offset => cause.report offset t
  | .excessive e => e.message

/-- What remains to be read, and the offset it starts at. -/
structure Rest where
  text : Text
  offset : Nat

/-- The rest behind `n` more characters. -/
def Rest.skip (r : Rest) (n : Nat) : Rest := ⟨r.text.drop n, r.offset + n⟩

/-- The white space of JSON. -/
def isSpace (c : Char) : Bool := c == ' ' || c == '\t' || c == '\n' || c == '\r'

/-- The rest behind white space. -/
def Rest.trim (r : Rest) : Rest := r.skip (r.text.takeWhile isSpace).length

/-- The value of four hexadecimal digits. -/
def unit? : Text → Option Nat
  | a :: b :: c :: d :: _ =>
    match Number.hexValue? a, Number.hexValue? b, Number.hexValue? c, Number.hexValue? d with
    | some w, some x, some y, some z => some (4096 * w + 256 * x + 16 * y + z)
    | _, _, _, _ => none
  | _ => none

/-- The character of a one-letter escape. -/
def plainEscape? (c : Char) : Option Char :=
  if c == '"' || c == '\\' || c == '/' then some c
  else if c == 'b' then some (Char.ofNat 8)
  else if c == 'f' then some (Char.ofNat 12)
  else if c == 'n' then some '\n'
  else if c == 'r' then some '\r'
  else if c == 't' then some '\t'
  else none

/-- The character of a code point; half of a surrogate pair alone has none and is replaced. -/
def charOf (n : Nat) : Char :=
  if 0xd800 ≤ n ∧ n < 0xe000 then Char.ofNat 0xfffd else Char.ofNat n

/-- Reads a string whose opening quote stands at `opening`; `done` holds its characters so far,
backwards. -/
def readString (opening : Nat) : Nat → Rest → Text → Except Fault (String × Rest)
  | 0, _, _ => .error (.malformed .openString opening)
  | fuel + 1, r, done =>
    match r.text with
    | [] => .error (.malformed .openString opening)
    | '"' :: _ => .ok (String.ofList done.reverse, r.skip 1)
    | ['\\'] => .error (.malformed .openString opening)
    | '\\' :: 'u' :: digits =>
      if digits.length < 5 then .error (.malformed .badUnicodeEscape (r.offset + 1))
      else
        match unit? digits with
        | none => .error (.malformed .badUnicodeEscape (r.offset + 1))
        | some high =>
          let single := fun (_ : Unit) => readString opening fuel (r.skip 6) (charOf high :: done)
          if 0xd800 ≤ high ∧ high < 0xdc00 then
            match digits.drop 4 with
            | '\\' :: 'u' :: more =>
              if more.length < 5 then single ()
              else
                match unit? more with
                | none => .error (.malformed .badUnicodeEscape (r.offset + 7))
                | some low =>
                  if 0xdc00 ≤ low ∧ low < 0xe000 then
                    readString opening fuel (r.skip 12)
                      (charOf (0x10000 + (high - 0xd800) * 0x400 + (low - 0xdc00)) :: done)
                  else single ()
            | _ => single ()
          else single ()
    | '\\' :: c :: _ =>
      match plainEscape? c with
      | some d => readString opening fuel (r.skip 2) (d :: done)
      | none => .error (.malformed .badEscape r.offset)
    | c :: _ =>
      if c.toNat ≤ 0x1f then .error (.malformed .controlCharacter r.offset)
      else readString opening fuel (r.skip 1) (c :: done)

/-- The value of a digit. -/
def digitValue (d : Char) : Nat := d.toNat - '0'.toNat

/-- The value of a digit string. -/
def digitsValue (t : Text) : Nat := Number.ofDigits (t.map digitValue)

/-- Reads a number: a whole one, or a fraction if it has decimal places or an exponent. -/
def readNumber (r : Rest) : Except Fault (Value × Rest) :=
  let negative := r.text.head? == some '-'
  let body := if negative then r.text.drop 1 else r.text
  let whole := match body with
    | '0' :: _ => ['0']
    | _ => body.takeWhile Char.isDigit
  if whole.isEmpty then .error (.malformed .noValue r.offset)
  else
    let behind := body.drop whole.length
    let places := match behind with
      | '.' :: rest => rest.takeWhile Char.isDigit
      | _ => []
    let behind := if places.isEmpty then behind else behind.drop (places.length + 1)
    let (sign, power) := match behind with
      | e :: rest =>
        if e == 'e' || e == 'E' then
          match rest with
          | '-' :: rest => (['e', '-'], rest.takeWhile Char.isDigit)
          | '+' :: rest => (['e', '+'], rest.takeWhile Char.isDigit)
          | _ => (['e'], rest.takeWhile Char.isDigit)
        else ([], [])
      | [] => ([], [])
    let length := (if negative then 1 else 0) + whole.length +
      (if places.isEmpty then 0 else places.length + 1) +
      (if power.isEmpty then 0 else sign.length + power.length)
    if places.isEmpty && power.isEmpty then
      match Number.ofDigitsWithin (whole.map digitValue) with
      | .error o => .error (.excessive (.digits o))
      | .ok n => .ok (.whole (Number.signed negative n), r.skip length)
    else
      let e : Int := digitsValue power
      let e := if sign == ['e', '-'] then -e else e
      .ok (.real (.ofDecimal negative (digitsValue (whole ++ places)) (e - places.length)),
        r.skip length)

/-- The values that stand for themselves. -/
def words : List (String × Value) :=
  [("null", .null), ("true", .flag true), ("false", .flag false), ("NaN", .real .undefined),
   ("Infinity", .real (.infinite false)), ("-Infinity", .real (.infinite true))]

mutual

/-- Reads a value that starts here, inside of `depth` lists and objects; the first argument bounds
the work. -/
def readValue : Nat → Nat → Rest → Except Fault (Value × Rest)
  | 0, _, r => .error (.malformed .noValue r.offset)
  | fuel + 1, depth, r =>
    match r.text with
    | '"' :: _ =>
      match readString r.offset (r.text.length + 1) (r.skip 1) [] with
      | .ok (s, rest) => .ok (.text s, rest)
      | .error f => .error f
    | '\x7b' :: _ =>
      if maxDepth ≤ depth then .error (.excessive (.depth "object"))
      else
        let inner := (r.skip 1).trim
        match inner.text with
        | '\x7d' :: _ => .ok (.table [], inner.skip 1)
        | _ => readEntries fuel (depth + 1) inner []
    | '[' :: _ =>
      if maxDepth ≤ depth then .error (.excessive (.depth "array"))
      else
        let inner := (r.skip 1).trim
        match inner.text with
        | ']' :: _ => .ok (.list [], inner.skip 1)
        | _ => readItems fuel (depth + 1) inner []
    | _ =>
      match words.find? fun w => w.1.toList.isPrefixOf r.text with
      | some (name, v) => .ok (v, r.skip name.length)
      | none => readNumber r

/-- Reads the items of a list that has one here; `done` holds those before, backwards. -/
def readItems : Nat → Nat → Rest → List Value → Except Fault (Value × Rest)
  | 0, _, r, _ => .error (.malformed .noValue r.offset)
  | fuel + 1, depth, r, done =>
    match readValue fuel depth r with
    | .error f => .error f
    | .ok (v, rest) =>
      let rest := rest.trim
      match rest.text with
      | ']' :: _ => .ok (.list (v :: done).reverse, rest.skip 1)
      | ',' :: _ => readItems fuel depth (rest.skip 1).trim (v :: done)
      | _ => .error (.malformed .noComma rest.offset)

/-- Reads the entries of an object that has one here; `done` holds those before. -/
def readEntries : Nat → Nat → Rest → List (String × Value) → Except Fault (Value × Rest)
  | 0, _, r, _ => .error (.malformed .noName r.offset)
  | fuel + 1, depth, r, done =>
    match r.text with
    | '"' :: _ =>
      match readString r.offset (r.text.length + 1) (r.skip 1) [] with
      | .error f => .error f
      | .ok (name, rest) =>
        let rest := rest.trim
        match rest.text with
        | ':' :: _ =>
          match readValue fuel depth (rest.skip 1).trim with
          | .error f => .error f
          | .ok (v, rest) =>
            let rest := rest.trim
            let done := Value.enter done name v
            match rest.text with
            | '\x7d' :: _ => .ok (.table done, rest.skip 1)
            | ',' :: _ => readEntries fuel depth (rest.skip 1).trim done
            | _ => .error (.malformed .noComma rest.offset)
        | _ => .error (.malformed .noColon rest.offset)
    | _ => .error (.malformed .noName r.offset)

end

/-- Reads a text that is one JSON value, with white space around it. -/
def read (t : Text) : Except Fault Value :=
  let r := (Rest.mk t 0).trim
  match readValue (2 * t.length + 2) 0 r with
  | .error f => .error f
  | .ok (v, rest) =>
    let rest := rest.trim
    if rest.text.isEmpty then .ok v else .error (.malformed .moreData rest.offset)

end Json
end SourceAudit
