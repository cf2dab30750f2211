import SourceAudit.Number.Quantity
import SourceAudit.Text.Basic

/-!
  Numbers from texts. White space around a number is ignored, digits of every script
  count, and an underscore may stand between two digits. A whole number has a
  bounded count of digits, zeros in front included; a fraction has not.
-/
namespace SourceAudit
namespace Number

/-- White space around numbers: blanks without the four separators of files, groups, records and
units. -/
def isSpace (c : Char) : Bool :=
  Unicode.isBlank c && !(decide (0x1c ≤ c.toNat) && decide (c.toNat ≤ 0x1f))

/-- A text without white space around it. -/
def bare (t : Text) : Text := ((t.dropWhile isSpace).reverse.dropWhile isSpace).reverse

/-- The digits that lead a text, as values, with what follows; an underscore between two digits
is skipped. -/
def digitRun : Text → List Nat × Text
  | [] => ([], [])
  | [c] =>
    match Unicode.digitValue? c with
    | some d => ([d], [])
    | none => ([], [c])
  | c :: '_' :: rest =>
    match Unicode.digitValue? c with
    | none => ([], c :: '_' :: rest)
    | some d =>
      match digitRun rest with
      | ([], _) => ([d], '_' :: rest)
      | (ds, after) => (d :: ds, after)
  | c :: rest =>
    match Unicode.digitValue? c with
    | none => ([], c :: rest)
    | some d =>
      match digitRun rest with
      | (ds, after) => (d :: ds, after)

/-- The number that digits stand for, the first one counting most. -/
def ofDigits (ds : List Nat) : Nat := ds.foldl (fun n d => 10 * n + d) 0

/-- The most digits that a whole number is read from. -/
def maxDigits : Nat := 4300

/-- A whole number with more digits than are read. -/
structure Overlong where
  digits : Nat
  deriving DecidableEq, Repr

/-- How a number with too many digits is reported. -/
def Overlong.message (o : Overlong) : String :=
  "Exceeds the limit (" ++ toString maxDigits ++ " digits) for integer string conversion: " ++
    "value has " ++ toString o.digits ++
    " digits; use sys.set_int_max_str_digits() to increase the limit"

/-- The number that digits stand for, unless they are too many. -/
def ofDigitsWithin (ds : List Nat) : Except Overlong Nat :=
  if maxDigits < ds.length then .error ⟨ds.length⟩ else .ok (ofDigits ds)

/-- Whether a number is negative, by the sign that leads it, with what follows the sign. -/
def signOf : Text → Bool × Text
  | '-' :: rest => (true, rest)
  | '+' :: rest => (false, rest)
  | t => (false, t)

/-- A whole number with a sign. -/
def signed (negative : Bool) (n : Nat) : Int := if negative then -(n : Int) else n

/-- Why a text stands for no whole number. -/
inductive WholeFault where
  | malformed
  | overlong (o : Overlong)
  deriving DecidableEq, Repr

/-- The whole number that a text stands for. An underscore out of place is found before the digits
are counted, and what follows the digits after that. -/
def whole (t : Text) : Except WholeFault Int :=
  let (negative, body) := signOf (bare t)
  match digitRun body with
  | ([], _) | (_, '_' :: _) => .error .malformed
  | (ds, rest) =>
    match ofDigitsWithin ds with
    | .error o => .error (.overlong o)
    | .ok n => if rest.isEmpty then .ok (signed negative n) else .error .malformed

/-- The exponent that follows a mantissa, if it is well formed: zero if there is none. -/
def exponent? : Text → Option Int
  | [] => some 0
  | e :: rest =>
    if e == 'e' || e == 'E' then
      let (negative, body) := signOf rest
      match digitRun body with
      | ([], _) => none
      | (ds, []) => some (signed negative (ofDigits ds))
      | _ => none
    else none

/-- The quantity that an unsigned decimal stands for. -/
def decimal? (negative : Bool) (body : Text) : Option Quantity :=
  let (ds, rest) := digitRun body
  let (places, rest) := match rest with
    | '.' :: more => digitRun more
    | _ => ([], rest)
  if ds.isEmpty && places.isEmpty then none
  else
    (exponent? rest).map fun e =>
      Quantity.ofDecimal negative (ofDigits (ds ++ places)) (e - (places.length : Int))

/-- The quantity that a text stands for: a decimal, or a word for what is no finite number. -/
def fraction? (t : Text) : Option Quantity :=
  let (negative, body) := signOf (bare t)
  let word := String.ofList (body.map Char.toLower)
  if word == "inf" || word == "infinity" then some (.infinite negative)
  else if word == "nan" then some .undefined
  else decimal? negative body

end Number
end SourceAudit
