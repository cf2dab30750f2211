import SourceAudit.Number.Reading

/-!
  Whole numbers that a service writes as texts. A plain numeral is digits without
  needless zeros, and a minus sign in front of them if the number is negative.
  Any other text is brought into that form first: blanks around it, a plus sign,
  zeros in front, decimal places that are zeros and underscores are taken away,
  in this order. What is no plain numeral then is no number.
-/
namespace SourceAudit
namespace Remote
namespace Numeral

/-- The whole number that a plain numeral stands for. -/
def plain? (t : Text) : Option Int :=
  let (negative, digits) := match t with
    | '-' :: rest => (true, rest)
    | _ => (false, t)
  let plain := match digits with
    | [] => false
    | '0' :: rest => rest.isEmpty
    | _ => digits.all Char.isDigit
  if plain && digits.length ≤ Number.maxDigits then
    some (Number.signed negative (Number.ofDigits (digits.map fun d => d.toNat - '0'.toNat)))
  else none

/-- A text without a plus sign in front; a second sign must not follow it. -/
def withoutPlus? : Text → Option Text
  | '+' :: '-' :: _ => none
  | '+' :: rest => some rest
  | t => some t

/-- A text from the place on where its zeros in front end, the character before which is `before`.
Underscores between the zeros go with them, and a minus sign ends them as a digit does. One zero
stays in front of a decimal point or the end. -/
def pastZeros? (before : Char) : Text → Option Text
  | [] => some [before]
  | c :: rest =>
    if c == '0' || c == '_' then pastZeros? c rest
    else if c == '.' then some (before :: c :: rest)
    else if c.isDigit || c == '-' then some (c :: rest)
    else none

/-- A text without needless zeros in front; it starts with a digit or a minus sign. -/
def withoutZeros? : Text → Option Text
  | [] => none
  | c :: rest =>
    if c == '0' then pastZeros? c rest
    else if c.isDigit || c == '-' then some (c :: rest)
    else none

/-- A text without its decimal places, if there are some and all are zeros. -/
def withoutPlaces (t : Text) : Text :=
  match t.dropWhile (· != '.') with
  | '.' :: c :: places =>
    if (c :: places).all (· == '0') then t.takeWhile (· != '.') else t
  | _ => t

/-- Whether a text has underscores and each stands alone between two other characters; the first
argument says whether an underscore could stand here. -/
def spaced : Bool → Text → Bool
  | here, [] => here
  | here, '_' :: rest => here && spaced false rest
  | _, _ :: rest => spaced true rest

/-- A text without underscores, if each of them stands alone between two other characters. -/
def withoutUnderscores (t : Text) : Text := if spaced false t then t.filter (· != '_') else t

/-- The whole number that a text stands for. -/
def whole? (t : Text) : Option Int :=
  (plain? t).or
    ((withoutPlus? (Number.bare t) >>= withoutZeros?).bind fun bare =>
      plain? (withoutUnderscores (withoutPlaces bare)))

end Numeral
end Remote
end SourceAudit
