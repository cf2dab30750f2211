import SourceAudit.Number.Rounding

/-!
  The shortest decimal text of a binary fraction: the fewest digits that read
  back as the same value, of those the nearest, written out in full between
  1e-4 and 1e16 and with an exponent elsewhere.
-/
namespace SourceAudit
namespace Number

/-- Ten to a whole power. -/
def tenTo (e : Int) : Rat :=
  match e with
  | .ofNat n => (Nat.pow 10 n : Rat)
  | .negSucc n => 1 / (Nat.pow 10 (n + 1) : Rat)

/-- The exponent of the greatest power of ten that is not above a positive rational. -/
def decimalExponent (q : Rat) : Int :=
  let guess : Int :=
    ((toString q.num.natAbs).length : Int) - ((toString q.den).length : Int)
  if q < tenTo guess then guess - 1 else guess

/-- The decimal with `count` digits nearest to `q`, as its digits and the exponent of the last
one, if it reads back as `q`. -/
def withDigits? (q : Rat) (count : Nat) : Option (Nat × Int) :=
  let e := decimalExponent q - count + 1
  let unit := tenTo e
  let low := (q / unit).floor
  let backs (n : Int) : Bool := toBinary ((n : Rat) * unit) == q
  let below := q - low * unit
  let above := (low + 1) * unit - q
  let lowFirst := below < above || (below == above && low % 2 == 0)
  let first := if lowFirst then low else low + 1
  let second := if lowFirst then low + 1 else low
  if backs first then some (first.toNat, e)
  else if backs second then some (second.toNat, e)
  else none

/-- The fewest digits of a positive binary fraction, trying `left` more counts from `count` on. -/
def fewestFrom (q : Rat) : Nat → Nat → Nat × Int
  | 0, count => ((q / tenTo (decimalExponent q - count + 1)).floor.toNat,
      decimalExponent q - count + 1)
  | left + 1, count =>
    match withDigits? q count with
    | some found => found
    | none => fewestFrom q left (count + 1)

/-- A digit string and the place of its decimal point, without trailing zeros. -/
def shortestDigits (q : Rat) : List Char × Int :=
  let (n, e) := fewestFrom q 17 1
  let digits := (toString n).toList
  let place := (digits.length : Int) + e
  let kept := (digits.reverse.dropWhile (· == '0')).reverse
  (if kept.isEmpty then ['0'] else kept, place)

/-- Digits laid out around the decimal point at the given place. -/
def layOut (digits : List Char) (place : Int) : String :=
  let zeros (n : Int) := List.replicate n.toNat '0'
  let count : Int := digits.length
  if -4 < place && place ≤ 16 then
    if place ≤ 0 then String.ofList (['0', '.'] ++ zeros (-place) ++ digits)
    else if count ≤ place then String.ofList (digits ++ zeros (place - count) ++ ['.', '0'])
    else String.ofList (digits.take place.toNat ++ ['.'] ++ digits.drop place.toNat)
  else
    let e := place - 1
    let size := toString e.natAbs
    let size := if size.length < 2 then "0" ++ size else size
    let fraction := digits.drop 1
    String.ofList (digits.take 1) ++ (if fraction.isEmpty then "" else "." ++ String.ofList fraction) ++
      "e" ++ (if e < 0 then "-" else "+") ++ size

/-- The shortest text of a binary fraction. -/
def shortestText (q : Rat) : String :=
  if q == 0 then "0.0"
  else
    let (digits, place) := shortestDigits (if q < 0 then -q else q)
    (if q < 0 then "-" else "") ++ layOut digits place

end Number
end SourceAudit
