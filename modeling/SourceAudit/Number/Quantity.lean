import SourceAudit.Number.Shortest

/-!
  Binary fractions together with the values a number format has beside them: a
  zero with a minus sign, the two infinities, and the value that is no number.
  Nothing compares with the last one, itself included.
-/
namespace SourceAudit

/-- A number as a document or a setting gives it. -/
inductive Quantity where
  | finite (q : Rat)
  | negativeZero
  | infinite (negative : Bool)
  | undefined
  deriving DecidableEq, Repr, Inhabited

namespace Quantity

/-- The least size that is no longer finite. -/
def limit : Rat := (Nat.pow 2 1024 : Rat)

/-- Whether a rational lies in the range of binary fractions: what it rounds to is within the
limit. -/
def holds (q : Rat) : Bool :=
  let near := Number.toBinary q
  decide (-limit < near) && decide (near < limit)

/-- The quantity nearest to `mantissa · 10 ^ exponent`, negated if asked for. -/
def ofDecimal (negative : Bool) (mantissa : Nat) (exponent : Int) : Quantity :=
  let zero : Quantity := if negative then negativeZero else finite 0
  let magnitude : Int := ((toString mantissa).length : Int) + exponent
  if mantissa == 0 then zero
  else if 400 < magnitude then infinite negative
  else if magnitude < -400 then zero
  else
    let q := Number.toBinary ((mantissa : Rat) * Number.tenTo exponent)
    if q == 0 then zero
    else if limit ≤ q then infinite negative
    else finite (if negative then -q else q)

/-- The quantity of a whole number. -/
def ofInt (n : Int) : Quantity := finite n

/-- Where a quantity that is a number lies: an infinity is beyond every rational. -/
def lt : Quantity → Quantity → Bool
  | undefined, _ | _, undefined => false
  | infinite a, infinite b => a && !b
  | infinite a, _ => a
  | _, infinite b => !b
  | finite a, finite b => decide (a < b)
  | finite a, negativeZero => decide (a < 0)
  | negativeZero, finite b => decide (0 < b)
  | negativeZero, negativeZero => false

/-- Whether one quantity is at most the other; false if one is no number. -/
def le : Quantity → Quantity → Bool
  | undefined, _ | _, undefined => false
  | a, b => !lt b a

/-- Whether the quantity is zero. -/
def isZero : Quantity → Bool
  | finite q => q == 0
  | negativeZero => true
  | _ => false

/-- The text of a quantity, with the given names for what is no finite number. -/
def textWith (infinity notANumber : String) : Quantity → String
  | finite q => Number.shortestText q
  | negativeZero => "-0.0"
  | infinite negative => (if negative then "-" else "") ++ infinity
  | undefined => notANumber

/-- The text of a quantity as messages show it. -/
def text : Quantity → String := textWith "inf" "nan"

end Quantity
end SourceAudit
