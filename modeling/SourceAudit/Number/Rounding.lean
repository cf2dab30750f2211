/-!
  Rounding of rationals: to the nearest whole number with ties to the even one
  (`Number.nearest`), to the nearest number with 53 significant binary digits
  (`Number.toBinary`), and to a count of decimal places, as a number or as a text
  (`Number.fixedText`).

  Measured values are held as exact rationals; where a value is stored or
  computed with binary fractions, every operation is the exact one followed by
  `toBinary`.
-/
namespace SourceAudit
namespace Number

/-- The nearest whole number; of two equally near, the even one. -/
def nearest (q : Rat) : Int :=
  let low := q.floor
  let above := q - low
  if above < 1 / 2 then low
  else if 1 / 2 < above then low + 1
  else if low % 2 == 0 then low
  else low + 1

/-- Two to a whole power. -/
def twoTo (e : Int) : Rat :=
  match e with
  | .ofNat n => (Nat.pow 2 n : Rat)
  | .negSucc n => 1 / (Nat.pow 2 (n + 1) : Rat)

/-- The exponent of the greatest power of two that is not above a positive rational. -/
def binaryExponent (q : Rat) : Int :=
  let guess : Int := (Nat.log2 q.num.natAbs : Int) - (Nat.log2 q.den : Int)
  if q < twoTo guess then guess - 1 else guess

/-- The nearest number with 53 significant binary digits, ties to the even last digit; steps do
not get finer than two to the power of -1074. -/
def toBinary (q : Rat) : Rat :=
  if q == 0 then 0
  else
    let size := if q < 0 then -q else q
    let step := twoTo (max (binaryExponent size - 52) (-1074))
    (nearest (q / step) : Rat) * step

/-- The quotient of two counts as a binary fraction. -/
def ratio (a b : Nat) : Rat := toBinary ((a : Rat) / (b : Rat))

/-- The binary fraction nearest to a value cut to two decimal places, ties to the even digit. -/
def toHundredths (q : Rat) : Rat := toBinary ((nearest (q * 100) : Rat) / 100)

/-- A value, or zero if it is negative. -/
def atLeastZero (q : Rat) : Rat := if q < 0 then 0 else q

/-- The nearest whole number within 0 and 100. -/
def toScore (q : Rat) : Int := nearest (if 100 < q then 100 else atLeastZero q)

/-- The text of a value with `places` decimal places, and no point when there are none. -/
def fixedText (places : Nat) (q : Rat) : String :=
  let scale := Nat.pow 10 places
  let size := if q < 0 then -q else q
  let n := (nearest (size * (scale : Nat))).toNat
  let whole := toString (n / scale)
  let fraction := toString (n % scale)
  let padding := String.ofList (List.replicate (places - fraction.length) '0')
  (if q < 0 then "-" else "") ++ whole ++ (if places == 0 then "" else "." ++ padding ++ fraction)

end Number
end SourceAudit
