/-
# The shortest decimal that reads back

A number is written with the fewest decimal digits that identify it among the numbers of
double precision, and of the decimals with that many digits the nearest one.
-/
import Modelsmith.Number.Binary64

namespace Modelsmith

/-- The decimal `digits * 10^exponent`. -/
structure Decimal where
  /-- The digits, as a natural number. -/
  digits : Nat
  /-- The power of ten. -/
  exponent : Int
deriving DecidableEq, Repr

namespace Binary64

/-- Compare `a * 10^i` with `n * 2^j`. -/
def compareScaled (a : Nat) (i : Int) (n : Nat) (j : Int) : Ordering :=
  compare (a * tenTo i.toNat * twoTo (-j).toNat) (n * twoTo j.toNat * tenTo (-i).toNat)

/-- Whether a decimal lies among the reals that round to `x`: between the points halfway to
the neighbours of `x`, ends included when the significand is even. -/
def readsBack (x : Binary64) (d : Decimal) : Bool :=
  let m := x.significand
  let narrow := m == twoTo 52 && x.exponent != -1074
  let below := if narrow then 4 * m - 1 else 4 * m - 2
  let ends := m % 2 == 0
  let low := compareScaled d.digits d.exponent below (x.exponent - 2)
  let high := compareScaled d.digits d.exponent (4 * m + 2) (x.exponent - 2)
  (low == .gt || (ends && low == .eq)) && (high == .lt || (ends && high == .eq))

/-- The power of ten of the leading digit of a positive number, from a first estimate that is
too large by at most `steps`. -/
def leadingPower (x : Binary64) : Nat → Int → Int
  | 0, k => k
  | steps + 1, k =>
    if compareScaled 1 k x.significand x.exponent == .gt then leadingPower x steps (k - 1)
    else k

/-- The power of ten of the leading digit of a positive number. -/
def magnitude (x : Binary64) : Int :=
  let bits : Int := (x.significand.log2 : Int) + x.exponent
  leadingPower x 4 (bits * 30103 / 100000 + 1)

/-- The nearest decimal to `x` with unit `10^unit` that reads back, if one of the two
neighbours of `x` on that grid does. -/
def onGrid? (x : Binary64) (unit : Int) : Option Decimal :=
  let num := x.significand * twoTo x.exponent.toNat * tenTo (-unit).toNat
  let den := twoTo (-x.exponent).toNat * tenTo unit.toNat
  let q := num / den
  let low : Decimal := ⟨q, unit⟩
  let high : Decimal := ⟨q + 1, unit⟩
  let nearer := if Binary64.roundDiv num den = q then low else high
  let farther := if Binary64.roundDiv num den = q then high else low
  if x.readsBack nearer then some nearer
  else if x.readsBack farther then some farther
  else none

/-- The exact value of a number as a decimal. -/
def exactDecimal (x : Binary64) : Decimal :=
  ⟨x.significand * twoTo x.exponent.toNat * Nat.pow 5 (-x.exponent).toNat, min 0 x.exponent⟩

/-- The shortest decimal that reads back as the positive number `x`. -/
def shortest (x : Binary64) : Decimal :=
  let units := (List.range 17).map fun (n : Nat) => magnitude x - (n : Int)
  (units.findSome? (onGrid? x)).getD (exactDecimal x)

end Binary64

namespace Decimal

/-- The decimal digits of a natural number without the zeros at the end, and the power of ten
of the leading digit when the last digit has the power `exponent`. -/
def leading (d : Decimal) : List Char × Int :=
  let all := Nat.toDigits 10 d.digits
  (((all.reverse.dropWhile (· == '0')).reverse), d.exponent + (all.length : Int) - 1)

/-- The text of a positive decimal: positional from `10^-5` up to below `10^16`, with at least
one digit on each side of the point, and otherwise with a signed exponent. -/
def text (d : Decimal) : String :=
  let (digits, e) := d.leading
  if -5 ≤ e ∧ e ≤ 15 then
    if e < 0 then
      "0." ++ String.ofList (List.replicate ((-e).toNat - 1) '0' ++ digits)
    else
      let places := e.toNat + 1
      let whole := digits.take places
      let whole := whole ++ List.replicate (places - whole.length) '0'
      let part := digits.drop places
      String.ofList (whole ++ '.' :: (if part.isEmpty then ['0'] else part))
  else
    let tail := digits.drop 1
    let mantissa := digits.take 1 ++ (if tail.isEmpty then [] else '.' :: tail)
    let sign := if e < 0 then '-' else '+'
    String.ofList (mantissa ++ ['e', sign] ++ Nat.toDigits 10 e.natAbs)

end Decimal

/-- The text of a number: the shortest decimal that reads back, after the sign. -/
def Binary64.text (x : Binary64) : String :=
  (if x.negative then "-" else "") ++
    (if x.significand = 0 then "0.0" else x.shortest.text)

end Modelsmith
