/-
# Binary numbers of double precision

A finite number of double precision is kept as its exact value, a sign and a natural number
times a power of two.  Every operation computes the exact result and rounds it once, to the
nearest number and to the even one of two that are equally near.
-/
import Modelsmith.Number.Power

namespace Modelsmith

/-- The number `(-1)^negative * significand * 2^exponent`. -/
structure Binary64 where
  /-- Whether the number has a minus sign; zero may have one too. -/
  negative : Bool
  /-- The significand, below `2^53`. -/
  significand : Nat
  /-- The power of two, from `-1074` to `971`. -/
  exponent : Int
deriving DecidableEq, Repr

namespace Binary64

/-- Numbers are equal by value, so that the two zeros are equal. -/
def eq (x y : Binary64) : Bool :=
  x = y || (x.significand == 0 && y.significand == 0)

instance : BEq Binary64 := ⟨eq⟩

/-- The zero without a sign. -/
def zero : Binary64 := ⟨false, 0, -1074⟩

/-- Change the sign. -/
def neg (x : Binary64) : Binary64 := { x with negative := !x.negative }

/-- The natural number nearest to `num / den`, the even one of two. -/
def roundDiv (num den : Nat) : Nat :=
  let q := num / den
  let r := num % den
  if 2 * r < den then q
  else if den < 2 * r then q + 1
  else if q % 2 = 0 then q else q + 1

/-- The exponent at which `num / den`, a positive ratio, has a significand of 53 bits, or the
least exponent if that is larger. -/
def exponentOf (num den : Nat) : Int :=
  let e : Int := (num.log2 : Int) - (den.log2 : Int) - 53
  let e := if den * twoTo (e + 53).toNat ≤ num * twoTo (-(e + 53)).toNat then e + 1 else e
  max (-1074) e

/-- The number without a sign that is nearest to `num / den`, if it is not too large. -/
def ofRatio? (num den : Nat) : Option Binary64 :=
  if num = 0 then some zero
  else
    let e := exponentOf num den
    let m := roundDiv (num * twoTo (-e).toNat) (den * twoTo e.toNat)
    let (m, e) := if m = twoTo 53 then (twoTo 52, e + 1) else (m, e)
    if 971 < e then none else some ⟨false, m, e⟩

/-- The number nearest to a natural number. -/
def ofNat? (n : Nat) : Option Binary64 := ofRatio? n 1

/-- The product of two numbers without a sign. -/
def mul? (x y : Binary64) : Option Binary64 :=
  let e := x.exponent + y.exponent
  ofRatio? (x.significand * y.significand * twoTo e.toNat) (twoTo (-e).toNat)

/-- The quotient of two numbers without a sign, the second of them not zero. -/
def div? (x y : Binary64) : Option Binary64 :=
  let e := x.exponent - y.exponent
  ofRatio? (x.significand * twoTo e.toNat) (y.significand * twoTo (-e).toNat)

/-- The largest power of ten below the limit of double precision. -/
def maxPower : Nat := 308

/-- Divide `rounds` times by the largest power of ten. -/
def divRounds : Nat → Binary64 → Option Binary64
  | 0, x => some x
  | rounds + 1, x =>
    if x.significand = 0 then some x
    else do
      let y ← div? x (← ofNat? (tenTo maxPower))
      divRounds rounds y

/-- The number `significand * 10^exponent`, with one rounding for the significand, one for
the power of ten and one for each multiplication or division by a power of ten.  There is no
result if it is too large. -/
def ofDecimal? (significand : Nat) (exponent : Int) : Option Binary64 := do
  let x ← ofNat? significand
  if 0 ≤ exponent then
    if exponent.toNat ≤ maxPower then mul? x (← ofNat? (tenTo exponent.toNat))
    else if x.significand = 0 then some x
    else none
  else
    let power := (-exponent).toNat
    let rounds := (power - 1) / maxPower
    let y ← divRounds rounds x
    if y.significand = 0 then some y
    else div? y (← ofNat? (tenTo (power - rounds * maxPower)))

end Binary64

end Modelsmith
