/-
# Digits

Natural numbers written in a base of up to sixteen.
-/

namespace Modelsmith.Digits

/-- The value of a digit; the letters `a` to `f` in either case follow the nine. -/
def value? (c : Char) : Option Nat :=
  if '0' ≤ c ∧ c ≤ '9' then some (c.toNat - '0'.toNat)
  else if 'a' ≤ c ∧ c ≤ 'f' then some (c.toNat - 'a'.toNat + 10)
  else if 'A' ≤ c ∧ c ≤ 'F' then some (c.toNat - 'A'.toNat + 10)
  else none

/-- Whether a character is a digit of a base. -/
def isDigit (base : Nat) (c : Char) : Bool := (value? c).any (· < base)

/-- The number that digits write after a number that was read before them. -/
def readFrom? (base : Nat) : Nat → List Char → Option Nat
  | n, [] => some n
  | n, c :: rest => do
    let d ← value? c
    if d < base then readFrom? base (n * base + d) rest else none

/-- The number that a list of at least one digit writes. -/
def read? (base : Nat) (cs : List Char) : Option Nat :=
  if cs.isEmpty then none else readFrom? base 0 cs

end Modelsmith.Digits
