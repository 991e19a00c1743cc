/-
# Dates and times in TOML

A date, a time of day, or a date with a time and perhaps an offset.  In normal form the date
and the time are joined by `T`, seconds are always written, a fraction ends at its last digit
that is not zero, and has at most nine digits.
-/
import Modelsmith.Toml.Basic

namespace Modelsmith.Toml

/-- Two digits at the start of a text, if they are at most `limit`, and what follows. -/
def readTwo (limit : Nat) : List Char → Option (List Char × List Char)
  | a :: b :: rest => do
    let n ← Digits.read? 10 [a, b]
    if n ≤ limit then some ([a, b], rest) else none
  | _ => none

/-- The number of days in a month. -/
def daysIn (year month : Nat) : Nat :=
  if month = 2 then
    if year % 4 = 0 ∧ (year % 100 ≠ 0 ∨ year % 400 = 0) then 29 else 28
  else if month = 4 ∨ month = 6 ∨ month = 9 ∨ month = 11 then 30
  else 31

/-- A date at the start of a text, and what follows. -/
def readDate : List Char → Option (List Char × List Char)
  | a :: b :: c :: d :: '-' :: e :: f :: '-' :: g :: h :: rest => do
    let year ← Digits.read? 10 [a, b, c, d]
    let month ← Digits.read? 10 [e, f]
    let day ← Digits.read? 10 [g, h]
    if 1 ≤ month ∧ month ≤ 12 ∧ 1 ≤ day ∧ day ≤ daysIn year month then
      some ([a, b, c, d, '-', e, f, '-', g, h], rest)
    else none
  | _ => none

/-- A fraction of a second in normal form, given its digits. -/
def fraction (digits : List Char) : List Char :=
  let kept := ((digits.take 9).reverse.dropWhile (· == '0')).reverse
  if kept.isEmpty then [] else '.' :: kept

/-- A time of day at the start of a text, and what follows. -/
def readTime (cs : List Char) : Option (List Char × List Char) :=
  match readTwo 23 cs with
  | some (hour, ':' :: rest) => do
    let (minute, rest) ← readTwo 59 rest
    match rest with
    | ':' :: rest =>
      let (second, rest) ← readTwo 60 rest
      let start := hour ++ ':' :: minute ++ ':' :: second
      match rest with
      | '.' :: rest =>
        let digits := rest.takeWhile Char.isDigit
        if digits.isEmpty then none
        else some (start ++ fraction digits, rest.dropWhile Char.isDigit)
      | rest => some (start, rest)
    | rest => some (hour ++ ':' :: minute ++ [':', '0', '0'], rest)
  | _ => none

/-- An offset, which is all that is left of a text. -/
def readOffset : List Char → Option (List Char)
  | [] => some []
  | ['Z'] => some ['Z']
  | ['z'] => some ['Z']
  | sign :: rest =>
    match readTwo 23 rest with
    | some (hour, ':' :: rest) =>
      match readTwo 59 rest with
      | some (minute, []) =>
        let digits := hour ++ ':' :: minute
        if sign = '+' ∨ (sign = '-' ∧ digits = ['0', '0', ':', '0', '0']) then
          some ('+' :: digits)
        else if sign = '-' then some ('-' :: digits)
        else none
      | _ => none
    | _ => none

/-- The normal form of a date, a time or both. -/
def moment? (cs : List Char) : Option (List Char) :=
  match readDate cs with
  | some (date, []) => some date
  | some (date, mark :: rest) => do
    if mark ≠ 'T' ∧ mark ≠ 't' ∧ mark ≠ ' ' then none
    let (time, rest) ← readTime rest
    let offset ← readOffset rest
    return date ++ 'T' :: time ++ offset
  | none =>
    match readTime cs with
    | some (time, []) => some time
    | _ => none

end Modelsmith.Toml
