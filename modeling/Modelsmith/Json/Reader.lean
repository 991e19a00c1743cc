/-
# Reading JSON text

A reader for one value.  A number without fraction and exponent that fits 64 bits, signed or
unsigned, is a whole number; every other number, and zero with a minus sign, is a number of
double precision.
-/
import Modelsmith.Json.Basic
import Modelsmith.Number.Digits

namespace Modelsmith.Json

/-- The text without the blanks at its start. -/
def skipBlanks (cs : List Char) : List Char :=
  cs.dropWhile fun c => c == ' ' || c == '\n' || c == '\t' || c == '\r'

/-- The number that four digits in base sixteen write. -/
def hexFour? (a b c d : Char) : Option Nat := Digits.read? 16 [a, b, c, d]

/-- The character that a backslash and a letter write. -/
def unescape? : Char → Option Char
  | '"' => some '"'
  | '\\' => some '\\'
  | '/' => some '/'
  | 'b' => some '\x08'
  | 'f' => some '\x0c'
  | 'n' => some '\n'
  | 'r' => some '\r'
  | 't' => some '\t'
  | _ => none

/-- The characters of a string up to its closing quote, and the text after it. -/
def readString : List Char → Option (List Char × List Char)
  | [] => none
  | '"' :: rest => some ([], rest)
  | '\\' :: 'u' :: a :: b :: c :: d :: rest => do
    let n ← hexFour? a b c d
    if 0xd800 ≤ n ∧ n < 0xdc00 then
      match rest with
      | '\\' :: 'u' :: a' :: b' :: c' :: d' :: rest' =>
        let m ← hexFour? a' b' c' d'
        if 0xdc00 ≤ m ∧ m < 0xe000 then
          let (cs, after) ← readString rest'
          return (Char.ofNat (0x10000 + (n - 0xd800) * 0x400 + (m - 0xdc00)) :: cs, after)
        else none
      | _ => none
    else if 0xdc00 ≤ n ∧ n < 0xe000 then none
    else
      let (cs, after) ← readString rest
      return (Char.ofNat n :: cs, after)
  | '\\' :: e :: rest => do
    let c ← unescape? e
    let (cs, after) ← readString rest
    return (c :: cs, after)
  | c :: rest =>
    if c.toNat < 0x20 then none
    else do
      let (cs, after) ← readString rest
      return (c :: cs, after)

/-- The largest whole number of 64 bits. -/
def maxWhole : Nat := twoTo 64 - 1

/-- The number that digits write, as far as it fits 64 bits, and the digits from the first
one that does not fit. -/
def readDigits : Nat → List Char → Nat × List Char
  | n, [] => (n, [])
  | n, c :: rest =>
    let m := n * 10 + (c.toNat - '0'.toNat)
    if m ≤ maxWhole then readDigits m rest else (n, c :: rest)

/-- An exponent, after its mark: its value and the text after it. -/
def readExponent (cs : List Char) : Option (Int × List Char) :=
  let (negative, cs) :=
    match cs with
    | '-' :: rest => (true, rest)
    | '+' :: rest => (false, rest)
    | _ => (false, cs)
  let digits := cs.takeWhile Char.isDigit
  if digits.isEmpty then none
  else
    let n : Nat := digits.foldl (fun n c => n * 10 + (c.toNat - '0'.toNat)) 0
    some (if negative then -(n : Int) else (n : Int), cs.dropWhile Char.isDigit)

/-- A number, after its sign, and the text after it.  Digits beyond 64 bits only count as
powers of ten. -/
def readNumber (negative : Bool) (cs : List Char) : Option (Json × List Char) := do
  let whole := cs.takeWhile Char.isDigit
  let rest := cs.dropWhile Char.isDigit
  if whole.isEmpty || (whole.length > 1 && whole.head? == some '0') then none
  let (n, dropped) := readDigits 0 whole
  let signed (x : Binary64) : Json := .float (if negative then x.neg else x)
  let (n, power, fraction, rest) :=
    match rest with
    | '.' :: tail =>
      let part := tail.takeWhile Char.isDigit
      let (m, left) := readDigits n part
      (m, (dropped.length : Int) - ((part.length - left.length : Nat) : Int), some part,
        tail.dropWhile Char.isDigit)
    | _ => (n, (dropped.length : Int), none, rest)
  if fraction.any List.isEmpty then none
  let (exponent, rest) ←
    match rest with
    | 'e' :: tail => (readExponent tail).map fun (e, after) => (some e, after)
    | 'E' :: tail => (readExponent tail).map fun (e, after) => (some e, after)
    | _ => some (none, rest)
  if fraction.isNone && exponent.isNone && dropped.isEmpty &&
      !(negative && (n = 0 || n > twoTo 63)) then
    return (.int (if negative then -(n : Int) else n), rest)
  else
    let x ← Binary64.ofDecimal? n (power + exponent.getD 0)
    return (signed x, rest)

/-- The text after a given word at its start. -/
def readWord (word : String) (cs : List Char) : Option (List Char) :=
  if word.toList.isPrefixOf cs then some (cs.drop word.length) else none

mutual

/-- A value at the start of the text and the text after it; `fuel` bounds the nesting and the
number of items. -/
def readValue : Nat → List Char → Option (Json × List Char)
  | 0, _ => none
  | fuel + 1, cs =>
    match skipBlanks cs with
    | '"' :: rest => (readString rest).map fun (s, after) => (.string (String.ofList s), after)
    | '[' :: rest =>
      match skipBlanks rest with
      | ']' :: after => some (.array [], after)
      | rest => (readItems fuel rest).map fun (items, after) => (.array items, after)
    | '\x7b' :: rest =>
      match skipBlanks rest with
      | '\x7d' :: after => some (.object [], after)
      | rest => (readFields fuel rest).map fun (fields, after) => (ofFields fields, after)
    | '-' :: rest => readNumber true rest
    | 'n' :: rest => (readWord "ull" rest).map fun after => (.null, after)
    | 't' :: rest => (readWord "rue" rest).map fun after => (.bool true, after)
    | 'f' :: rest => (readWord "alse" rest).map fun after => (.bool false, after)
    | rest => readNumber false rest

/-- The items of an array up to its closing bracket. -/
def readItems : Nat → List Char → Option (List Json × List Char)
  | 0, _ => none
  | fuel + 1, cs => do
    let (item, rest) ← readValue fuel cs
    match skipBlanks rest with
    | ',' :: rest =>
      let (items, after) ← readItems fuel rest
      return (item :: items, after)
    | ']' :: after => return ([item], after)
    | _ => none

/-- The fields of an object up to its closing brace. -/
def readFields : Nat → List Char → Option (List (String × Json) × List Char)
  | 0, _ => none
  | fuel + 1, cs =>
    match skipBlanks cs with
    | '"' :: rest => do
      let (name, rest) ← readString rest
      match skipBlanks rest with
      | ':' :: rest =>
        let (value, rest) ← readValue fuel rest
        match skipBlanks rest with
        | ',' :: rest =>
          let (fields, after) ← readFields fuel rest
          return ((String.ofList name, value) :: fields, after)
        | '\x7d' :: after => return ([(String.ofList name, value)], after)
        | _ => none
      | _ => none
    | _ => none

end

/-- The value that a text writes, if it writes exactly one. -/
def read? (s : String) : Option Json := do
  let cs := s.toList
  let (value, rest) ← readValue (cs.length + 1) cs
  if (skipBlanks rest).isEmpty then some value else none

end Modelsmith.Json
