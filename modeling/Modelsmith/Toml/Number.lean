/-
# Numbers in TOML

Whole numbers are written in base ten, or without a sign in base two, eight or sixteen.
Other numbers have a fraction or an exponent, or are the words `inf` and `nan`.  Single
underscores may stand between digits.

The form of a number is decided before its value.  A word can have the form of a number and
still have no value, because it is too large or because what follows an underscore was only
looked at for being some digit up to `f`.
-/
import Modelsmith.Toml.Basic

namespace Modelsmith.Toml

/-- Whether a number has at most 128 bits, with a sign if it is negative. -/
def fitsWide (n : Int) : Bool := -(twoTo 127 : Int) ≤ n && n < (twoTo 128 : Int)

/-- Split a number into its sign and the rest. -/
def splitSign : List Char → Option Char × List Char
  | '+' :: rest => (some '+', rest)
  | '-' :: rest => (some '-', rest)
  | cs => (none, cs)

/-- A number with the sign that stands before it. -/
def signed (sign : Option Char) (n : Nat) : Int := if sign = some '-' then -(n : Int) else (n : Int)

/-- The characters of a number without the underscores. -/
def dropGaps (cs : List Char) : List Char := cs.filter (· != '_')

/-- Whether every underscore stands between two digits; `after` says whether the text follows
a digit. -/
def gapsFitFrom (digit : Char → Bool) : Bool → List Char → Bool
  | _, [] => true
  | after, '_' :: rest => after && rest.head?.any digit && gapsFitFrom digit false rest
  | _, c :: rest => gapsFitFrom digit (digit c) rest

/-- Whether every underscore of a number without its sign stands between two digits. -/
def gapsFit (digit : Char → Bool) : List Char → Bool := gapsFitFrom digit false

/-- The whole number that digits write, where underscores do not count. -/
def wholeValue? (base : Nat) (sign : Option Char) (cs : List Char) : Option Int :=
  ((Digits.read? base (dropGaps cs)).map (signed sign)).filter fitsWide

/-- Whether the digits of a number in a base other than ten are formed well.  There may be
none. -/
def formsDigits (base : Nat) (cs : List Char) : Bool :=
  cs.all (fun c => Digits.isDigit base c || c == '_') && gapsFit (Digits.isDigit base) cs

/-- Whether what follows the sign of a whole number in base ten is formed well: it starts with
zero only if it is zero, and after the first underscore it may go on in any way that does not
look like a fraction or an exponent and has no space. -/
def formsWhole (cs : List Char) : Bool :=
  cs == ['0'] ||
    !cs.isEmpty && cs.head? != some '0' && (cs.dropWhile Char.isDigit).head?.all (· == '_') &&
      !(cs.contains ' ') && gapsFit (Digits.isDigit 16) cs

/-- Digits at the start of a text, at least one, without the underscores between them, and
what follows. -/
def readDigits (cs : List Char) : Option (List Char × List Char) :=
  let inside (c : Char) : Bool := c.isDigit || c == '_'
  let digits := dropGaps (cs.takeWhile inside)
  if digits.isEmpty then none else some (digits, cs.dropWhile inside)

/-- The digits of a fraction, if there is one, and what follows. -/
def readFraction : List Char → Option (List Char × List Char)
  | '.' :: rest => readDigits rest
  | cs => some ([], cs)

/-- An exponent, which is zero if it is not written, and what follows. -/
def readExponent : List Char → Option (Int × List Char)
  | [] => some (0, [])
  | mark :: rest =>
    if mark = 'e' ∨ mark = 'E' then do
      let (sign, rest) := splitSign rest
      let (digits, rest) ← readDigits rest
      return (signed sign (← Digits.read? 10 digits), rest)
    else some (0, mark :: rest)

/-- The digits of a number with a fraction or an exponent, and the power of ten that they are
to be multiplied with, given what follows the sign. -/
def scaled? (cs : List Char) : Option (List Char × Int) := do
  let (whole, rest) ← readDigits cs
  let (fraction, rest) ← readFraction rest
  let (power, rest) ← readExponent rest
  if rest.isEmpty && (whole.length == 1 || cs.head? != some '0') then
    some (whole ++ fraction, power - fraction.length)
  else none

/-- The first number that is too large for double precision, halfway beyond the largest. -/
def floatLimit : Nat := twoTo 1024 - twoTo 970

/-- Whether digits times a power of ten stay below the limit of double precision. -/
def isFinite (ds : List Char) (power : Int) : Bool :=
  let ds := ds.dropWhile (· == '0')
  let top := (ds.length : Int) + power
  if ds.isEmpty || top ≤ 308 then true
  else if 309 < top then false
  else
    match Digits.read? 10 ds with
    | some n => n * tenTo power.toNat < floatLimit * tenTo (-power).toNat
    | none => false

/-- Whether a character belongs to a fraction or an exponent. -/
def endsWhole (c : Char) : Bool := c == '.' || c == 'e' || c == 'E'

/-- The number that a word writes, if it has the form of one. -/
def number? (word : List Char) : Option Toml :=
  let text := String.ofList word
  let whole (value : Option Int) : Toml := (value.map Toml.integer).getD (.badNumber text)
  let based (base : Nat) (cs : List Char) : Option Toml :=
    if formsDigits base cs then some (whole (wholeValue? base none cs)) else none
  match word with
  | '0' :: 'x' :: rest => based 16 rest
  | '0' :: 'o' :: rest => based 8 rest
  | '0' :: 'b' :: rest => based 2 rest
  | _ =>
    let (sign, cs) := splitSign word
    if cs = ['i', 'n', 'f'] ∨ cs = ['n', 'a', 'n'] then some (.float text)
    else if cs.any endsWhole then
      if gapsFit Char.isDigit cs then
        (scaled? cs).map fun (digits, power) =>
          if isFinite digits power then .float text else .badNumber text
      else none
    else if formsWhole cs then some (whole (wholeValue? 10 sign cs))
    else none

end Modelsmith.Toml
