/-
# Quoted text in TOML

A text stands between quotation marks or between apostrophes.  Between quotation marks a
backslash starts an escape.  Three marks in a row enclose a text of several lines, in which
one or two of the marks may also stand next to the closing ones.
-/
import Modelsmith.Number.Digits

namespace Modelsmith.Toml

/-- Whether a character separates words within a line. -/
def isBlank (c : Char) : Bool := c == ' ' || c == '\t'

/-- Whether a character may stand in a text or a comment: a tab, and all but the control
characters of ASCII. -/
def isPlain (c : Char) : Bool := c == '\t' || (' ' ≤ c && c != '\x7f')

/-- Whether a line ends at the start of the text, blanks apart. -/
def endsLine (cs : List Char) : Bool :=
  match cs.dropWhile isBlank with
  | '\n' :: _ => true
  | '\r' :: '\n' :: _ => true
  | _ => false

/-- Put characters in front of what was read of a text. -/
def before (cs : List Char) (read : Option (List Char × List Char)) :
    Option (List Char × List Char) :=
  read.map fun (content, rest) => (cs ++ content, rest)

/-- The written content of a text up to its closing quotation mark, and what follows. -/
def cutBasic : List Char → Option (List Char × List Char)
  | [] => none
  | '"' :: rest => some ([], rest)
  | '\\' :: c :: rest => if isPlain c then before ['\\', c] (cutBasic rest) else none
  | c :: rest => if isPlain c then before [c] (cutBasic rest) else none

/-- The written content of several lines up to three quotation marks, and what follows. -/
def cutBasicLines : List Char → Option (List Char × List Char)
  | [] => none
  | '"' :: '"' :: '"' :: '"' :: '"' :: rest => some (['"', '"'], rest)
  | '"' :: '"' :: '"' :: '"' :: rest => some (['"'], rest)
  | '"' :: '"' :: '"' :: rest => some ([], rest)
  | '\\' :: '\\' :: rest => before ['\\', '\\'] (cutBasicLines rest)
  | '\\' :: '"' :: rest => before ['\\', '"'] (cutBasicLines rest)
  | '\r' :: '\n' :: rest => before ['\r', '\n'] (cutBasicLines rest)
  | c :: rest => if isPlain c || c == '\n' then before [c] (cutBasicLines rest) else none

/-- The content of a text up to its closing apostrophe, and what follows. -/
def cutLiteral : List Char → Option (List Char × List Char)
  | [] => none
  | '\'' :: rest => some ([], rest)
  | c :: rest => if isPlain c then before [c] (cutLiteral rest) else none

/-- The content of several lines up to three apostrophes, and what follows. -/
def cutLiteralLines : List Char → Option (List Char × List Char)
  | [] => none
  | '\'' :: '\'' :: '\'' :: '\'' :: '\'' :: rest => some (['\'', '\''], rest)
  | '\'' :: '\'' :: '\'' :: '\'' :: rest => some (['\''], rest)
  | '\'' :: '\'' :: '\'' :: rest => some ([], rest)
  | '\r' :: '\n' :: rest => before ['\r', '\n'] (cutLiteralLines rest)
  | c :: rest => if isPlain c || c == '\n' then before [c] (cutLiteralLines rest) else none

/-- The character that a backslash and a letter write. -/
def unescape? : Char → Option Char
  | '"' => some '"'
  | '\\' => some '\\'
  | 'b' => some '\x08'
  | 'e' => some '\x1b'
  | 'f' => some '\x0c'
  | 'n' => some '\n'
  | 'r' => some '\r'
  | 't' => some '\t'
  | _ => none

/-- The character whose number is written with digits in base sixteen. -/
def numbered? (digits : List Char) : Option Char := do
  let n ← Digits.read? 16 digits
  if n < 0xd800 ∨ (0xe000 ≤ n ∧ n < 0x110000) then some (Char.ofNat n) else none

/-- The text that written content stands for.  A backslash at the end of a line leaves out
everything up to the next character that is not blank; `skipping` says that this goes on. -/
def decode : Bool → List Char → Option (List Char)
  | _, [] => some []
  | _, '\\' :: 'x' :: a :: b :: rest => do
    return (← numbered? [a, b]) :: (← decode false rest)
  | _, '\\' :: 'u' :: a :: b :: c :: d :: rest => do
    return (← numbered? [a, b, c, d]) :: (← decode false rest)
  | _, '\\' :: 'U' :: a :: b :: c :: d :: e :: f :: g :: h :: rest => do
    return (← numbered? [a, b, c, d, e, f, g, h]) :: (← decode false rest)
  | _, ['\\'] => none
  | _, '\\' :: c :: rest =>
    match unescape? c with
    | some e => (decode false rest).map (e :: ·)
    | none => if endsLine (c :: rest) then decode true rest else none
  | skipping, c :: rest =>
    if skipping && (isBlank c || c == '\n' || c == '\r') then decode true rest
    else (decode false rest).map (c :: ·)

/-- The text without a line break at its start. -/
def dropBreak : List Char → List Char
  | '\n' :: rest => rest
  | '\r' :: '\n' :: rest => rest
  | cs => cs

/-- A text between quotation marks, after the first of them, and what follows. -/
def readBasic (cs : List Char) : Option (String × List Char) := do
  let (content, rest) ← cutBasic cs
  return (String.ofList (← decode false content), rest)

/-- A text of several lines, after its three quotation marks, and what follows. -/
def readBasicLines (cs : List Char) : Option (String × List Char) := do
  let (content, rest) ← cutBasicLines (dropBreak cs)
  return (String.ofList (← decode false content), rest)

/-- A text between apostrophes, after the first of them, and what follows. -/
def readLiteral (cs : List Char) : Option (String × List Char) :=
  (cutLiteral cs).map fun (content, rest) => (String.ofList content, rest)

/-- A text of several lines, after its three apostrophes, and what follows. -/
def readLiteralLines (cs : List Char) : Option (String × List Char) :=
  (cutLiteralLines (dropBreak cs)).map fun (content, rest) => (String.ofList content, rest)

end Modelsmith.Toml
