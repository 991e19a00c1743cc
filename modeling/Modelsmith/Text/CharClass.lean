/-
# Classes of characters

The character classes that word splitting, trimming and quoting look at.  Each is a Unicode
property: ASCII is decided directly and everything else by a table of runs.
-/
import Modelsmith.Text.Table.Alphabetic
import Modelsmith.Text.Table.Numeric
import Modelsmith.Text.Table.LetterCase
import Modelsmith.Text.Table.CaseIgnorable
import Modelsmith.Text.Table.Unprintable

namespace Modelsmith.Text

/-- A class that holds the ASCII characters satisfying `ascii` and the other characters of a
table. -/
def inClass (ascii : Char → Bool) (table : List Run) (c : Char) : Bool :=
  if c.toNat < 0x80 then ascii c else inTable table c.toNat

/-- Letters and other alphabetic characters. -/
def isAlphabetic : Char → Bool := inClass Char.isAlpha Table.alphabetic

/-- Digits and other number characters. -/
def isNumeric : Char → Bool := inClass Char.isDigit Table.numeric

/-- Characters that belong to a word. -/
def isAlphanumeric (c : Char) : Bool := isAlphabetic c || isNumeric c

/-- Small letters. -/
def isLowercase : Char → Bool := inClass Char.isLower Table.lowercase

/-- Capital letters. -/
def isUppercase : Char → Bool := inClass Char.isUpper Table.uppercase

/-- Characters that have case: small, capital or titlecase letters. -/
def isCased (c : Char) : Bool :=
  isLowercase c || isUppercase c || inTable Table.titlecase c.toNat

/-- Characters that are passed over when the case around a letter is looked at. -/
def isCaseIgnorable : Char → Bool :=
  inClass (fun c => ['\x27', '.', ':', '^', '\x60'].contains c) Table.caseIgnorable

/-- Blank characters: the Unicode property White_Space. -/
def isBlank (c : Char) : Bool :=
  [' ', '\t', '\n', '\x0b', '\x0c', '\r', '\u0085', '\u00a0', '\u1680', '\u2028', '\u2029',
    '\u202f', '\u205f', '\u3000'].contains c || (0x2000 ≤ c.toNat && c.toNat ≤ 0x200a)

/-- Characters that a quoted text shows by their number. -/
def isUnprintable : Char → Bool :=
  inClass (fun c => c.toNat < 0x20 || c.toNat == 0x7f) Table.unprintable

end Modelsmith.Text
