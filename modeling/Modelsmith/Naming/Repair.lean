/-
# Repairing identifiers

The single repairs that turn any text into one that can be an identifier: special characters
become words, a digit at the start gets a word in front, an empty text gets a stand-in and a
reserved word is marked.
-/
import Modelsmith.Text.Special

namespace Modelsmith.Naming

open Modelsmith.Text

/-- Put `number_` in front of a text that starts with an ASCII digit. -/
def noLeadingDigit (s : String) : String :=
  if s.toList.head?.any Char.isDigit then "number_" ++ s else s

/-- Put `empty` in place of the empty text. -/
def nonEmpty (s : String) : String := if s.isEmpty then "empty" else s

/-- Mark a reserved or taken name. -/
def mark (s : String) : String := "reserved_" ++ s

/-- Mark a text if it is reserved. -/
def markIf (isReserved : String → Bool) (s : String) : String :=
  if isReserved s then mark s else s

/-- Whether two texts agree up to the case of ASCII letters. -/
def sameIgnoringCase : List Char → List Char → Bool
  | [], [] => true
  | c :: s, d :: t => c.toLower == d.toLower && sameIgnoringCase s t
  | _, _ => false

/-- Whether a word is in a list of keywords.  Only keywords of its length are looked at letter
by letter. -/
def isKeyword (keywords : List String) (ignoreCase : Bool) (word : String) : Bool :=
  if ignoreCase then
    keywords.any fun keyword =>
      keyword.length == word.length && sameIgnoringCase keyword.toList word.toList
  else keywords.contains word

/-- Replace the special characters by words; blanks, dashes and underscores stay, since they
separate words. -/
def sanitize (s : String) : String := replaceSpecial [' ', '-', '_'] "_" s

end Modelsmith.Naming
