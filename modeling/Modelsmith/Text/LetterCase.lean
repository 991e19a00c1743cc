/-
# Lower and upper case

Case mapping of single characters, which may give several characters, and of whole words.
A capital sigma at the end of a word becomes the final small sigma; nothing else in the
mapping looks at the neighbours.
-/
import Modelsmith.Text.CharClass
import Modelsmith.Text.Table.CaseMap

namespace Modelsmith.Text

/-- Map a character by ASCII rule, long form or shift, in this order. -/
def mapCase (ascii : Char → Char) (long : List (Nat × List Nat)) (shifts : List Shift)
    (c : Char) : List Char :=
  if c.toNat < 0x80 then [ascii c]
  else
    match long.lookup c.toNat with
    | some codes => codes.map Char.ofNat
    | none => [((shifted? shifts c.toNat).map Char.ofNat).getD c]

/-- The lower-case form of a character, whatever stands around it. -/
def lower : Char → List Char := mapCase Char.toLower Table.lowerLong Table.lowerShifts

/-- The upper-case form of a character. -/
def upper : Char → List Char := mapCase Char.toUpper Table.upperLong Table.upperShifts

/-- Whether the first character that is not case-ignorable exists and has case. -/
def nextIsCased (cs : List Char) : Bool :=
  (cs.dropWhile isCaseIgnorable).head?.any isCased

/-- The lower-case form of a capital sigma between the characters `before` (nearest first)
and `after`: the final form at the end of a word that has a letter before it. -/
def lowerSigma (before after : List Char) : Char :=
  if nextIsCased before && !nextIsCased after then 'ς' else 'σ'

/-- Lower case of the characters that follow `before` (nearest first). -/
def lowerAfter (before : List Char) : List Char → List Char
  | [] => []
  | c :: rest =>
    (if c = 'Σ' then [lowerSigma before rest] else lower c) ++ lowerAfter (c :: before) rest

/-- A word in lower case. -/
def lowerWord (word : List Char) : List Char := lowerAfter [] word

/-- A word in upper case. -/
def upperWord (word : List Char) : List Char := word.flatMap upper

/-- A word with its first character in upper case and every other one in lower case. -/
def capitalize : List Char → List Char
  | [] => []
  | c :: rest => upper c ++ rest.flatMap lower

end Modelsmith.Text
