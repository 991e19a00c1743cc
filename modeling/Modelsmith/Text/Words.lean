/-
# Words of an identifier

A text falls into words: maximal stretches of alphanumeric characters, cut again where a
capital letter follows a small letter or a number (`foo|Bar`) and before the last capital of
an acronym (`HTTP|Server`).
-/
import Modelsmith.Text.CharClass

namespace Modelsmith.Text

/-- Put `c` in front of the first group of a list of groups, opening one if there is none. -/
def consHead {α : Type} (c : α) : List (List α) → List (List α)
  | [] => [[c]]
  | group :: groups => (c :: group) :: groups

/-- Whether a new word starts at `b`, which follows `a` and is followed by `after`. -/
def startsWord (a b : Char) (after : List Char) : Bool :=
  isUppercase b &&
    (isLowercase a || isNumeric a || (isUppercase a && after.head?.any isLowercase))

/-- Whether the word that holds `a` goes on with the characters that follow `a`. -/
def continuesWord (a : Char) : List Char → Bool
  | [] => false
  | b :: after => isAlphanumeric b && !startsWord a b after

/-- The words of a text, in order. -/
def words : List Char → List (List Char)
  | [] => []
  | c :: rest =>
    if !isAlphanumeric c then words rest
    else if continuesWord c rest then consHead c (words rest)
    else [c] :: words rest

end Modelsmith.Text
