/-
# Code as a list of layout steps

Generated code is described by steps that write lines and move the level of indentation.
Rendering the steps from a level gives the text.
-/
import Modelsmith.Layout.Indentation

namespace Modelsmith

/-- One step of laying out code. -/
inductive Step where
  /-- A line at the current level. -/
  | line (text : String)
  /-- Every line of a text at the current level; blank lines become empty. -/
  | lines (text : String)
  /-- An empty line. -/
  | blank
  /-- A text as it is. -/
  | raw (text : String)
  /-- A comment: every line of a text after a mark at the current level. -/
  | doc (mark text : String)
  /-- One level deeper. -/
  | indent
  /-- One level back, if there is one. -/
  | dedent
deriving DecidableEq, Repr

namespace Step

/-- A line of a longer text at a level. -/
def nestedLine (i : Indentation) (level : Nat) (line : String) : String :=
  if Text.isBlankText line then "\n" else i.pad level ++ line ++ "\n"

/-- A line of a comment at a level; an empty line is the bare mark. -/
def docLine (i : Indentation) (level : Nat) (mark line : String) : String :=
  i.pad level ++ mark ++ (if line.isEmpty then "" else " " ++ line) ++ "\n"

/-- What a step writes at a level. -/
def text (i : Indentation) (level : Nat) : Step → String
  | line s => i.pad level ++ s ++ "\n"
  | lines s => String.join ((Text.lines s).map (nestedLine i level))
  | blank => "\n"
  | raw s => s
  | doc mark s => String.join ((Text.lines s).map (docLine i level mark))
  | indent => ""
  | dedent => ""

/-- The level after a step. -/
def next (level : Nat) : Step → Nat
  | indent => level + 1
  | dedent => level - 1
  | _ => level

end Step

namespace Code

/-- What each step of a list writes, from a level on. -/
def texts (i : Indentation) : Nat → List Step → List String
  | _, [] => []
  | level, s :: rest => s.text i level :: texts i (s.next level) rest

/-- The text of a list of steps from a level on. -/
def render (i : Indentation) (level : Nat) (steps : List Step) : String :=
  String.join (texts i level steps)

/-- The text of a list of steps without the line feeds at its end. -/
def renderTrimmed (i : Indentation) (level : Nat) (steps : List Step) : String :=
  Text.trimLineFeeds (render i level steps)

end Code

end Modelsmith
