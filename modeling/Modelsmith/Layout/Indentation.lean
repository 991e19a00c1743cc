/-
# Indentation
-/
import Modelsmith.Text.Lines

namespace Modelsmith

/-- The character that lines are indented with. -/
inductive IndentStyle where
  | spaces
  | tabs
deriving DecidableEq, Repr

/-- The style with the given name. -/
def IndentStyle.ofName? : String → Option IndentStyle
  | "spaces" => some spaces
  | "tabs" => some tabs
  | _ => none

/-- How far one level of generated code is indented. -/
structure Indentation where
  /-- The character. -/
  style : IndentStyle
  /-- How many of them make one level. -/
  size : Nat
deriving DecidableEq, Repr

namespace Indentation

/-- One level of `n` spaces. -/
def spaces (n : Nat) : Indentation := ⟨.spaces, n⟩

/-- The indentation where nothing else is said. -/
def standard : Indentation := spaces 2

/-- The character of one step. -/
def mark (i : Indentation) : Char :=
  match i.style with
  | .spaces => ' '
  | .tabs => '\t'

/-- The text in front of a line at `levels`. -/
def pad (i : Indentation) (levels : Nat) : String :=
  String.ofList (List.replicate (levels * i.size) i.mark)

/-- The text of one level. -/
def unit (i : Indentation) : String := i.pad 1

/-- Indent every line that is not blank; blank lines stay as they are. -/
def apply (i : Indentation) (content : String) (levels : Nat) : String :=
  Text.joinWith "\n" <| (Text.pieces content).map fun line =>
    if Text.isBlankText line then line else i.pad levels ++ line

end Indentation

end Modelsmith
