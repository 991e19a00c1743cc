/-
# Values of sections

A section is kept as a value until a target asks for it.  The whole numbers in it have at
most 64 bits, and a date or a time may also be written as a table with one field of a
reserved name.
-/
import Modelsmith.Toml.Moment
import Modelsmith.Toml.Placement

namespace Modelsmith.Toml

/-- The reserved name of the field that makes a table a date or a time. -/
def momentMark : String := "$__toml_private_datetime"

/-- Whether a table stands for a date or a time: the reserved name comes first among the
names of its fields. -/
def isMarked (fields : Fields) : Bool :=
  fields.any (fun field => field.1 == momentMark) &&
    fields.all fun field => !(field.1 < momentMark)

/-- The date or the time that a marked table stands for.  It has no other field. -/
def marked? : Fields → Option Toml
  | [(_, .string s)] => (moment? s.toList).map fun text => .moment (String.ofList text)
  | _ => none

/-- Whether a whole number has at most 64 bits with its sign. -/
def isNarrow (n : Int) : Bool := -(twoTo 63 : Int) ≤ n && n < (twoTo 63 : Int)

mutual

/-- A value as a section keeps it. -/
def kept? : Toml → Option Toml
  | .integer n => if isNarrow n then some (.integer n) else none
  | .badNumber _ => none
  | .array growing items => (keptItems? items).map (.array growing)
  | .table origin fields =>
    if isMarked fields then marked? fields else (keptFields? fields).map (.table origin)
  | value => some value

/-- A list of values as a section keeps it. -/
def keptItems? : List Toml → Option (List Toml)
  | [] => some []
  | item :: rest => do return (← kept? item) :: (← keptItems? rest)

/-- Named values as a section keeps them. -/
def keptFields? : List (String × Toml) → Option (List (String × Toml))
  | [] => some []
  | (name, value) :: rest => do return (name, ← kept? value) :: (← keptFields? rest)

end

end Modelsmith.Toml
