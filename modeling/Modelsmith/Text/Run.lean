/-
# Runs of character numbers

Properties of characters are given by tables of runs: arithmetic progressions of code points.
A mapping of characters is given by shifts: runs whose members all move by one distance.
-/

namespace Modelsmith.Text

/-- An arithmetic progression of code points. -/
structure Run where
  /-- The smallest member. -/
  first : Nat
  /-- The largest member. -/
  last : Nat
  /-- The distance between neighbours. -/
  step : Nat
deriving DecidableEq, Repr

/-- Whether `n` is a member of the run. -/
def Run.contains (r : Run) (n : Nat) : Bool :=
  r.first ≤ n && n ≤ r.last && (n - r.first) % r.step == 0

/-- Whether `n` is a member of some run of a table. -/
def inTable (table : List Run) (n : Nat) : Bool :=
  table.any (·.contains n)

/-- A run whose members all move by the same distance, so that the smallest one becomes
`image`. -/
structure Shift where
  /-- The characters that move. -/
  run : Run
  /-- What the smallest of them becomes. -/
  image : Nat
deriving DecidableEq, Repr

/-- What a table of shifts makes of `n`: the image under the first run that holds it. -/
def shifted? (table : List Shift) (n : Nat) : Option Nat :=
  (table.find? (·.run.contains n)).map fun s => s.image + (n - s.run.first)

end Modelsmith.Text
