/-
# Placing values in tables

Headers and keys name tables by paths.  Tables on the way come to be as they are needed, and
a path to a list of tables goes on in its last table.  What a path may pass depends on how
the tables came to be: a dotted key passes only tables that no header opened, and nothing
passes a complete one.
-/
import Modelsmith.Toml.Basic

namespace Modelsmith.Toml

/-- The named values of a table. -/
abbrev Fields := List (String × Toml)

/-- What a path is written for. -/
inductive PathUse where
  /-- A header. -/
  | header
  /-- A dotted key. -/
  | key
deriving DecidableEq, Repr

namespace PathUse

/-- The origin of tables that come to be on the way. -/
def origin : PathUse → TableOrigin
  | header => .implied
  | key => .dotted

/-- Whether a path passes a table. -/
def passes : PathUse → TableOrigin → Bool
  | header, o => o != .closed
  | key, o => o == .implied || o == .dotted

end PathUse

/-- Change the value of a name, given the old one if there is one.  A new name goes to the
end. -/
def alter (name : String) (f : Option Toml → Option Toml) : Fields → Option Fields
  | [] => (f none).map fun value => [(name, value)]
  | (other, old) :: rest =>
    if other = name then (f (some old)).map fun value => (name, value) :: rest
    else (alter name f rest).map fun fields => (other, old) :: fields

/-- Change the last value of a list. -/
def alterLast (f : Toml → Option Toml) : List Toml → Option (List Toml)
  | [] => none
  | [last] => (f last).map fun value => [value]
  | item :: rest => (alterLast f rest).map fun items => item :: items

/-- Change the table that a path leads to, given how it came to be and its fields. -/
def reach (use : PathUse) (change : TableOrigin → Fields → Option Fields) :
    List String → TableOrigin → Fields → Option Fields
  | [], origin, fields => change origin fields
  | name :: path, _, fields =>
    fields |> alter name fun
      | none => (reach use change path use.origin []).map (.table use.origin)
      | some (.table origin inner) =>
        if use.passes origin then (reach use change path origin inner).map (.table origin)
        else none
      | some (.array true items) =>
        (items |> alterLast fun
          | .table origin inner => (reach use change path origin inner).map (.table origin)
          | _ => none).map (.array true)
      | some _ => none

/-- Add a field with a new name. -/
def addField (name : String) (value : Toml) : Fields → Option Fields :=
  alter name fun
    | none => some value
    | some _ => none

/-- Add a value under a dotted key to a table.  The table that takes the value was made by
dotted keys, unless the key has one part. -/
def addPair (key : List String) (value : Toml) (origin : TableOrigin) (fields : Fields) :
    Option Fields :=
  match key.getLast? with
  | none => none
  | some name =>
    let path := key.dropLast
    reach .key
      (fun o inner => if path.isEmpty || o == .dotted then addField name value inner else none)
      path origin fields

/-- Open the table of a header.  It may stand on the way to an earlier header, and nothing
else may have its name. -/
def openTable (path : List String) (fields : Fields) : Option Fields := do
  let name ← path.getLast?
  reach .header (fun _ inner => inner |> alter name fun
    | none => some (.table .opened [])
    | some (.table .implied fields) => some (.table .opened fields)
    | some _ => none) path.dropLast .opened fields

/-- Open the next table of a list of tables. -/
def openItem (path : List String) (fields : Fields) : Option Fields := do
  let name ← path.getLast?
  reach .header (fun _ inner => inner |> alter name fun
    | none => some (.array true [.table .opened []])
    | some (.array true items) => some (.array true (items ++ [.table .opened []]))
    | some _ => none) path.dropLast .opened fields

end Modelsmith.Toml
