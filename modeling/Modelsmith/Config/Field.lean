/-
# Fields of configurations

A group of fields is written as a table, in which other fields do not matter, or as a list of
values for the fields in their order, of which the last ones may be missing.  Other fields of
a table are read all the same, so that their numbers need values.
-/
import Modelsmith.Toml.Basic

namespace Modelsmith.Toml

/-- The values of a group of fields at the top of a configuration.  A list may go on beyond
the group, and nobody reads how; a date or a time is a group without fields. -/
def settingFields? (names : List String) : Toml → Option (List (Option Toml))
  | .table _ fields =>
    if fieldsSound fields then some (names.map fun name => fields.lookup name) else none
  | .array _ items => some ((List.range names.length).map fun i => items[i]?)
  | .moment _ => some (names.map fun _ => none)
  | _ => none

/-- The values of a group of fields in a section.  A list may not go on beyond the group. -/
def sectionFields? (names : List String) : Toml → Option (List (Option Toml))
  | .array growing items =>
    if items.length ≤ names.length then settingFields? names (.array growing items) else none
  | .table origin fields => settingFields? names (.table origin fields)
  | _ => none

/-- One of several named choices, written as a text or as the only field of a table, a field
without content. -/
def choice? {α : Type} (ofName? : String → Option α) : Toml → Option α
  | .string name => ofName? name
  | .table _ [(name, value)] => if value.isHollow then ofName? name else none
  | _ => none

/-- A text; a date or a time counts as one. -/
def text? : Toml → Option String
  | .string s => some s
  | .moment s => some s
  | _ => none

/-- A natural number of at most 64 bits. -/
def size? : Toml → Option Nat
  | .integer n => if 0 ≤ n ∧ n < (twoTo 64 : Int) then some n.toNat else none
  | _ => none

end Modelsmith.Toml

namespace Modelsmith

/-- Read a field, which has a value of its own where it is not given. -/
def readField {α : Type} (missing : α) (read : Toml → Option α) : Option Toml → Option α
  | none => some missing
  | some value => read value

end Modelsmith
