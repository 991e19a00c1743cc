/-
# Configurations

A configuration chooses the indentation and the spelling of names.  Every other name at its
top belongs to a section, which is read when a target asks for it.
-/
import Modelsmith.Config.Field
import Modelsmith.Config.Section
import Modelsmith.Failure
import Modelsmith.Layout.Indentation
import Modelsmith.Naming.Convention
import Modelsmith.Toml.Reader

namespace Modelsmith

/-- What a configuration chooses. -/
structure Config where
  /-- The indentation, if it is chosen. -/
  indentation : Option Indentation := none
  /-- The spellings that are chosen. -/
  naming : Naming.Overrides := {}
  /-- The sections by name. -/
  sections : List (String × Toml) := []
deriving Repr

namespace Config

/-- An indentation; what is not given is as usual. -/
def indentation? (value : Toml) : Option Indentation :=
  match value.settingFields? ["style", "size"] with
  | some [style, size] => do
    return {
      style := ← readField Indentation.standard.style (Toml.choice? IndentStyle.ofName?) style
      size := ← readField Indentation.standard.size Toml.size? size }
  | _ => none

/-- The case style with the given name, if it joins words without dashes. -/
def style? (name : String) : Option Text.CaseStyle :=
  (Text.CaseStyle.ofName? name).filter (· != .kebab)

/-- The spellings of names; what is not given stays as the target has it. -/
def naming? (value : Toml) : Option Naming.Overrides :=
  let read (field : Option Toml) : Option (Option Text.CaseStyle) :=
    readField none (fun v => (Toml.choice? style? v).map some) field
  match value.settingFields? ["type_name", "property"] with
  | some [model, property] => do return { model := ← read model, property := ← read property }
  | _ => none

/-- Whether a name at the top of a configuration is not that of a section. -/
def isSetting (name : String) : Bool := name == "indentation" || name == "naming"

/-- The configuration with the given fields. -/
def ofFields (fields : Toml.Fields) : Except Fault Config := do
  let some sections := Toml.keptFields? (fields.filter fun field => !isSetting field.1)
    | throw ⟨"a section has a number that is too large, or a date that is not one"⟩
  let some indentation :=
      readField none (fun v => (indentation? v).map some) (fields.lookup "indentation")
    | throw ⟨"the indentation is not one"⟩
  let some naming := readField {} naming? (fields.lookup "naming")
    | throw ⟨"the spellings of names are not known"⟩
  return { indentation, naming, sections }

/-- The configuration that a text writes. -/
def read (text : String) : Except Failure Config :=
  match Toml.read? text with
  | some fields => (ofFields fields).mapError .configuration
  | none => .error (.configuration ⟨"the text is not TOML"⟩)

/-- Put a name in front of the first one that is greater. -/
def insertName (name : String) : List String → List String
  | [] => [name]
  | other :: rest => if name < other then name :: other :: rest else other :: insertName name rest

/-- The names of the sections in order. -/
def sectionNames (c : Config) : List String :=
  c.sections.foldl (fun names field => insertName field.1 names) []

/-- What a section says, as `read` understands it; a section that is not there says nothing
beyond `missing`. -/
def section? {α : Type} (c : Config) (name : String) (missing : α) (read : Toml → Option α) :
    Except Failure α :=
  match readField missing read (c.sections.lookup name) with
  | some a => pure a
  | none => throw (.configuration ⟨"the section " ++ name ++ " is not understood"⟩)

end Config

end Modelsmith
