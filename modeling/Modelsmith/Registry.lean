/-
# Registries

Lists of named values in the order in which the names first came.
-/

namespace Modelsmith.Registry

variable {α : Type}

/-- Change the value of a name, given the old one if there is one.  A new name goes to the
end. -/
def update (name : String) (f : Option α → α) : List (String × α) → List (String × α)
  | [] => [(name, f none)]
  | (other, old) :: rest =>
    if other = name then (name, f (some old)) :: rest else (other, old) :: update name f rest

/-- Set the value of a name. -/
def put (name : String) (value : α) (entries : List (String × α)) : List (String × α) :=
  update name (fun _ => value) entries

end Modelsmith.Registry
