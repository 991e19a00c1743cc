/-
# Presets

A preset is a named set of hooks.  The hooks of one name in a chain of presets run one after
another: each gets the text of those before it, and the first one gets the empty text.
-/
import Modelsmith.Registry
import Modelsmith.Render.Script
import Modelsmith.Text.Quoted

namespace Modelsmith

namespace HookName

/-- The whole text of a part. -/
def whole : String := "self"
/-- Text that follows the body. -/
def additional : String := "additional_content"
/-- A property. -/
def property : String := "property"
/-- An entry of an enumeration or a member of a union. -/
def item : String := "item"
/-- A field. -/
def field : String := "field"
/-- The attribute lines of a type. -/
def typeAttributes : String := "struct_macro"
/-- The attribute lines of a field. -/
def fieldAttributes : String := "field_macro"
/-- The attribute lines of an item. -/
def itemAttributes : String := "item_macro"
/-- The constructor of a class. -/
def creation : String := "ctor"
/-- The accessor that reads a property. -/
def getter : String := "getter"
/-- The accessor that writes a property. -/
def setter : String := "setter"

end HookName

/-- A named set of hooks, grouped by the form that they render. -/
structure Preset where
  /-- The name. -/
  name : String
  /-- The hooks of every form, in the order in which they were registered. -/
  hooks : List (String × List (String × Hook)) := []

namespace Preset

/-- Register a hook; an earlier one of the same form and name gives way. -/
def register (p : Preset) (form hook : String) (f : Hook) : Preset :=
  { p with hooks := Registry.update form (fun old => Registry.put hook f (old.getD [])) p.hooks }

/-- The hook of a form and name. -/
def find? (p : Preset) (form hook : String) : Option Hook :=
  (p.hooks.lookup form).bind (·.lookup hook)

/-- The names of all hooks, with their forms. -/
def hookNames (p : Preset) : List String :=
  p.hooks.flatMap fun (form, hooks) => hooks.map fun (hook, _) => form ++ "." ++ hook

/-- A text that shows the name and the hooks. -/
def describe (p : Preset) : String :=
  "Preset \x7b name: " ++ Text.quoted p.name ++ ", hooks: [" ++
    Text.joinWith ", " (p.hookNames.map Text.quoted) ++ "] \x7d"

end Preset

/-- A preset with the options that its hooks get. -/
structure Configured where
  /-- The preset. -/
  preset : Preset
  /-- The options. -/
  options : Json := .null

/-- The script of the hook of a name, on the text of the presets before.  Without such a hook the
text stays. -/
def Configured.script (entry : Configured) (scene : Scene) (hook : String) (item : Item)
    (content : String) : Script String :=
  match entry.preset.find? scene.form hook with
  | none => pure content
  | some f => f scene ⟨content, entry.options, item⟩

/-- Presets in the order in which they run. -/
abbrev Chain := List Configured

namespace Chain

/-- The script of the hooks of one name, each on the text of those before it. -/
def script (chain : Chain) (scene : Scene) (hook : String) (item : Item) : Script String :=
  chain.foldlM (fun content entry => entry.script scene hook item content) ""

/-- Run the hooks of one name.  A hook may run hooks of the same chain, itself among them. -/
def run (chain : Chain) (scene : Scene) (hook : String) (item : Item) :
    (lines : List String) → Option (Outcome String) :=
  (chain.script scene hook item).execute (chain.script scene)

end Chain

/-- What was rendered of a part. -/
structure Rendered where
  /-- The text. -/
  text : String
  /-- The name that it defines. -/
  name : String
  /-- The lines that it depends on. -/
  dependencies : List String
deriving DecidableEq, Repr

/-- Render a part: run the hooks for the whole text. -/
def Scene.render (scene : Scene) (chain : Chain) (name : String) : Except NoResult Rendered :=
  match chain.run scene HookName.whole .whole [] with
  | some ⟨.ok text, dependencies⟩ => .ok { text, name, dependencies }
  | some ⟨.error fault, _⟩ => .error (.failed (.render scene.part.name fault))
  | none => .error .endless

end Modelsmith
