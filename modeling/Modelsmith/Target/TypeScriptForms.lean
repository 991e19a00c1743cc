/-
# TypeScript forms

Objects become classes or interfaces, enumerations become enums, and everything else becomes
a type alias.
-/
import Modelsmith.Render.Block
import Modelsmith.Render.Preset
import Modelsmith.Target.TypeScriptTypes

namespace Modelsmith.TypeScript

/-- The literal that a property is fixed to. -/
def constantText? (b : Blueprint) (p : Property String) : Option String :=
  (b.part p.model).options.constant.bind (·.text)

/-- The type of a property: the literal that it is fixed to, or the type of its values. -/
def propertyType (b : Blueprint) (p : Property String) : String :=
  (constantText? b p).getD (b.part p.model).type

/-- A property with its type and, if it may be missing, a question mark. -/
def signature (b : Blueprint) (p : Property String) : String :=
  p.label ++ (if p.required then "" else "?") ++ ": " ++ propertyType b p

/-- A head with a body between braces. -/
def definition (scene : Scene) (head body : String) : String :=
  if body.isEmpty then head ++ " \x7b\x7d"
  else Code.renderTrimmed scene.indentation 0 (bracedSteps head body)

/-! ## Classes -/

/-- What is added to the type of a property that may be missing. -/
def orUndefined (p : Property String) : String := if p.required then "" else " | undefined"

/-- A class: fields, a constructor, accessors and what presets add. -/
def classHook : Hook := fun scene _ => do
  let properties := scene.part.shape.properties
  let fields ← properties.mapM fun p => Script.run HookName.property (.property p)
  let creation ← Script.run HookName.creation .whole
  let accessors ← properties.mapM fun p => do
    let getter ← Script.run HookName.getter (.property p)
    let setter ← Script.run HookName.setter (.property p)
    return block 1 [getter, setter]
  let additional ← Script.run HookName.additional .whole
  return definition scene ("class " ++ scene.part.name)
    (block 2 [block 1 fields, creation, block 2 accessors, additional])

/-- A private field.  A field with a fixed value is set in place. -/
def fieldHook : Hook := fun scene call =>
  match call.item with
  | .property p =>
    let b := scene.blueprint
    let value := (constantText? b p).elim "" (" = " ++ ·)
    return "private _" ++ signature b p ++ value ++ ";"
  | _ => return call.content

/-- A constructor that takes one object with all properties that are not fixed. -/
def creationHook : Hook := fun scene _ =>
  let b := scene.blueprint
  let free := scene.part.shape.properties.filter fun p => (constantText? b p).isNone
  if free.isEmpty then return "constructor(input: \x7b\x7d) \x7b\x7d"
  else return Code.renderTrimmed scene.indentation 0 [
    .line "constructor(input: \x7b",
    .indent,
    .lines (Text.joinWith "\n" (free.map fun p => signature b p ++ ",")),
    .dedent,
    .line "\x7d) \x7b",
    .indent,
    .lines (Text.joinWith "\n" (free.map fun p =>
      "this._" ++ p.label ++ " = input." ++ p.label ++ ";")),
    .dedent,
    .line "\x7d"]

/-- The accessor that reads a property. -/
def getterHook : Hook := fun scene call =>
  match call.item with
  | .property p =>
    return "get " ++ p.label ++ "(): " ++ propertyType scene.blueprint p ++ orUndefined p ++
      " \x7b return this._" ++ p.label ++ "; \x7d"
  | _ => return call.content

/-- The accessor that writes a property.  A property with a fixed value has none. -/
def setterHook : Hook := fun scene call =>
  match call.item with
  | .property p =>
    if (constantText? scene.blueprint p).isSome then return ""
    else return "set " ++ p.label ++ "(" ++ p.label ++ ": " ++
      (scene.blueprint.part p.model).type ++ orUndefined p ++ ") \x7b this._" ++ p.label ++
      " = " ++ p.label ++ "; \x7d"
  | _ => return call.content

/-! ## Interfaces, enums and type aliases -/

/-- An interface with one line for each property. -/
def interfaceHook : Hook := fun scene _ => do
  let properties ← scene.part.shape.properties.mapM fun p =>
    Script.run HookName.property (.property p)
  let additional ← Script.run HookName.additional .whole
  return definition scene ("interface " ++ scene.part.name)
    (block 2 [block 1 properties, additional])

/-- A property of an interface. -/
def propertyHook : Hook := fun scene call =>
  match call.item with
  | .property p => return signature scene.blueprint p ++ ";"
  | _ => return call.content

/-- An enum with one line for each entry. -/
def enumHook : Hook := fun scene _ => do
  let entries := match scene.part.shape with
    | .enumeration entries => entries
    | _ => []
  let items ← entries.mapM fun e => do
    return (← Script.run HookName.item (.entry e)) ++ ","
  let additional ← Script.run HookName.additional .whole
  return definition scene ("enum " ++ scene.part.name) (block 2 [block 1 items, additional])

/-- An entry of an enum. -/
def entryHook : Hook := fun _ call =>
  match call.item with
  | .entry e => return e.label.key ++ " = " ++ e.label.text
  | _ => return call.content

/-- A type alias. -/
def aliasHook : Hook := fun scene _ =>
  return "type " ++ scene.part.name ++ " = " ++ scene.part.type ++ ";"

/-- The hooks of all four forms. -/
def preset : Preset where
  name := "typescript-default"
  hooks := [
    ("class", [
      (HookName.whole, classHook),
      (HookName.property, fieldHook),
      (HookName.creation, creationHook),
      (HookName.getter, getterHook),
      (HookName.setter, setterHook)]),
    ("interface", [
      (HookName.whole, interfaceHook),
      (HookName.property, propertyHook)]),
    ("enum", [
      (HookName.whole, enumHook),
      (HookName.item, entryHook)]),
    ("type", [(HookName.whole, aliasHook)])]

/-! ## Descriptions -/

/-- A description as a block comment. -/
def docComment (description : String) : String :=
  Code.renderTrimmed Indentation.standard 0 [.line "/**", .doc " *" description, .line " */"]

/-- Put a description, if there is one, in front of a text. -/
def described (description : Option String) (content : String) : String :=
  match description with
  | some text => docComment text ++ "\n" ++ content
  | none => content

/-- Put the description of a part in front of its text. -/
def describedHook : Hook := fun scene call =>
  return described scene.part.description? call.content

/-- Put the description of a property in front of its text. -/
def describedPropertyHook : Hook := fun scene call =>
  match call.item with
  | .property p => return described (scene.blueprint.part p.model).description? call.content
  | _ => return call.content

/-- Comments from descriptions, on all forms and on the properties of classes and
interfaces. -/
def descriptionPreset : Preset where
  name := "typescript-description"
  hooks := [
    ("class", [
      (HookName.whole, describedHook), (HookName.property, describedPropertyHook)]),
    ("interface", [
      (HookName.whole, describedHook), (HookName.property, describedPropertyHook)]),
    ("enum", [(HookName.whole, describedHook)]),
    ("type", [(HookName.whole, describedHook)])]

end Modelsmith.TypeScript
