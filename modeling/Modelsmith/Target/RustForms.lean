/-
# Rust forms

Objects become structs, enumerations become enums, tuples become tuple structs and unions
become enums with one variant for each member.
-/
import Modelsmith.Blueprint.Derive
import Modelsmith.Json.Writer
import Modelsmith.Render.Block
import Modelsmith.Render.Preset
import Modelsmith.Target.RustTypes

namespace Modelsmith.Rust

/-- The import that every type needs for its derived traits. -/
def serdeImport : String := "use serde::\x7bDeserialize, Serialize\x7d;"

/-- The line that derives traits for a part. -/
def deriveLine (scene : Scene) : String :=
  "#[derive(" ++ Text.joinWith ", " (scene.blueprint.derives scene.id) ++ ")]"

/-- An attribute line for serialization. -/
def serdeLine (arguments : List String) : String :=
  "#[serde(" ++ Text.joinWith ", " arguments ++ ")]"

/-- The argument that gives the name in serialized data. -/
def renameArgument (name : String) : String := "rename = " ++ Json.quote name

/-- The line that spreads the entries of a value into its owner. -/
def flattenLine : String := serdeLine ["flatten"]

/-- The type of a field that holds a part.  References are boxed, so that recursive types
have a size. -/
def slotType (b : Blueprint) (id : ModelId) (required : Bool) : String :=
  let part := b.part id
  let type := if part.variant = .reference then "Box<" ++ part.type ++ ">" else part.type
  if required then type else "Option<" ++ type ++ ">"

/-- A definition: lines in front, a head with a body between braces, and lines that follow. -/
def definition (scene : Scene) (front : List String) (head body trailer : String) : String :=
  Code.renderTrimmed scene.indentation 0 <|
    front.map .lines ++
    (if body.isEmpty then [.line (head ++ " \x7b\x7d")] else bracedSteps head body) ++
    (if trailer.isEmpty then [] else [.blank, .lines trailer])

/-- The comment in front of a type. -/
def typeDoc (name kind : String) : String :=
  "/// " ++ name ++ " represents a " ++ name ++ " " ++ kind ++ "."

/-- The attribute lines of a type that only derives traits. -/
def deriveHook : Hook := fun scene _ => return deriveLine scene

/-! ## Structs -/

/-- Whether the entries of a part stand among the fields of its owner. -/
def isFlat (b : Blueprint) (id : ModelId) : Bool :=
  match (b.part (b.resolve id)).shape with
  | .dictionary _ _ .flat => true
  | _ => false

/-- A struct with one field for each property. -/
def structHook : Hook := fun scene _ => do
  let part := scene.part
  Script.depend serdeImport
  let attributes ← Script.run HookName.typeAttributes .whole
  let fields ← part.shape.properties.mapM fun p => do
    let attributes ← Script.run HookName.fieldAttributes (.property p)
    let field ← Script.run HookName.field (.property p)
    return [attributes, field]
  let additional ← Script.run HookName.additional .whole
  return definition scene [typeDoc part.name "model", attributes] ("pub struct " ++ part.name)
    (block 1 fields.flatten) additional

/-- How a field is serialized. -/
def fieldAttributesHook : Hook := fun scene call =>
  match call.item with
  | .property p =>
    if isFlat scene.blueprint p.model then return flattenLine
    else return serdeLine <| renameArgument p.name ::
      (if p.required then [] else ["skip_serializing_if = \"Option::is_none\""])
  | _ => return call.content

/-- A field. -/
def fieldHook : Hook := fun scene call =>
  match call.item with
  | .property p =>
    return "pub " ++ p.label ++ ": " ++ slotType scene.blueprint p.model p.required ++ ","
  | _ => return call.content

/-! ## Enums -/

/-- The type of what a variant carries whose value is an object. -/
def mapPayload : String := mapType "String" anyType

/-- The name of a value in serialized data. -/
def wireName : Json → String
  | .string s => s
  | value => value.write

/-- The entries of an enumeration; every other shape has none. -/
def entriesOf : Shape String Member → List (Entry Member)
  | .enumeration entries => entries
  | _ => []

/-- An enum with one variant for each entry. -/
def enumHook : Hook := fun scene _ => do
  let part := scene.part
  Script.depend serdeImport
  let attributes ← Script.run HookName.typeAttributes .whole
  let items ← (entriesOf part.shape).mapM fun e => do
    let attributes ← Script.run HookName.itemAttributes (.entry e)
    let item ← Script.run HookName.item (.entry e)
    return [attributes, item ++ ","]
  let additional ← Script.run HookName.additional .whole
  return definition scene [typeDoc part.name "model", attributes] ("pub enum " ++ part.name)
    (block 1 items.flatten) additional

/-- Whether a value is an object. -/
def isObject : Json → Bool
  | .object _ => true
  | _ => false

/-- How a variant is serialized. -/
def entryAttributesHook : Hook := fun _ call =>
  match call.item with
  | .entry e =>
    if isObject e.value then return flattenLine
    else return serdeLine [renameArgument (wireName e.value)]
  | _ => return call.content

/-- A variant. -/
def entryHook : Hook := fun _ call =>
  match call.item with
  | .entry e =>
    if isObject e.value then return e.label.key ++ "(" ++ mapPayload ++ ")"
    else return e.label.key
  | _ => return call.content

/-! ## Tuple structs -/

/-- The positions of a tuple; every other shape has none. -/
def positionsOf : Shape String Member → List Position
  | .tuple positions => positions
  | _ => []

/-- A tuple struct with one field for each position. -/
def tupleHook : Hook := fun scene _ => do
  let part := scene.part
  Script.depend serdeImport
  let attributes ← Script.run HookName.typeAttributes .whole
  let fields ← (positionsOf part.shape).mapM fun p => Script.run HookName.field (.position p)
  let additional ← Script.run HookName.additional .whole
  return Code.renderTrimmed scene.indentation 0 <|
    [.line (typeDoc part.name "tuple"), .lines attributes,
      .line ("pub struct " ++ part.name ++ "(" ++ Text.joinWith ", " fields ++ ");")] ++
    (if additional.isEmpty then [] else [.blank, .lines additional])

/-- A field of a tuple struct. -/
def positionHook : Hook := fun scene call =>
  match call.item with
  | .position p => return "pub " ++ slotType scene.blueprint p.model true
  | _ => return call.content

/-! ## Unions -/

/-- The members of a union; every other shape has none. -/
def membersOf : Shape String Member → List ModelId
  | .union members => members
  | _ => []

/-- An enum with one variant for each member. -/
def unionHook : Hook := fun scene _ => do
  let part := scene.part
  let members := membersOf part.shape
  Script.depend serdeImport
  let attributes ← Script.run HookName.typeAttributes .whole
  let items ← members.mapM fun id => do
    let attributes ← Script.run HookName.itemAttributes (.member id)
    let item ← Script.run HookName.item (.member id)
    return [attributes, item ++ ","]
  let additional ← Script.run HookName.additional .whole
  let doc := "/// " ++ part.name ++ " represents a union of types: " ++
    Text.joinWith ", " (members.map fun id => (scene.blueprint.part id).type)
  return definition scene [doc, attributes] ("pub enum " ++ part.name)
    (block 1 items.flatten) additional

/-- The traits of a union, and whether serialized data is tagged by the discriminator. -/
def unionAttributesHook : Hook := fun scene _ =>
  let representation := match scene.part.options.discriminator with
    | some d => serdeLine ["tag = " ++ Json.quote d.property]
    | none => serdeLine ["untagged"]
  return block 1 [deriveLine scene, representation]

/-- How a variant is serialized. -/
def memberAttributesHook : Hook := fun scene call =>
  match call.item with
  | .member id => return serdeLine [renameArgument (scene.blueprint.part id).name]
  | _ => return call.content

/-- A variant that holds a member. -/
def memberHook : Hook := fun scene call =>
  match call.item with
  | .member id =>
    let b := scene.blueprint
    return (b.part id).name ++ "(" ++ (b.part (b.resolve id)).type ++ ")"
  | _ => return call.content

/-- The hooks of all four forms. -/
def preset : Preset where
  name := "rust-default"
  hooks := [
    ("struct", [
      (HookName.whole, structHook),
      (HookName.typeAttributes, deriveHook),
      (HookName.fieldAttributes, fieldAttributesHook),
      (HookName.field, fieldHook)]),
    ("enum", [
      (HookName.whole, enumHook),
      (HookName.typeAttributes, deriveHook),
      (HookName.itemAttributes, entryAttributesHook),
      (HookName.item, entryHook)]),
    ("tuple", [
      (HookName.whole, tupleHook),
      (HookName.typeAttributes, deriveHook),
      (HookName.field, positionHook)]),
    ("union", [
      (HookName.whole, unionHook),
      (HookName.typeAttributes, unionAttributesHook),
      (HookName.itemAttributes, memberAttributesHook),
      (HookName.item, memberHook)])]

/-- The form of a variant. -/
def form : Variant → Option String
  | .object => some "struct"
  | .enumeration => some "enum"
  | .tuple => some "tuple"
  | .union => some "union"
  | _ => none

end Modelsmith.Rust
