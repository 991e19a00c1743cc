/-
# Sketches

A small target that writes objects as classes with typed properties, for looking at a schema.
-/
import Modelsmith.Render.Block
import Modelsmith.Target.Basic

namespace Modelsmith.Sketch

/-- The types of sketches.  Objects, enumerations and references have their own names. -/
def types : TypeTable where
  write variant ctx := pure <|
    match variant with
    | .any => "any"
    | .string => "string"
    | .integer => "number"
    | .float => "number"
    | .boolean => "boolean"
    | .object => ctx.part.name
    | .reference => ctx.part.name
    | .enumeration => ctx.part.name
    | .array =>
      match ctx.part.shape with
      | .array value => ctx.typeOf value ++ "[]"
      | _ => "any[]"
    | .tuple => "[" ++ Text.joinWith ", " ctx.slotTypes ++ "]"
    | .union => Text.joinWith " | " ctx.slotTypes
    | .dictionary => "Map<" ++ Text.joinWith ", " ctx.slotTypes ++ ">"

/-- Objects and enumerations are split out. -/
def policy : SplitPolicy := ⟨[.object, .enumeration]⟩

/-- The naming rules of sketches. -/
def rules (o : Naming.Overrides) : NamingRules :=
  .ofConvention (Naming.sketch.override o) "." literal

/-- A class with one line for each property. -/
def classHook : Hook := fun scene _ => do
  let part := scene.part
  let lines ← part.shape.properties.mapM fun p => Script.run HookName.property (.property p)
  let body := scene.indentation.apply (block 1 lines) 1
  return "class " ++ part.name ++ " \x7b\n" ++ body ++ "\n\x7d"

/-- A property with its type. -/
def propertyHook : Hook := fun scene call =>
  match call.item with
  | .property p => return p.label ++ ": " ++ (scene.blueprint.part p.model).type ++ ";"
  | _ => return call.content

/-- The hooks of sketches. -/
def preset : Preset :=
  (({ name := "test" } : Preset).register "class" HookName.whole classHook).register
    "class" HookName.property propertyHook

/-- The target of sketches. -/
def target (s : Settings) : Target where
  policy := policy
  types := types
  rules := rules s.naming
  chain := { preset } :: s.presets
  indentation := s.indentation.getD Indentation.standard
  form
    | .object => some "class"
    | _ => none

/-- A sketch on its own stands in a namespace. -/
def completion (s : Settings) (space : String) : Completion where
  check :=
    if (Naming.sketch.override s.naming).isReserved space then
      throw (.reservedKeyword space "namespace")
    else pure ()
  complete o :=
    "namespace " ++ space ++ " \x7b\n" ++
      (s.indentation.getD Indentation.standard).apply o.text 1 ++ "\n\x7d"

end Modelsmith.Sketch
