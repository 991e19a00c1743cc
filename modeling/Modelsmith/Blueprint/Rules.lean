/-
# Rules of a target

A target contributes naming rules and a type table.  Both answer single questions about a
model or a part and may refuse; the passes over schemas and blueprints ask them.
-/
import Modelsmith.Blueprint.Basic
import Modelsmith.Failure
import Modelsmith.Json.Writer
import Modelsmith.Naming.Convention
import Modelsmith.Schema.Basic

namespace Modelsmith

/-- The naming rules of a target. -/
structure NamingRules where
  /-- The final name of a model. -/
  modelName : Schema → Model → Except Fault String
  /-- The final name of a property of an object, after the `earlier` ones, which have theirs. -/
  propertyKey : Model → Property Unit → (earlier : List (Property String)) → Except Fault String
  /-- The final key of an entry, after the `earlier` ones, which have theirs. -/
  enumKey : Model → Entry Unit → (earlier : List (Entry Member)) → Except Fault String
  /-- The text of the value of an entry. -/
  enumValue : Model → Entry Unit → Except Fault String
  /-- The text of a constant of a part, if the target can write it. -/
  constant : Blueprint → Part → Json → Except Fault (Option String)

/-- What a type expression may depend on. -/
structure TypeContext where
  /-- The blueprint as far as it is typed. -/
  blueprint : Blueprint
  /-- The part that gets the type. -/
  id : ModelId
  /-- The property whose values the part describes, if any. -/
  property : Option (Property String) := none

namespace TypeContext

/-- The part that gets the type. -/
def part (ctx : TypeContext) : Part := ctx.blueprint.part ctx.id

/-- The type of another part. -/
def typeOf (ctx : TypeContext) (id : ModelId) : String := (ctx.blueprint.part id).type

/-- The types of the parts in the slots. -/
def slotTypes (ctx : TypeContext) : List String := ctx.part.shape.slots.map ctx.typeOf

/-- The name of the part that the part refers to in the end, its own if it is no reference. -/
def resolvedName (ctx : TypeContext) : String :=
  (ctx.blueprint.part (ctx.blueprint.resolve ctx.id)).name

end TypeContext

/-- The variants whose types do not depend on other types, unless a table says otherwise. -/
def Variant.isSelfContained : Variant → Bool
  | .array | .tuple | .union | .dictionary => false
  | _ => true

/-- The type table of a target. -/
structure TypeTable where
  /-- The type expression of a part taken as a model of the given variant. -/
  write : Variant → TypeContext → Except Fault String
  /-- The variants whose types do not depend on the types of what they hold. -/
  isSafe : Variant → Bool := Variant.isSelfContained

/-- The type expression of a part. -/
def TypeTable.typeOf (t : TypeTable) (ctx : TypeContext) : Except Fault String :=
  t.write ctx.part.variant ctx

/-- A value as a literal of source code: arrays and objects become the quoted text of the
value. -/
def literal : Json → String
  | .array items => Json.quote (Json.array items).write
  | .object fields => Json.quote (Json.object fields).write
  | value => value.write

/-- The entry of an enumeration that a constant of a part names: the part is the enumeration
or a reference to it, and the first entry with that value counts. -/
def enumMember? (separator : String) (b : Blueprint) (p : Part) (value : Json) :
    Option String :=
  let p := match p.shape.target? with
    | some target => b.part (b.resolve target)
    | none => p
  match p.shape with
  | .enumeration entries =>
    (entries.find? fun e => e.value == value).map fun e => p.name ++ separator ++ e.label.key
  | _ => none

/-- The naming rules that a convention gives; `separator` stands between an enumeration and
one of its keys, and `valueText` writes the value of an entry. -/
def NamingRules.ofConvention (c : Naming.Convention) (separator : String)
    (valueText : Json → String) : NamingRules where
  modelName _ m := pure (c.standalone .model m.name)
  propertyKey _ p earlier := pure (c.identifier .property (earlier.map (·.label)) p.name)
  enumKey _ e earlier := pure (c.identifier .enumKey (earlier.map (·.label.key)) e.key)
  enumValue _ e := pure (valueText e.value)
  constant b p value := pure (some ((enumMember? separator b p value).getD (literal value)))

end Modelsmith
