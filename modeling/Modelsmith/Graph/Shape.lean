/-
# Shapes of models

The shape of a model is its variant together with what models of that variant hold: the
models in its slots, the target of a reference, the entries of an enumeration.  Schemas and
blueprints share this type; they differ in what is known about a property (`ι`) and about an
entry of an enumeration (`ρ`) beyond the schema.
-/
import Modelsmith.Graph.Variant
import Modelsmith.Json.Basic

namespace Modelsmith

/-- The number of a model in its graph. -/
abbrev ModelId := Nat

/-- A property of an object.  An object holds its properties by their names in the schema, so that
a property is found under its own name and under no other. -/
structure Property (ι : Type) where
  /-- The name in the schema, which is also what the object holds the property by. -/
  name : String
  /-- The model of its values. -/
  model : ModelId
  /-- Whether every object has it. -/
  required : Bool
  /-- The object that it belongs to. -/
  owner : ModelId
  /-- What is known about it beyond the schema. -/
  label : ι
deriving BEq, Repr

/-- One position of a tuple. -/
structure Position where
  /-- The number of the position. -/
  index : Nat
  /-- The model of its values. -/
  model : ModelId
deriving DecidableEq, Repr

/-- One entry of an enumeration. -/
structure Entry (ρ : Type) where
  /-- The key in the schema. -/
  key : String
  /-- The value. -/
  value : Json
  /-- What is known about it beyond the schema. -/
  label : ρ
deriving BEq, Repr

/-- How a dictionary is laid out inside the object that holds it. -/
inductive DictionaryLayout where
  /-- As a field of its own. -/
  | nested
  /-- With its entries among the fields of the object. -/
  | flat
deriving DecidableEq, Repr

/-- The shape of a model. -/
inductive Shape (ι ρ : Type) where
  | any
  | string
  | integer
  | float
  | boolean
  | object (properties : List (Property ι))
  | array (value : ModelId)
  | tuple (positions : List Position)
  | union (members : List ModelId)
  | dictionary (key value : ModelId) (layout : DictionaryLayout)
  | enumeration (entries : List (Entry ρ))
  /-- A link to a model that is held elsewhere. -/
  | reference (target : ModelId)
deriving BEq, Repr

namespace Shape

variable {ι ρ : Type}

/-- The variant of a shape. -/
def variant : Shape ι ρ → Variant
  | any => .any
  | string => .string
  | integer => .integer
  | float => .float
  | boolean => .boolean
  | object _ => .object
  | array _ => .array
  | tuple _ => .tuple
  | union _ => .union
  | dictionary .. => .dictionary
  | enumeration _ => .enumeration
  | reference _ => .reference

/-- The models in the slots of a shape, in order.  The target of a reference is in no slot. -/
def slots : Shape ι ρ → List ModelId
  | object properties => properties.map (·.model)
  | array value => [value]
  | tuple positions => positions.map (·.model)
  | union members => members
  | dictionary key value _ => [key, value]
  | _ => []

/-- Change the model in every slot, given the number of the slot. -/
def mapSlots (f : Nat → ModelId → ModelId) : Shape ι ρ → Shape ι ρ
  | object properties => object (properties.mapIdx fun i p => { p with model := f i p.model })
  | array value => array (f 0 value)
  | tuple positions => tuple (positions.mapIdx fun i p => { p with model := f i p.model })
  | union members => union (members.mapIdx f)
  | dictionary key value layout => dictionary (f 0 key) (f 1 value) layout
  | shape => shape

/-- Put a model into one slot. -/
def setSlot (i : Nat) (id : ModelId) (shape : Shape ι ρ) : Shape ι ρ :=
  shape.mapSlots fun j old => if j = i then id else old

/-- The target of a reference. -/
def target? : Shape ι ρ → Option ModelId
  | reference target => some target
  | _ => none

/-- The properties of an object; every other shape has none. -/
def properties : Shape ι ρ → List (Property ι)
  | object properties => properties
  | _ => []

end Shape

end Modelsmith
