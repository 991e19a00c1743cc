/-
# Blueprints

A blueprint is what a model and everything reachable from it becomes for one target: parts
with final names and with type expressions of the target.
-/
import Modelsmith.Graph.Walk

namespace Modelsmith

/-- The discriminator of a union for a target. -/
structure Discriminator where
  /-- The name of the discriminating property in the schema. -/
  property : String
  /-- The type of that property, if the members of the union agree on it. -/
  type : Option String := none
deriving DecidableEq, Repr

/-- A constant for a target. -/
structure Constant where
  /-- The value in the schema. -/
  value : Json
  /-- The text that writes the value in the target, once it is known. -/
  text : Option String := none
deriving BEq, Repr

/-- An entry of an enumeration for a target. -/
structure Member where
  /-- The final key. -/
  key : String
  /-- The text that writes the value. -/
  text : String
deriving DecidableEq, Repr

/-- What is said about a part besides its shape. -/
structure PartOptions where
  /-- The property that tells the members of a union apart. -/
  discriminator : Option Discriminator := none
  /-- The parts that this one inherits from. -/
  parents : List ModelId := []
  /-- The one value that the part is restricted to. -/
  constant : Option Constant := none
  /-- Whether null is a value too. -/
  nullable : Bool := false
  /-- A hint on the representation. -/
  format : Option String := none
deriving BEq, Repr

/-- A part of a blueprint.  Properties are labelled by their final name. -/
structure Part where
  /-- The final name. -/
  name : String
  /-- The type expression, empty until it is known. -/
  type : String := ""
  /-- The part of the input that the model comes from. -/
  input : Json := .null
  /-- What is said about it besides its shape. -/
  options : PartOptions := {}
  /-- The shape. -/
  shape : Shape String Member
  /-- The model of the schema that the part comes from. -/
  source : ModelId
deriving Repr

/-- The variant of a part. -/
def Part.variant (p : Part) : Variant := p.shape.variant

/-- A text field of the input that a part comes from. -/
def Part.inputText? (p : Part) (field : String) : Option String :=
  (p.input.field? field).bind Json.string?

/-- The description that the input gives for a part. -/
def Part.description? (p : Part) : Option String := p.inputText? "description"

/-- Parts with one of them as the root. -/
structure Blueprint where
  /-- The parts, by number. -/
  parts : Array Part
  /-- The part that the blueprint is for. -/
  root : ModelId := 0
deriving Repr

namespace Blueprint

/-- The number of parts. -/
def size (b : Blueprint) : Nat := b.parts.size

/-- The part with the given number; a number out of range has a nameless part of any value. -/
def part (b : Blueprint) (id : ModelId) : Part :=
  b.parts.getD id { name := "", shape := .any, source := 0 }

/-- The part that the blueprint is for. -/
def main (b : Blueprint) : Part := b.part b.root

/-- Change one part. -/
def modify (b : Blueprint) (id : ModelId) (f : Part → Part) : Blueprint :=
  { b with parts := b.parts.modify id f }

/-- The part at the end of a chain of references. -/
def resolve (b : Blueprint) (id : ModelId) : ModelId :=
  follow (fun i => (b.part i).shape.target?) b.size id

/-- The edges to the parts in the slots of a part. -/
def slotEdges (b : Blueprint) (id : ModelId) : List Edge :=
  Modelsmith.slotEdges id (b.part id).shape

/-- The edges to the parts in the slots of a part or to the target of a reference. -/
def contentEdges (b : Blueprint) (id : ModelId) : List Edge :=
  b.slotEdges id ++ targetEdges id (b.part id).shape

/-- All edges of a part, those to its parents last. -/
def edges (b : Blueprint) (id : ModelId) : List Edge :=
  b.contentEdges id ++ parentEdges id (b.part id).options.parents

/-- The edges of a part on a walk from `root` that does not cross references. -/
def localEdges (b : Blueprint) (root id : ModelId) : List Edge :=
  if id ≠ root ∧ (b.part id).variant = .reference then []
  else b.slotEdges id ++ parentEdges id (b.part id).options.parents

/-- The references of a list whose targets are not in `seen`, one for each target. -/
def oncePerTarget (b : Blueprint) : List ModelId → List ModelId → List ModelId
  | _, [] => []
  | seen, id :: rest =>
    match (b.part id).shape.target? with
    | none => b.oncePerTarget seen rest
    | some target =>
      if target ∈ seen then b.oncePerTarget seen rest
      else id :: b.oncePerTarget (target :: seen) rest

/-- The references that a part depends on: those reachable through slots and parents without
crossing another reference, the first one for each target, and none back to the part. -/
def nearestDependencies (b : Blueprint) (id : ModelId) : List ModelId :=
  b.oncePerTarget [id] ((walkEdges (b.localEdges id) b.size id).map (·.target))

end Blueprint

end Modelsmith
