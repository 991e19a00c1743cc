/-
# Schemas

A schema is a graph of models as an input describes them, for no target in particular.  A
model has the number of its place in the graph.
-/
import Modelsmith.Graph.Walk

namespace Modelsmith

/-- What is said about a model besides its shape. -/
structure ModelOptions where
  /-- The property that tells the members of a union apart. -/
  discriminator : Option String := none
  /-- The models that this one inherits from. -/
  parents : List ModelId := []
  /-- The one value that the model is restricted to. -/
  constant : Option Json := none
  /-- Whether null is a value too. -/
  nullable : Bool := false
  /-- A hint on the representation. -/
  format : Option String := none
deriving BEq, Repr, Inhabited

/-- A model of a schema. -/
structure Model where
  /-- The name, as the input gives it. -/
  name : String
  /-- The part of the input that the model comes from. -/
  input : Json := .null
  /-- What is said about it besides its shape. -/
  options : ModelOptions := {}
  /-- Its shape. -/
  shape : Shape Unit Unit
deriving BEq, Repr

/-- The variant of a model. -/
def Model.variant (m : Model) : Variant := m.shape.variant

/-- A graph of models. -/
structure Schema where
  /-- The models, by number. -/
  models : Array Model := #[]
deriving Repr

namespace Schema

/-- The number of models. -/
def size (s : Schema) : Nat := s.models.size

/-- The model with the given number; a number out of range has a nameless model of any value. -/
def model (s : Schema) (id : ModelId) : Model := s.models.getD id { name := "", shape := .any }

/-- Add a model, whose number is the size of the schema. -/
def insert (s : Schema) (m : Model) : Schema := ⟨s.models.push m⟩

/-- Change one model. -/
def modify (s : Schema) (id : ModelId) (f : Model → Model) : Schema := ⟨s.models.modify id f⟩

/-- Put a property among those of an object: in the place of the property with its name, or at
the end. -/
def putProperty (p : Property Unit) : List (Property Unit) → List (Property Unit)
  | [] => [p]
  | q :: rest => if q.name = p.name then p :: rest else q :: putProperty p rest

/-- Add a property to an object.  A model that is no object stays as it is. -/
def addProperty (s : Schema) (object : ModelId) (name : String) (value : ModelId)
    (required : Bool) : Schema :=
  s.modify object fun m =>
    match m.shape with
    | .object properties =>
      { m with shape := .object (putProperty ⟨name, value, required, object, ()⟩ properties) }
    | _ => m

/-- A reference to a model, with its input and its options. -/
def referenceTo (s : Schema) (name : String) (target : ModelId) : Model :=
  { s.model target with name := name, shape := .reference target }

/-- The model at the end of a chain of references.  The number of steps is bounded by the
size of the schema, so that the end of every chain that has one is found. -/
def resolve (s : Schema) (id : ModelId) : ModelId :=
  follow (fun i => (s.model i).shape.target?) s.size id

/-- The edges from a model to the models in its slots. -/
def slotEdges (s : Schema) (id : ModelId) : List Edge := Modelsmith.slotEdges id (s.model id).shape

/-- All edges from a model: to the models in its slots or to the target of a reference, then
to its parents. -/
def edges (s : Schema) (id : ModelId) : List Edge :=
  s.slotEdges id ++ targetEdges id (s.model id).shape ++
    parentEdges id (s.model id).options.parents

end Schema

end Modelsmith
