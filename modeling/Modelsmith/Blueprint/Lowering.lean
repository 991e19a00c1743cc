/-
# Lowering a schema

Lowering makes one part of every model that is reachable from a root, in the order of the
walk, and gives all names.  Types are still empty afterwards.  If a rule refuses, the first
refusal in the order of the walk counts.
-/
import Modelsmith.Blueprint.Rules

namespace Modelsmith

/-- A property of the part with number `owner`, when `place` gives the part of a model. -/
def Property.lower (p : Property Unit) (place : ModelId → ModelId) (owner : ModelId)
    (key : String) : Property String :=
  ⟨p.name, place p.model, p.required, owner, key⟩

namespace NamingRules

/-- The properties of the part with number `owner`, after the `earlier` ones of the same object,
when `place` gives the part of a model. -/
def properties (rules : NamingRules) (object : Model) (place : ModelId → ModelId)
    (owner : ModelId) :
    List (Property String) → List (Property Unit) → Except Fault (List (Property String))
  | _, [] => pure []
  | earlier, p :: rest => do
    let key ← rules.propertyKey object p earlier
    let lowered := p.lower place owner key
    return lowered :: (← rules.properties object place owner (earlier ++ [lowered]) rest)

/-- The first property whose name is refused, after the `earlier` ones of the same object: its
number and why. -/
def refusal? (rules : NamingRules) (object : Model) (place : ModelId → ModelId)
    (owner : ModelId) :
    List (Property String) → List (Property Unit) → Option (Nat × Fault)
  | _, [] => none
  | earlier, p :: rest =>
    match rules.propertyKey object p earlier with
    | .ok key => rules.refusal? object place owner (earlier ++ [p.lower place owner key]) rest
    | .error fault => some (earlier.length, fault)

/-- The entries of an enumeration, after the `earlier` ones. -/
def members (rules : NamingRules) (m : Model) :
    List (Entry Member) → List (Entry Unit) → Except Fault (List (Entry Member))
  | _, [] => pure []
  | earlier, e :: rest => do
    let key ← rules.enumKey m e earlier
    let text ← rules.enumValue m e
    let member := ⟨e.key, e.value, ⟨key, text⟩⟩
    return member :: (← rules.members m (earlier ++ [member]) rest)

end NamingRules

/-- Blame a fault on a model. -/
def blame {α : Type} (model : String) (result : Except Fault α) : Except Failure α :=
  result.mapError (Failure.lowering model)

namespace Schema

/-- The models that become parts: those reachable from the root, in the order of the walk. -/
def reached (s : Schema) (root : ModelId) : List ModelId := walkOrder s.edges s.size root

/-- The shape of the part with number `owner`, when `place` gives the part of a model. -/
def lowerShape (rules : NamingRules) (m : Model) (place : ModelId → ModelId)
    (owner : ModelId) : Except Fault (Shape String Member) :=
  match m.shape with
  | .any => pure .any
  | .string => pure .string
  | .integer => pure .integer
  | .float => pure .float
  | .boolean => pure .boolean
  | .object properties => do return .object (← rules.properties m place owner [] properties)
  | .array value => pure (.array (place value))
  | .tuple positions => pure (.tuple (positions.map fun p => ⟨p.index, place p.model⟩))
  | .union members => pure (.union (members.map place))
  | .dictionary key value layout => pure (.dictionary (place key) (place value) layout)
  | .enumeration entries => do return .enumeration (← rules.members m [] entries)
  | .reference target => pure (.reference (place target))

/-- The options of a part. -/
def lowerOptions (o : ModelOptions) (place : ModelId → ModelId) : PartOptions where
  discriminator := o.discriminator.map fun property => { property }
  parents := o.parents.map place
  constant := o.constant.map fun value => { value }
  nullable := o.nullable
  format := o.format

/-- The part of a model. -/
def lowerModel (s : Schema) (rules : NamingRules) (place : ModelId → ModelId) (id : ModelId) :
    Except Failure Part :=
  let m := s.model id
  blame m.name do
    let name ← rules.modelName s m
    let shape ← lowerShape rules m place (place id)
    return {
      name
      input := m.input
      options := lowerOptions m.options place
      shape
      source := id }

/-- The properties whose names are refused, at most one for each object: the edge that leaves
the property and why. -/
def refusals (s : Schema) (rules : NamingRules) (place : ModelId → ModelId)
    (ids : List ModelId) : List (ModelId × Link × Fault) :=
  ids.filterMap fun id =>
    let m := s.model id
    (rules.refusal? m place (place id) [] m.shape.properties).map fun (i, fault) =>
      (id, .slot i, fault)

/-- Ask for the name of a property when the walk takes its edge. -/
def askOnEdge (s : Schema) (refusals : List (ModelId × Link × Fault)) (e : Edge) :
    Except Failure Unit :=
  match refusals.lookup e.source with
  | some (link, fault) =>
    if link = e.link then blame (s.model e.source).name (throw fault) else pure ()
  | none => pure ()

/-- Ask for the name of a model and its entries when the walk enters it. -/
def askOnEntry (s : Schema) (rules : NamingRules) (id : ModelId) : Except Failure Unit :=
  let m := s.model id
  blame m.name do
    let _ ← rules.modelName s m
    match m.shape with
    | .enumeration entries => let _ ← rules.members m [] entries
    | _ => pure ()

/-- Ask all questions of one event of the walk. -/
def ask (s : Schema) (rules : NamingRules) (refusals : List (ModelId × Link × Fault))
    (event : Event) : Except Failure Unit := do
  if let some e := event.arrival?.bind (·.via) then s.askOnEdge refusals e
  if let some id := event.entered? then s.askOnEntry rules id

/-- The blueprint of a root, without types.  The walk is asked about only if some model is
refused, to find the refusal that counts. -/
def lower (s : Schema) (rules : NamingRules) (root : ModelId) : Except Failure Blueprint :=
  let order := s.reached root
  let places := places s.size order
  let place id := places.getD id order.length
  match order.mapM (s.lowerModel rules place) with
  | .ok parts => pure { parts := parts.toArray }
  | .error failure => do
    (walk s.edges s.size root).forM (s.ask rules (s.refusals rules place order))
    throw failure

end Schema

end Modelsmith
