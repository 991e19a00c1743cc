/-
# Typing a blueprint

Types are given on one walk over the parts.  Parts of safe variants get their type on the
way in and all others on the way out, after everything below them.  Where the walk comes back
to an unsafe part that it is still inside of, the type would contain itself; the edge is led
to a new part of any value instead.
-/
import Modelsmith.Blueprint.Lowering

namespace Modelsmith

namespace Blueprint

/-- Give a part its type. -/
def assignType (table : TypeTable) (id : ModelId) (property : Option (Property String))
    (b : Blueprint) : Except Failure Blueprint := do
  let type ← blame (b.part id).name (table.typeOf { blueprint := b, id, property })
  return b.modify id fun p => { p with type }

/-- Give a part the text of its constant, if it has one. -/
def assignConstant (rules : NamingRules) (id : ModelId) (b : Blueprint) :
    Except Failure Blueprint := do
  let p := b.part id
  match p.options.constant with
  | none => return b
  | some c =>
    let text ← blame p.name (rules.constant b p c.value)
    return b.modify id fun p =>
      { p with options := { p.options with constant := some { c with text } } }

/-- The property whose values are reached by a visit. -/
def propertyOf (b : Blueprint) (v : Visit) : Option (Property String) :=
  match v.via with
  | some ⟨source, .slot i, _⟩ => (b.part source).shape.properties[i]?
  | _ => none

/-- Lead an edge to another part.  The list of parents is never changed. -/
def redirect (b : Blueprint) (e : Edge) (id : ModelId) : Blueprint :=
  match e.link with
  | .slot i => b.modify e.source fun p => { p with shape := p.shape.setSlot i id }
  | .target => b.modify e.source fun p => { p with shape := .reference id }
  | .parent _ => b

/-- Cut a cycle: a part of any value with the name, input and options of the visited part
takes its place at the end of the edge. -/
def cutCycle (table : TypeTable) (rules : NamingRules) (v : Visit) (b : Blueprint) :
    Except Failure Blueprint := do
  let id := b.size
  let stand : Part := { b.part v.node with type := "", shape := .any }
  let b := { b with parts := b.parts.push stand }
  let b ← b.assignType table id (b.propertyOf v)
  let b ← b.assignConstant rules id
  return match v.via with
    | some e => b.redirect e id
    | none => b

/-- The types of the discriminating property over the members of a union that refer directly
to an object with such a property, each once. -/
def discriminatorTypes (b : Blueprint) (property : String) (members : List ModelId) :
    List String :=
  (members.filterMap fun member => do
    let target ← (b.part member).shape.target?
    let p ← (b.part target).shape.properties.find? (·.name == property)
    return (b.part p.model).type).eraseDups

/-- Give the discriminator of a union its type, if the members agree on one. -/
def resolveDiscriminator (id : ModelId) (b : Blueprint) : Blueprint :=
  let p := b.part id
  match p.options.discriminator, p.shape with
  | some d, .union members =>
    match b.discriminatorTypes d.property members with
    | [type] => b.modify id fun p =>
        { p with options := { p.options with discriminator := some { d with type := some type } } }
    | _ => b
  | _, _ => b

/-- The effect of one event of the walk. -/
def typeEvent (table : TypeTable) (rules : NamingRules) (b : Blueprint) :
    Event → Except Failure Blueprint
  | .enter v => do
    let variant := (b.part v.node).variant
    if !table.isSafe variant then return b
    let b ← b.assignType table v.node (b.propertyOf v)
    if variant = .reference then return b
    b.assignConstant rules v.node
  | .again v isOpen =>
    if isOpen && !table.isSafe (b.part v.node).variant then b.cutCycle table rules v
    else pure b
  | .leave v => do
    let variant := (b.part v.node).variant
    let b ← if table.isSafe variant then pure b
      else do
        let b ← b.assignType table v.node (b.propertyOf v)
        b.assignConstant rules v.node
    match variant with
    | .reference => b.assignConstant rules v.node
    | .union => return b.resolveDiscriminator v.node
    | _ => return b

/-- Give all parts that are reachable from the root their types and constants. -/
def assignTypes (table : TypeTable) (rules : NamingRules) (b : Blueprint) :
    Except Failure Blueprint :=
  (walk b.edges b.size b.root).foldlM (typeEvent table rules) b

end Blueprint

/-- The blueprint of a model for a target. -/
def Schema.blueprint (s : Schema) (table : TypeTable) (rules : NamingRules) (root : ModelId) :
    Except Failure Blueprint := do
  let b ← s.lower rules root
  b.assignTypes table rules

end Modelsmith
