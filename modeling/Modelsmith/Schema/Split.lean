/-
# Splitting models out

Splitting makes models of some variants independent: wherever a reachable model holds one of
them in a slot, the slot gets a reference instead.  The walk that finds these slots runs over
the schema as it was before.
-/
import Modelsmith.Schema.Basic

namespace Modelsmith

/-- The variants whose models become independent. -/
structure SplitPolicy where
  /-- The variants. -/
  variants : List Variant
deriving DecidableEq, Repr

/-- Whether models of a variant become independent.  Neither references nor models of any
value ever do. -/
def SplitPolicy.applies (p : SplitPolicy) : Variant → Bool
  | .any | .reference => false
  | v => p.variants.contains v

namespace Schema

/-- The slots that splitting from `root` fills with references, in the order of the walk. -/
def cuts (s : Schema) (policy : SplitPolicy) (root : ModelId) : List Edge :=
  (walkEdges s.slotEdges s.size root).filter fun e => policy.applies (s.model e.target).variant

/-- The models that splitting from `root` makes independent, the root first, in the order in
which the walk first meets them. -/
def independent (s : Schema) (policy : SplitPolicy) (root : ModelId) : List ModelId :=
  (root :: (s.cuts policy root).map (·.target)).eraseDups

/-- The schema with a new reference in every slot that is cut. -/
def split (s : Schema) (policy : SplitPolicy) (root : ModelId) : Schema :=
  let cuts := s.cuts policy root
  let redirect (id : ModelId) (i : Nat) (old : ModelId) : ModelId :=
    match cuts.findIdx? fun e => e.source = id ∧ e.link = .slot i with
    | some k => s.size + k
    | none => old
  let kept := s.models.mapIdx fun id m => { m with shape := m.shape.mapSlots (redirect id) }
  ⟨kept ++ (cuts.map fun e => s.referenceTo (s.model e.target).name e.target).toArray⟩

/-- Split from several roots, one after another, on the schema that the earlier ones leave.
The models are those of all roots, each once. -/
def splitAll (s : Schema) (policy : SplitPolicy) (roots : List ModelId) :
    Schema × List ModelId :=
  let (s, models) := roots.foldl
    (fun (acc : Schema × List ModelId) root =>
      (acc.1.split policy root, acc.2 ++ acc.1.independent policy root))
    (s, [])
  (s, models.eraseDups)

end Schema

end Modelsmith
