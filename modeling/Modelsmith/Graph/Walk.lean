/-
# Depth-first walks

Every pass over a graph of models is a fold over one depth-first walk.  The walk follows the
edges that leave a model in their order and enters each model once; it is given as the list
of its events, so that a pass can act on the way in, on the way out and on every edge.
-/
import Modelsmith.Graph.Shape

namespace Modelsmith

/-- Where an edge starts inside its model. -/
inductive Link where
  /-- A slot, by number. -/
  | slot (i : Nat)
  /-- The target of a reference. -/
  | target
  /-- An entry of the list of parents, by number. -/
  | parent (i : Nat)
deriving DecidableEq, Repr

/-- An edge from one model to another. -/
structure Edge where
  /-- The model that it leaves. -/
  source : ModelId
  /-- Where it starts in that model. -/
  link : Link
  /-- The model that it leads to. -/
  target : ModelId
deriving DecidableEq, Repr

/-- A model together with the edge by which a walk gets to it; the start has none. -/
structure Visit where
  /-- The model. -/
  node : ModelId
  /-- The edge. -/
  via : Option Edge
deriving DecidableEq, Repr

/-- The visit along an edge. -/
def Edge.visit (e : Edge) : Visit := ⟨e.target, some e⟩

/-- What happens on a walk. -/
inductive Event where
  /-- A model is reached for the first time. -/
  | enter (v : Visit)
  /-- A model is reached again; `isOpen` says whether the walk is still inside it. -/
  | again (v : Visit) (isOpen : Bool)
  /-- Everything below a model is done. -/
  | leave (v : Visit)
deriving DecidableEq, Repr

namespace Event

/-- The visit that an event arrives with; leaving is no arrival. -/
def arrival? : Event → Option Visit
  | enter v => some v
  | again v _ => some v
  | leave _ => none

/-- The model that an event enters. -/
def entered? : Event → Option ModelId
  | enter v => some v.node
  | _ => none

end Event

/-- What a walk still has to do. -/
inductive Task where
  /-- Go to a model. -/
  | visit (v : Visit)
  /-- Leave a model after everything below it. -/
  | close (v : Visit)
deriving DecidableEq, Repr

/-- How far a walk is with a model. -/
inductive Progress where
  /-- The walk has not been there. -/
  | fresh
  /-- The walk is inside it. -/
  | inside
  /-- The walk has left it. -/
  | done
deriving DecidableEq, Repr

/-- Entering a fresh model leaves fewer fresh ones. -/
theorem count_fresh_enter {progress : Array Progress} {node : ModelId}
    (h : progress[node]? = some .fresh) :
    (progress.setIfInBounds node .inside).count .fresh < progress.count .fresh := by
  obtain ⟨hn, hf⟩ := Array.getElem?_eq_some_iff.1 h
  have hpos : 0 < progress.count .fresh :=
    Array.count_pos_iff.2 (hf ▸ Array.getElem_mem hn)
  have hset := Array.count_set (a := .inside) (b := Progress.fresh) hn
  simp only [Array.setIfInBounds, hn, dif_pos, hset, hf]
  simp only [beq_self_eq_true, if_true, show (Progress.inside == .fresh) = false from rfl]
  simp only [Bool.false_eq_true, if_false]
  omega

/-- Leaving a model makes no model fresh. -/
theorem count_fresh_leave (progress : Array Progress) (node : ModelId) :
    (progress.setIfInBounds node .done).count .fresh ≤ progress.count .fresh := by
  by_cases hn : node < progress.size
  · have hset := Array.count_set (a := .done) (b := Progress.fresh) hn
    simp only [Array.setIfInBounds, hn, dif_pos, hset]
    simp only [show (Progress.done == .fresh) = false from rfl, Bool.false_eq_true, if_false]
    omega
  · simp [Array.setIfInBounds, hn]

/-- The events of a walk that is as far as `progress` says with each model and has `tasks`
left. -/
def walkFrom (out : ModelId → List Edge) (progress : Array Progress) (tasks : List Task) :
    List Event :=
  match tasks with
  | [] => []
  | .close v :: rest => .leave v :: walkFrom out (progress.setIfInBounds v.node .done) rest
  | .visit v :: rest =>
    if progress[v.node]? = some .fresh then
      .enter v :: walkFrom out (progress.setIfInBounds v.node .inside)
        ((out v.node).map (fun e => .visit e.visit) ++ .close v :: rest)
    else .again v (progress[v.node]? == some .inside) :: walkFrom out progress rest
termination_by (progress.count .fresh, tasks.length)
decreasing_by
  all_goals simp_wf
  · rcases Nat.lt_or_eq_of_le (count_fresh_leave progress v.node) with h | h
    · exact Prod.Lex.left _ _ h
    · rw [h]
      exact Prod.Lex.right _ (by simp)
  · rename_i h
    exact Prod.Lex.left _ _ (count_fresh_enter h)
  · exact Prod.Lex.right _ (by simp)

/-- The walk from `root` in a graph of `size` models, along the edges `out`. -/
def walk (out : ModelId → List Edge) (size : Nat) (root : ModelId) : List Event :=
  walkFrom out (Array.replicate size .fresh) [.visit ⟨root, none⟩]

/-- The models that a walk enters, in the order of entering. -/
def walkOrder (out : ModelId → List Edge) (size : Nat) (root : ModelId) : List ModelId :=
  (walk out size root).filterMap Event.entered?

/-- The place of every model of a graph of `size` models in a list of models; a model that is
not in it gets the length of the list. -/
def places (size : Nat) (order : List ModelId) : Array Nat :=
  order.zipIdx.foldr (fun (id, place) found => found.setIfInBounds id place)
    (Array.replicate size order.length)

/-- The edges that a walk takes or finds leading back, in order. -/
def walkEdges (out : ModelId → List Edge) (size : Nat) (root : ModelId) : List Edge :=
  (walk out size root).filterMap fun event => event.arrival?.bind (·.via)

/-- The edges from a model to the models in its slots. -/
def slotEdges {ι ρ : Type} (source : ModelId) (shape : Shape ι ρ) : List Edge :=
  shape.slots.mapIdx fun i target => ⟨source, .slot i, target⟩

/-- The edge from a reference to its target. -/
def targetEdges {ι ρ : Type} (source : ModelId) (shape : Shape ι ρ) : List Edge :=
  shape.target?.toList.map fun target => ⟨source, .target, target⟩

/-- The edges from a model to its parents. -/
def parentEdges (source : ModelId) (parents : List ModelId) : List Edge :=
  parents.mapIdx fun i target => ⟨source, .parent i, target⟩

/-- Follow a partial step a given number of times, or until it ends. -/
def follow (next : ModelId → Option ModelId) : Nat → ModelId → ModelId
  | 0, id => id
  | steps + 1, id =>
    match next id with
    | some id' => follow next steps id'
    | none => id

end Modelsmith
