/-
# Edges of models and parts

A model and a part have edges of the same kind: one for every slot, one for the target of a
reference, one for every parent.  An edge is known by the model that it leaves and the link
where it starts.  Hence a walk along such edges follows no link twice.
-/
import Modelsmith.Blueprint.Basic
import Modelsmith.Schema.Basic
import Modelsmith.Proofs.Walk.Order

namespace Modelsmith

variable {ι ρ : Type}

/-- Where a link of a model with the given shape and parents leads to. -/
def Link.end? (shape : Shape ι ρ) (parents : List ModelId) : Link → Option ModelId
  | .slot i => shape.slots[i]?
  | .target => shape.target?
  | .parent i => parents[i]?

lemma Shape.target?_eq_some {shape : Shape ι ρ} {t : ModelId} :
    shape.target? = some t ↔ shape = .reference t := by
  cases shape <;> simp [Shape.target?]

/-- All edges of a model with the given shape and parents. -/
def allEdges (source : ModelId) (shape : Shape ι ρ) (parents : List ModelId) : List Edge :=
  slotEdges source shape ++ targetEdges source shape ++ parentEdges source parents

/-- A number out of range has a nameless model of any value. -/
lemma Schema.model_of_le {s : Schema} {id : ModelId} (h : s.size ≤ id) :
    s.model id = { name := "", shape := .any } := by
  have hid : ¬ id < s.models.size := Nat.not_lt.2 h
  simp [model, hid]

lemma Schema.edges_eq (s : Schema) (id : ModelId) :
    s.edges id = allEdges id (s.model id).shape (s.model id).options.parents := rfl

lemma Blueprint.edges_eq (b : Blueprint) (id : ModelId) :
    b.edges id = allEdges id (b.part id).shape (b.part id).options.parents := rfl

lemma mem_mapIdx_edge {source : ModelId} {link : Nat → Link} {targets : List ModelId} {e : Edge} :
    e ∈ targets.mapIdx (fun i target => (⟨source, link i, target⟩ : Edge)) ↔
      e.source = source ∧ ∃ i, e.link = link i ∧ targets[i]? = some e.target := by
  rw [List.mem_mapIdx]
  constructor
  · rintro ⟨i, hi, rfl⟩
    exact ⟨rfl, i, rfl, List.getElem?_eq_getElem hi⟩
  · rintro ⟨hsource, i, hlink, htarget⟩
    obtain ⟨hi, htarget⟩ := List.getElem?_eq_some_iff.1 htarget
    exact ⟨i, hi, by rw [← hsource, ← hlink, htarget]⟩

/-- An edge of a model is a link with its end. -/
lemma mem_allEdges {source : ModelId} {shape : Shape ι ρ} {parents : List ModelId} {e : Edge} :
    e ∈ allEdges source shape parents ↔
      e.source = source ∧ e.link.end? shape parents = some e.target := by
  obtain ⟨esource, link, target⟩ := e
  simp only [allEdges, slotEdges, targetEdges, parentEdges, List.mem_append, mem_mapIdx_edge,
    List.mem_map, Option.mem_toList, Edge.mk.injEq]
  cases link with
  | slot i => simp [Link.end?]
  | target => simp [Link.end?, eq_comm, and_comm]
  | parent i => simp [Link.end?]

/-- A model has at most one edge for each link. -/
lemma edge_unique {source : ModelId} {shape : Shape ι ρ} {parents : List ModelId} {e e' : Edge}
    (he : e ∈ allEdges source shape parents) (he' : e' ∈ allEdges source shape parents)
    (hlink : e.link = e'.link) : e = e' := by
  obtain ⟨hsource, hend⟩ := mem_allEdges.1 he
  obtain ⟨hsource', hend'⟩ := mem_allEdges.1 he'
  rw [hlink, hend'] at hend
  obtain ⟨s, l, t⟩ := e
  obtain ⟨s', l', t'⟩ := e'
  simp_all

lemma Schema.mem_edges {s : Schema} {id : ModelId} {e : Edge} :
    e ∈ s.edges id ↔ e.source = id ∧
      e.link.end? (s.model id).shape (s.model id).options.parents = some e.target :=
  mem_allEdges

lemma Blueprint.mem_edges {b : Blueprint} {id : ModelId} {e : Edge} :
    e ∈ b.edges id ↔ e.source = id ∧
      e.link.end? (b.part id).shape (b.part id).options.parents = some e.target :=
  mem_allEdges

/-- The edges of a model for its slots and its target are those that lead to no parent. -/
lemma mem_contents_iff {source : ModelId} {shape : Shape ι ρ} (parents : List ModelId)
    {e : Edge} :
    e ∈ slotEdges source shape ++ targetEdges source shape ↔
      e ∈ allEdges source shape parents ∧ ∀ i, e.link ≠ .parent i := by
  rw [allEdges, List.mem_append (t := parentEdges source parents)]
  constructor
  · intro he
    refine ⟨.inl he, fun i hlink => ?_⟩
    rcases List.mem_append.1 he with hslot | htarget
    · obtain ⟨-, j, hj, -⟩ := mem_mapIdx_edge.1 hslot
      simp [hj] at hlink
    · obtain ⟨target, -, rfl⟩ := List.mem_map.1 htarget
      simp at hlink
  · rintro ⟨he | he, hlink⟩
    · exact he
    · obtain ⟨-, i, hparent, -⟩ := mem_mapIdx_edge.1 he
      exact absurd hparent (hlink i)

/-- The edges from a model to the models in its slots or to the target of a reference. -/
def Schema.contentEdges (s : Schema) (id : ModelId) : List Edge :=
  s.slotEdges id ++ targetEdges id (s.model id).shape

lemma Schema.mem_contentEdges {s : Schema} {id : ModelId} {e : Edge} :
    e ∈ s.contentEdges id ↔ e ∈ s.edges id ∧ ∀ i, e.link ≠ .parent i :=
  mem_contents_iff _

lemma Blueprint.mem_contentEdges {b : Blueprint} {id : ModelId} {e : Edge} :
    e ∈ b.contentEdges id ↔ e ∈ b.edges id ∧ ∀ i, e.link ≠ .parent i :=
  mem_contents_iff _

lemma Schema.edges_source (s : Schema) (n : ModelId) : ∀ e ∈ s.edges n, e.source = n :=
  fun _ he => (mem_edges.1 he).1

lemma Blueprint.edges_source (b : Blueprint) (n : ModelId) : ∀ e ∈ b.edges n, e.source = n :=
  fun _ he => (mem_edges.1 he).1

lemma nodup_mapIdx_edge {source : ModelId} {link : Nat → Link}
    (hlink : Function.Injective link) (targets : List ModelId) :
    (targets.mapIdx fun i target => (⟨source, link i, target⟩ : Edge)).Nodup := by
  rw [List.nodup_iff_pairwise_ne, List.pairwise_iff_getElem]
  intro i j hi hj hij heq
  simp only [List.getElem_mapIdx, Edge.mk.injEq] at heq
  exact absurd (hlink heq.2.1) (Nat.ne_of_lt hij)

lemma allEdges_nodup (source : ModelId) (shape : Shape ι ρ) (parents : List ModelId) :
    (allEdges source shape parents).Nodup := by
  have htarget : (targetEdges source shape).Nodup := by
    unfold targetEdges
    cases shape.target? <;> simp
  refine List.nodup_append.2 ⟨List.nodup_append.2 ⟨?_, htarget, ?_⟩, ?_, ?_⟩
  · exact nodup_mapIdx_edge (fun i j h => by simpa using h) _
  · intro e he e' he' heq
    obtain ⟨-, i, hlink, -⟩ := mem_mapIdx_edge.1 he
    obtain ⟨target, -, rfl⟩ := List.mem_map.1 he'
    simp [heq] at hlink
  · exact nodup_mapIdx_edge (fun i j h => by simpa using h) _
  · intro e he e' he' heq
    obtain ⟨-, i, hlink, -⟩ := mem_mapIdx_edge.1 he'
    rw [← heq] at hlink
    rcases List.mem_append.1 he with he | he
    · obtain ⟨-, j, hlink', -⟩ := mem_mapIdx_edge.1 he
      simp [hlink'] at hlink
    · obtain ⟨target, -, rfl⟩ := List.mem_map.1 he
      simp at hlink

namespace WalkState

variable {out : ModelId → List Edge} {size : Nat} {root : ModelId} {past : List Event}
  {progress : Array Progress} {tasks : List Task}
variable (h : WalkState out size root past progress tasks)
  (hsource : ∀ n, ∀ e ∈ out n, e.source = n) (hnodup : ∀ n, (out n).Nodup)
include h hsource hnodup

/-- Edges that belong to the models that they leave are followed once at most, those included
that are still to be followed. -/
lemma followed_nodup : (arrivals past ++ pendingEdges tasks).Nodup := by
  refine h.arrivals_perm.nodup_iff.2 (List.nodup_flatMap.2 ⟨fun n _ => hnodup n, ?_⟩)
  refine h.entered_nodup.imp fun {a c} hne e ha hc => ?_
  exact hne ((hsource a e ha).symm.trans (hsource c e hc))

lemma arrivals_nodup : (arrivals past).Nodup :=
  (List.nodup_append.1 (h.followed_nodup hsource hnodup)).1

end WalkState

end Modelsmith
