/-
# Split schemas as insertions

Splitting puts a reference into every slot that it cuts, with an edge on to what the slot held.
If no model has parents, the new references have no other edges.  So the walk through a split
schema is the walk through the schema with the references on the way, and an edge leads back
in the one schema exactly if it does so in the other.
-/
import Modelsmith.Proofs.References
import Modelsmith.Proofs.Split.Basic
import Modelsmith.Proofs.TypeConsistency
import Modelsmith.Proofs.Walk.Insert

namespace Modelsmith

namespace Schema

variable {s : Schema} {policy : SplitPolicy} {root n r : ModelId} {e : Edge}

/-- A schema in which no model inherits from others. -/
def HasNoParents (s : Schema) : Prop := ∀ id, (s.model id).options.parents = []

/-- The reference that splitting puts into an edge, if the edge is cut. -/
def inserted (s : Schema) (policy : SplitPolicy) (root : ModelId) (e : Edge) : Option ModelId :=
  if e ∈ s.cuts policy root then some (s.size + (s.cuts policy root).idxOf e) else none

lemma inserted_eq_none (he : e ∉ s.cuts policy root) : s.inserted policy root e = none :=
  if_neg he

lemma inserted_eq_some_iff : s.inserted policy root e = some r ↔
    ∃ k, (s.cuts policy root)[k]? = some e ∧ r = s.size + k := by
  unfold inserted
  constructor
  · intro h
    split at h
    · next he =>
      refine ⟨(s.cuts policy root).idxOf e, ?_, (Option.some.inj h).symm⟩
      rw [List.getElem?_eq_getElem (List.idxOf_lt_length_of_mem he), List.getElem_idxOf]
    · cases h
  · rintro ⟨k, hk, rfl⟩
    obtain ⟨hlt, rfl⟩ := List.getElem?_eq_some_iff.1 hk
    rw [if_pos (List.getElem_mem hlt), (s.cuts_nodup policy root).idxOf_getElem k hlt]

/-- No reference is put into the edges of other links than slots. -/
lemma map_redirect_of_not_slot (edges : List Edge) (h : ∀ e ∈ edges, ∀ i, e.link ≠ .slot i) :
    edges.map (Edge.redirect (s.inserted policy root)) = edges := by
  refine (List.map_congr_left fun e he => ?_).trans (List.map_id edges)
  rw [Edge.redirect, inserted_eq_none]
  · rfl
  · intro hcut
    obtain ⟨-, i, hi, -⟩ := mem_slotEdges.1 (mem_cuts_iff.1 hcut).2.1
    exact h e he i hi

/-- The slots of a model of before lead to the inserted references. -/
lemma slotEdges_split_of_lt (h : n < s.size) : (s.split policy root).slotEdges n =
    (s.slotEdges n).map (Edge.redirect (s.inserted policy root)) := by
  rw [slotEdges, slotEdges, Modelsmith.slotEdges, Modelsmith.slotEdges, slots_split_of_lt h]
  apply List.ext_getElem
  · simp
  · intro i hi hi'
    have hslot : (s.model n).shape.slots[i]? = some _ :=
      List.getElem?_eq_getElem (by simpa using hi')
    simp only [List.getElem_mapIdx, List.getElem_map, Edge.redirect, Edge.mk.injEq, true_and]
    rcases slotAfter_cases hslot with ⟨k, hk, hafter⟩ | ⟨hnot, hafter⟩
    · rw [hafter, inserted_eq_some_iff.2 ⟨k, hk, rfl⟩]
      rfl
    · rw [hafter, inserted_eq_none hnot]
      rfl

/-- Splitting leads the edges of a model of before to the inserted references. -/
lemma edges_split_of_lt (h : n < s.size) : (s.split policy root).edges n =
    (s.edges n).map (Edge.redirect (s.inserted policy root)) := by
  have htargets : targetEdges n ((s.split policy root).model n).shape =
      targetEdges n (s.model n).shape := by
    rw [model_split_of_lt h, targetEdges, targetEdges, Shape.target?_mapSlots]
  have hparents : ((s.split policy root).model n).options.parents =
      (s.model n).options.parents := by
    rw [model_split_of_lt h]
  rw [edges, edges, slotEdges_split_of_lt h, htargets, hparents, List.map_append, List.map_append,
    map_redirect_of_not_slot (targetEdges n _), map_redirect_of_not_slot (parentEdges n _)]
  · intro e he i hlink
    obtain ⟨-, j, hj, -⟩ := mem_mapIdx_edge.1 he
    simp [hj] at hlink
  · intro e he i hlink
    obtain ⟨t, -, rfl⟩ := List.mem_map.1 he
    simp at hlink

/-- The inserted references lead on, and nowhere else if there are no parents. -/
lemma edges_split_add (hparents : s.HasNoParents) {k : Nat}
    (hk : (s.cuts policy root)[k]? = some e) :
    (s.split policy root).edges (s.size + k) = [⟨s.size + k, .target, e.target⟩] := by
  have hoptions : (s.referenceTo (s.model e.target).name e.target).options.parents = [] :=
    hparents e.target
  rw [edges_eq, model_split_add hk, hoptions]
  rfl

/-- Splitting puts references into edges. -/
theorem split_isInsertion (hparents : s.HasNoParents) (hclosed : s.IsClosed root)
    (policy : SplitPolicy) :
    IsInsertion s.edges s.size root (s.inserted policy root) (s.split policy root).edges
      (s.split policy root).size where
  range := hclosed
  source := s.edges_source
  nodup n := s.edges_eq n ▸ allEdges_nodup _ _ _
  size_le := by
    rw [size_split]
    exact Nat.le_add_right _ _
  new e r hr := by
    obtain ⟨k, hk, rfl⟩ := inserted_eq_some_iff.1 hr
    have hlt : k < (s.cuts policy root).length := (List.getElem?_eq_some_iff.1 hk).1
    rw [size_split]
    exact ⟨Nat.le_add_right _ _, Nat.add_lt_add_left hlt _⟩
  own e e' r hr hr' := by
    obtain ⟨k, hk, rfl⟩ := inserted_eq_some_iff.1 hr
    obtain ⟨k', hk', heq⟩ := inserted_eq_some_iff.1 hr'
    obtain rfl : k = k' := Nat.add_left_cancel heq
    exact Option.some.inj (hk.symm.trans hk')
  old n hn := edges_split_of_lt hn
  onward e r hr := by
    obtain ⟨k, hk, rfl⟩ := inserted_eq_some_iff.1 hr
    exact edges_split_add hparents hk

section Insertion

variable (hparents : s.HasNoParents) (hclosed : s.IsClosed root)
include hparents hclosed

lemma split_isClosed : (s.split policy root).IsClosed root :=
  fun _ => (split_isInsertion hparents hclosed policy).range_new

lemma mem_reached_split (hn : n ∈ s.reached root) : n ∈ (s.split policy root).reached root := by
  rw [mem_reached_iff hclosed] at hn
  rw [mem_reached_iff (split_isClosed hparents hclosed)]
  exact (split_isInsertion hparents hclosed policy).reaches_of_old hn

/-- Splitting keeps which links lead back. -/
lemma leadsBack_split_iff {m t : ModelId} (hm : m ∈ s.reached root) (ht : t ∈ s.reached root) :
    (s.split policy root).LeadsBack root m t ↔ s.LeadsBack root m t := by
  have hmlt : m < s.size := lt_size_of_mem_walkOrder hm
  have htlt : t < s.size := lt_size_of_mem_walkOrder ht
  rw [LeadsBack, LeadsBack, variant_split_of_lt htlt,
    (split_isInsertion hparents hclosed policy).onPath_iff htlt hmlt]

end Insertion

/-! ## References of a split schema -/

/-- A model of before refers to what it referred to. -/
lemma target?_split_of_lt (h : n < s.size) :
    ((s.split policy root).model n).shape.target? = (s.model n).shape.target? := by
  rw [model_split_of_lt h, Shape.target?_mapSlots]

/-- The policy never applies to references. -/
lemma target?_eq_none_of_applies (h : policy.applies (s.model n).variant = true) :
    (s.model n).shape.target? = none := by
  rw [Model.variant] at h
  cases hshape : (s.model n).shape with
  | reference t =>
    rw [hshape] at h
    cases h
  | _ => rfl

/-- A reference of a split schema is one of before, or it is new and refers to no reference. -/
lemma target?_split_cases {t : ModelId}
    (h : ((s.split policy root).model n).shape.target? = some t) :
    (s.model n).shape.target? = some t ∨
      ((s.split policy root).model t).shape.target? = none := by
  rcases split_cases s policy root n with hlt | ⟨e, he, hmodel⟩ | hmodel
  · rw [target?_split_of_lt hlt] at h
    exact .inl h
  · rw [hmodel] at h
    obtain rfl : e.target = t := Option.some.inj h
    have happlies := (mem_cuts_iff.1 he).2.2
    rw [target?_split_of_lt (lt_size_of_applies happlies)]
    exact .inr (target?_eq_none_of_applies happlies)
  · rw [hmodel] at h
    cases h

/-- Splitting makes no cycles of references. -/
lemma split_hasNoReferenceCycle (hcycle : s.HasNoReferenceCycle) :
    (s.split policy root).HasNoReferenceCycle := by
  have hold : ∀ {a b : ModelId}, Relation.TransGen
      (fun m t => ((s.split policy root).model m).shape.target? = some t) a b →
      ((s.split policy root).model b).shape.target? ≠ none →
      Relation.TransGen (fun m t => (s.model m).shape.target? = some t) a b := by
    intro a b hab hb
    induction hab with
    | single hstep => exact .single ((target?_split_cases hstep).resolve_right hb)
    | tail _ hstep ih =>
      exact (ih (by simp [hstep])).tail ((target?_split_cases hstep).resolve_right hb)
  -- every model of a cycle refers to another one, so that no new reference is among them
  intro id hid
  obtain ⟨t, hfirst, -⟩ := Relation.TransGen.head'_iff.1 hid
  exact hcycle id (hold hid (by simp [hfirst]))

/-- What typing needs of a schema holds of the split schema, too. -/
lemma split_ready (policy : SplitPolicy) (hparents : s.HasNoParents) (hclosed : s.IsClosed root)
    (hcycle : s.HasNoReferenceCycle) (hn : n ∈ s.reached root) :
    (s.split policy root).IsClosed root ∧ (s.split policy root).HasNoReferenceCycle ∧
      n ∈ (s.split policy root).reached root :=
  ⟨split_isClosed hparents hclosed, split_hasNoReferenceCycle hcycle,
    mem_reached_split hparents hclosed hn⟩

end Schema

end Modelsmith
