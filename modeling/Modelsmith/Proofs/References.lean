/-
# Targets of references

A reference of a blueprint refers to the part of its target, unless its edge is cut.  Whether
an edge is cut is known from the walk through the schema: it has to lead to a model whose type
contains other types, and this model has to be on the path along which the walk comes to the
start of the edge.  References are no exception, although their types depend on names only;
then they refer to a part of any value, and two of them to different ones.
-/
import Modelsmith.Proofs.Correspondence
import Modelsmith.Proofs.Walk.Path

namespace Modelsmith

namespace Schema

variable {s : Schema} {rules : NamingRules} {table : TypeTable} {root : ModelId}
  {b b₀ : Blueprint}

/-- The event at which the walk through the schema comes to the end of an edge again is known
from its place in a lowered blueprint. -/
lemma again_of_rename {e : Edge} {event : Event} (hevent : event ∈ walk s.edges s.size root)
    (hsource : e.source ∈ s.reached root) (he : e ∈ s.edges e.source)
    (heq : event.rename (s.placeOf root) = .again (e.rename (s.placeOf root)).visit true) :
    event = .again e.visit true := by
  obtain ⟨progress, h⟩ := walkState_walk s.edges s.size root
  cases event with
  | again v o =>
    simp only [Event.rename, Event.again.injEq] at heq
    obtain ⟨hv, rfl⟩ := heq
    obtain ⟨-, -, e', -, rfl⟩ := h.again_open hevent
    obtain ⟨-, n, hn, he'⟩ := h.arrival_edge hevent rfl rfl
    obtain rfl : e'.source = n := s.edges_source n e' he'
    have hrename : e'.rename (s.placeOf root) = e.rename (s.placeOf root) := Edge.visit_inj.1 hv
    obtain ⟨hplace, hlink, -⟩ := Edge.mk.inj hrename
    have hsame : e'.source = e.source := placeOf_inj hn hsource hplace
    rw [hsame] at he'
    obtain rfl : e' = e := edge_unique he' he hlink
    rfl
  | enter v => simp [Event.rename] at heq
  | leave v => simp [Event.rename] at heq

/-- An edge leads back on the walk through a lowered blueprint if it does so in the schema. -/
lemma again_rename_iff (hclosed : s.IsClosed root) (hlower : s.lower rules root = .ok b₀)
    {e : Edge} (hsource : e.source ∈ s.reached root) (he : e ∈ s.edges e.source) :
    .again (e.rename (s.placeOf root)).visit true ∈ walk b₀.edges b₀.size b₀.root ↔
      .again e.visit true ∈ walk s.edges s.size root := by
  rw [lower_walk hclosed hlower, List.mem_map]
  constructor
  · rintro ⟨event, hevent, heq⟩
    exact again_of_rename hevent hsource he heq ▸ hevent
  · intro hagain
    exact ⟨_, hagain, rfl⟩

/-- The edges that typing cuts: those that lead back, along the path of the walk through the
schema, to a model without a safe variant. -/
theorem mem_cutsOf_iff (table : TypeTable) (hclosed : s.IsClosed root)
    (hlower : s.lower rules root = .ok b₀) {e : Edge} (hsource : e.source ∈ s.reached root)
    (he : e ∈ s.edges e.source) :
    (e.rename (s.placeOf root)).visit ∈ b₀.cutsOf table (walk b₀.edges b₀.size b₀.root) ↔
      table.isSafe (s.model e.target).variant = false ∧
        OnPath (walk s.edges s.size root) e.target e.source := by
  have htarget : e.target ∈ s.reached root :=
    (mem_reached_iff hclosed).2 (((mem_reached_iff hclosed).1 hsource).tail ⟨e, he, rfl⟩)
  have hvariant : (b₀.part (s.placeOf root e.target)).variant = (s.model e.target).variant :=
    (lowerShape_mirrors (lower_part hlower htarget).shape).variant_eq
  have hnode : (e.rename (s.placeOf root)).visit.node = s.placeOf root e.target := rfl
  rw [Blueprint.mem_cutsOf, again_rename_iff hclosed hlower hsource he, hnode, hvariant,
    again_mem_iff s.edges_source hsource he, and_comm]

/-- Whether a reference to `t` from `m` leads back, along the path of the walk, to a model
whose type contains other types. -/
def LeadsBack (s : Schema) (root m t : ModelId) : Prop :=
  (s.model t).variant.isSelfContained = false ∧ OnPath (walk s.edges s.size root) t m

section Reference

variable (hsafe : table.isSafe = Variant.isSelfContained) (hclosed : s.IsClosed root)
  (hlower : s.lower rules root = .ok b₀)
  (hcut : b₀.IsCut (b₀.cutsOf table (walk b₀.edges b₀.size b₀.root)) b.bare)
  (hcuts : b₀.AreCuts (b₀.cutsOf table (walk b₀.edges b₀.size b₀.root)))
include hsafe hclosed hlower hcut hcuts

/-- A reference refers to the part of its target, or to the part of its cut. -/
lemma reference_cases {m t : ModelId} (hm : m ∈ s.reached root)
    (hshape : (s.model m).shape = .reference t) :
    (¬ s.LeadsBack root m t ∧
        (b.part (s.placeOf root m)).shape = .reference (s.placeOf root t)) ∨
      (s.LeadsBack root m t ∧ ∃ k,
        (b₀.cutsOf table (walk b₀.edges b₀.size b₀.root))[k]? =
          some ((⟨m, .target, t⟩ : Edge).rename (s.placeOf root)).visit ∧
        (b.part (s.placeOf root m)).shape = .reference (b₀.size + k)) := by
  have hlt : s.placeOf root m < b₀.size := lower_size hlower ▸ placeOf_lt_length hm
  have he : (⟨m, .target, t⟩ : Edge) ∈ s.edges m := mem_edges.2 ⟨rfl, by rw [hshape]; rfl⟩
  have he₀ : (⟨m, .target, t⟩ : Edge).rename (s.placeOf root) ∈ b₀.edges (s.placeOf root m) := by
    rw [lower_edges hlower hm]
    exact List.mem_map.2 ⟨_, he, rfl⟩
  have hiff := mem_cutsOf_iff table hclosed hlower (e := ⟨m, .target, t⟩) hm he
  rw [hsafe] at hiff
  have hshape₀ : (b₀.part (s.placeOf root m)).shape = .reference (s.placeOf root t) := by
    have hlowered := (lower_part hlower hm).shape
    rw [lowerShape, hshape] at hlowered
    exact (pure_eq_ok.1 hlowered).symm
  rw [hcut.shape_kept hlt]
  simp only [hshape₀, Shape.relink]
  rcases hcuts.endAfter_cases he₀ with ⟨k, hk, hend⟩ | ⟨hnot, hend⟩
  · exact .inr ⟨hiff.1 (List.mem_of_getElem? hk), k, hk, congrArg _ hend⟩
  · exact .inl ⟨fun hback => hnot (hiff.2 hback), congrArg _ hend⟩

end Reference

/-- If a table has the usual safe variants, a reference refers to the part of its target
exactly if it does not lead back; and two references to one model refer to the same part
exactly if neither leads back, or they are the same. -/
theorem reference_targets (hsafe : table.isSafe = Variant.isSelfContained)
    (hclosed : s.IsClosed root) (h : s.blueprint table rules root = .ok b) {m t : ModelId}
    (hm : Reaches s.edges root m) (hshape : (s.model m).shape = .reference t) :
    ((b.part (s.placeOf root m)).shape = .reference (s.placeOf root t) ↔
        ¬ s.LeadsBack root m t) ∧
      ∀ m', Reaches s.edges root m' → (s.model m').shape = .reference t →
        ((b.part (s.placeOf root m)).shape = (b.part (s.placeOf root m')).shape ↔
          m = m' ∨ (¬ s.LeadsBack root m t ∧ ¬ s.LeadsBack root m' t)) := by
  obtain ⟨b₀, hlower, hcuts, hcut⟩ := blueprint_isCut h
  rw [← mem_reached_iff hclosed] at hm
  have htarget : s.placeOf root t < b₀.size := by
    rw [lower_size hlower]
    exact placeOf_lt_length (mem_reached_of_end hclosed .target hm (by rw [hshape]; rfl))
  have hcases := reference_cases hsafe hclosed hlower hcut hcuts hm hshape
  refine ⟨?_, fun m' hm' hshape' => ?_⟩
  · rcases hcases with ⟨hback, heq⟩ | ⟨hback, k, -, heq⟩
    · simp [heq, hback]
    · have hne : b₀.size + k ≠ s.placeOf root t := by lia
      simp [heq, hback, hne]
  · rw [← mem_reached_iff hclosed] at hm'
    have hcases' := reference_cases hsafe hclosed hlower hcut hcuts hm' hshape'
    rcases hcases with ⟨hback, heq⟩ | ⟨hback, k, hk, heq⟩ <;>
      rcases hcases' with ⟨hback', heq'⟩ | ⟨hback', k', hk', heq'⟩
    · simp [heq, heq', hback, hback']
    · have hm : m ≠ m' := by
        rintro rfl
        exact hback hback'
      have hne : s.placeOf root t ≠ b₀.size + k' := by lia
      simp [heq, heq', hback', hm, hne]
    · have hm : m ≠ m' := by
        rintro rfl
        exact hback' hback
      have hne : b₀.size + k ≠ s.placeOf root t := by lia
      simp [heq, heq', hback, hm, hne]
    · -- different references are cut at different places
      have hsame : k = k' ↔ m = m' := by
        constructor
        · rintro rfl
          rw [hk, Option.some.injEq, Edge.visit_inj] at hk'
          exact placeOf_inj hm hm' (congrArg Edge.source hk')
        · rintro rfl
          have hlt : k < _ := (List.getElem?_eq_some_iff.1 hk).1
          exact (List.getElem?_inj hlt hcuts.nodup).1 (hk.trans hk'.symm)
      simp [heq, heq', hback, hsame]

/-- The two references refer to parts of any value, each to its own, and not to the union. -/
theorem reference_targets_pairSample :
    (pairSample.model 1).shape.target? = some 0 ∧ (pairSample.model 2).shape.target? = some 0 ∧
      ∃ b, pairSample.blueprint Sketch.types (Sketch.rules {}) 0 = .ok b ∧
        b.parts.toList.map (fun p => (p.source, p.variant, p.shape.target?)) =
          [(0, .union, none), (1, .reference, some 3), (2, .reference, some 4), (0, .any, none),
            (0, .any, none)] := by
  have hrun : (pairSample.blueprintWithin Sketch.types (Sketch.rules {}) 0 9).any
      (fun b => b.parts.toList.map (fun p => (p.source, p.variant, p.shape.target?)) =
        [(0, .union, none), (1, .reference, some 3), (2, .reference, some 4), (0, .any, none),
          (0, .any, none)]) = true := by
    decide +kernel
  obtain ⟨b, hb, hparts⟩ := blueprint_of_within hrun
  exact ⟨rfl, rfl, b, hb, of_decide_eq_true hparts⟩

/-- The walk comes to the first reference from the union that it refers to. -/
theorem pairSample_leadsBack : pairSample.LeadsBack 0 1 0 := by
  have hrun : (pairSample.blueprintWithin Sketch.types (Sketch.rules {}) 0 9).any
      (fun b => (b.part 1).shape.target? = some 3) = true := by
    decide +kernel
  obtain ⟨b, hb, htarget⟩ := blueprint_of_within hrun
  have hreached : pairSample.reached 0 = [0, 1, 2] := reached_of_within 9 (by decide +kernel)
  have hreaches : Reaches pairSample.edges 0 1 := .single ⟨⟨0, .slot 0, 1⟩, by decide, rfl⟩
  have hiff := (reference_targets rfl pairSample_isClosed hb hreaches rfl).1
  by_contra hback
  have hshape : (b.part (pairSample.placeOf 0 1)).shape = .reference (pairSample.placeOf 0 0) :=
    hiff.2 hback
  have hplace : pairSample.placeOf 0 1 = 1 ∧ pairSample.placeOf 0 0 = 0 := by
    rw [placeOf, placeOf, hreached]
    decide
  rw [hplace.1, hplace.2] at hshape
  simp [hshape, Shape.target?] at htarget

end Schema

end Modelsmith
