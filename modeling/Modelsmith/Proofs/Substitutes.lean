/-
# Parts that stand for others

A slot that leads back gets a part of any value.  This is needed where the type of the content
would contain itself: where the content lies on a cycle of slots through models whose types
contain other types.  But the walk stays inside of such a model as long as it is below it, also
below objects and references on the way, whose types do not depend on the model.  So a slot is
led to a part of any value for one of two reasons: the type of its content contains itself, or
the walk has come to the slot on a detour through a model with a type of its own, or through a
parent.
-/
import Modelsmith.Proofs.Links

namespace Modelsmith

namespace Schema

variable {s : Schema} {rules : NamingRules} {table : TypeTable} {root m c : ModelId}
  {b : Blueprint} {e : Edge} {i : Nat}

/-- The type of `m` contains the type of `c`, which it holds in a slot. -/
def Contains (s : Schema) (m c : ModelId) : Prop :=
  (s.model m).variant.isSelfContained = false ∧ c ∈ (s.model m).shape.slots

/-- The type of a model contains itself: the model lies on a cycle of slots through models
whose types contain other types. -/
def ContainsItself (s : Schema) (c : ModelId) : Prop := Relation.TransGen s.Contains c c

/-- An edge that does not lead from a type to one that it contains: it leaves a model with a
type of its own, or it leads to a parent. -/
def Escapes (s : Schema) (e : Edge) : Prop :=
  (s.model e.source).variant.isSelfContained = true ∨ ∃ i, e.link = .parent i

/-- The walk from `root` comes from `c` to a slot of `m` on a detour: some edge on its path
escapes, or `m` has a type of its own. -/
def Detours (s : Schema) (root c m : ModelId) : Prop :=
  (s.model m).variant.isSelfContained = true ∨
    ∃ e : Edge, .enter e.visit ∈ walk s.edges s.size root ∧ s.Escapes e ∧
      OnPath (walk s.edges s.size root) c e.source ∧ OnPath (walk s.edges s.size root) e.target m

/-- An edge that does not escape leads to the content of a slot. -/
lemma contains_of_not_escapes (he : e ∈ s.edges e.source) (hescapes : ¬ s.Escapes e) :
    s.Contains e.source e.target := by
  obtain ⟨hown, hparent⟩ := not_or.1 hescapes
  have hother : (s.model e.source).variant.isSelfContained = false := by simpa using hown
  obtain ⟨-, hend⟩ := mem_edges.1 he
  cases hlink : e.link with
  | slot i =>
    rw [hlink] at hend
    exact ⟨hother, List.mem_of_getElem? hend⟩
  | target =>
    -- only references have a target, and their types are their own
    rw [hlink] at hend
    have hshape := Shape.target?_eq_some.1 hend
    rw [Model.variant, hshape] at hother
    cases hother
  | parent i => exact absurd ⟨i, hlink⟩ hparent

/-- A path of the walk leads from types to types that they contain, unless an edge escapes. -/
lemma contains_or_escapes_of_onPath (hpath : OnPath (walk s.edges s.size root) c m) :
    Relation.ReflTransGen s.Contains c m ∨
      ∃ e : Edge, .enter e.visit ∈ walk s.edges s.size root ∧ s.Escapes e ∧
        OnPath (walk s.edges s.size root) c e.source ∧
        OnPath (walk s.edges s.size root) e.target m := by
  obtain ⟨progress, hwalk⟩ := walkState_walk s.edges s.size root
  induction hpath with
  | refl => exact .inl .refl
  | @tail a d hca hfrom ih =>
    rcases ih with hcontains | ⟨e, hentered, hescapes, hce, hea⟩
    · obtain ⟨e, hentered, rfl, rfl⟩ := hfrom
      by_cases hescapes : s.Escapes e
      · exact .inr ⟨e, hentered, hescapes, hca, .refl⟩
      · obtain ⟨-, n, -, he⟩ := hwalk.arrival_edge hentered rfl rfl
        obtain rfl := s.edges_source n e he
        exact .inl (hcontains.tail (contains_of_not_escapes he hescapes))
    · exact .inr ⟨e, hentered, hescapes, hce, hea.tail hfrom⟩

/-- A slot that leads back to its content has a content whose type contains itself, unless the
walk has made a detour. -/
lemma LeadsBack.containsItself_or_detours (hback : s.LeadsBack root m c)
    (hslot : c ∈ (s.model m).shape.slots) : s.ContainsItself c ∨ s.Detours root c m := by
  by_cases hown : (s.model m).variant.isSelfContained = true
  · exact .inr (.inl hown)
  · have hlast : s.Contains m c := ⟨by simpa using hown, hslot⟩
    rcases contains_or_escapes_of_onPath hback.2 with hcontains | hescape
    · exact .inl (.tail' hcontains hlast)
    · exact .inr (.inr hescape)

section Slots

variable (hsafe : table.isSafe = Variant.isSelfContained) (hclosed : s.IsClosed root)
  (h : s.blueprint table rules root = .ok b)
include hsafe hclosed h

/-- A slot of a blueprint holds a part that stands for its content exactly if it leads back, and
the part of its content otherwise. -/
lemma exists_slot_part (hm : Reaches s.edges root m)
    (hslot : (s.model m).shape.slots[i]? = some c) :
    ∃ j, (b.part (s.placeOf root m)).shape.slots[i]? = some j ∧
      (s.IsStandFor root b c j ↔ s.LeadsBack root m c) ∧
      (j = s.placeOf root c ↔ ¬ s.LeadsBack root m c) := by
  rw [← mem_reached_iff hclosed] at hm
  have he : (⟨m, .slot i, c⟩ : Edge) ∈ s.contentEdges m :=
    mem_contentEdges.2 ⟨mem_edges.2 ⟨rfl, hslot⟩, by simp⟩
  have hc : s.placeOf root c < (s.reached root).length :=
    placeOf_lt_length (mem_reached_of_end hclosed (.slot i) hm hslot)
  obtain ⟨j, hj, hend⟩ := exists_part_edge hsafe hclosed h hm he
  refine ⟨j, (Blueprint.mem_edges.1 (Blueprint.mem_contentEdges.1 hj).1).2, ?_⟩
  rcases hend with ⟨hback, hstand⟩ | ⟨hback, rfl⟩
  · have hne : j ≠ s.placeOf root c := fun hplace =>
      absurd hc (Nat.not_lt.2 (hplace ▸ hstand.further))
    exact ⟨iff_of_true hstand hback, iff_of_false hne (not_not.2 hback)⟩
  · have hnot : ¬ s.IsStandFor root b c (s.placeOf root c) := fun hstand =>
      absurd hc (Nat.not_lt.2 hstand.further)
    exact ⟨iff_of_false hnot hback, iff_of_true rfl hback⟩

/-- If a table has the usual safe variants, a slot of a blueprint holds a part that stands for
the content of the slot exactly if the slot leads back, and the part of its content otherwise.
All slots that hold such a part have contents whose types contain themselves exactly if this is
so for those to which the walk comes on a detour. -/
theorem slot_substitutes :
    (∀ (m : ModelId) (i : Nat) (c : ModelId), Reaches s.edges root m →
      (s.model m).shape.slots[i]? = some c →
      ∃ j, (b.part (s.placeOf root m)).shape.slots[i]? = some j ∧
        (s.IsStandFor root b c j ↔ s.LeadsBack root m c) ∧
        (j = s.placeOf root c ↔ ¬ s.LeadsBack root m c)) ∧
      ((∀ (m : ModelId) (i : Nat) (c j : ModelId), Reaches s.edges root m →
          (s.model m).shape.slots[i]? = some c →
          (b.part (s.placeOf root m)).shape.slots[i]? = some j → s.IsStandFor root b c j →
          s.ContainsItself c) ↔
        ∀ (m : ModelId) (i : Nat) (c : ModelId), Reaches s.edges root m →
          (s.model m).shape.slots[i]? = some c → s.LeadsBack root m c → s.Detours root c m →
          s.ContainsItself c) := by
  refine ⟨fun m i c hm hslot => exists_slot_part hsafe hclosed h hm hslot, ?_, ?_⟩
  · intro hall m i c hm hslot hback _
    obtain ⟨j, hj, hstand, -⟩ := exists_slot_part hsafe hclosed h hm hslot
    exact hall m i c j hm hslot hj (hstand.2 hback)
  · intro hall m i c j hm hslot hj hstand
    obtain ⟨j', hj', hiff, -⟩ := exists_slot_part hsafe hclosed h hm hslot
    obtain rfl := Option.some.inj (hj'.symm.trans hj)
    have hback := hiff.1 hstand
    rcases hback.containsItself_or_detours (List.mem_of_getElem? hslot) with hself | hdetour
    · exact hself
    · exact hall m i c hm hslot hback hdetour

end Slots

/-! ## A union of an object that holds the union -/

/-- A union of an object that holds the union in a property. -/
def cellSample : Schema :=
  ⟨#[plain "u" (.union [1]), plain "o" (.object [⟨"u", 0, true, 1, ()⟩])]⟩

lemma cellSample_isClosed : cellSample.IsClosed 0 := isClosed_of_range (by decide) (by decide)

/-- The type of the union contains the name of the object and nothing else. -/
lemma cellSample_not_containsItself : ¬ cellSample.ContainsItself 0 := by
  intro hself
  obtain ⟨c, ⟨-, hc⟩, hrest⟩ := Relation.TransGen.head'_iff.1 hself
  obtain rfl : c = 1 := by simpa [cellSample, model, plain, Shape.slots] using hc
  rcases Relation.ReflTransGen.cases_head hrest with heq | ⟨d, ⟨hother, -⟩, -⟩
  · simp at heq
  · simp [cellSample, model, plain, Model.variant, Shape.variant, Variant.isSelfContained] at hother

/-- The property of the object holds a part of any value in the place of the union, although
no type contains itself. -/
theorem slot_substitutes_cellSample :
    ¬ cellSample.ContainsItself 0 ∧
      ∃ b, cellSample.blueprint Sketch.types (Sketch.rules {}) 0 = .ok b ∧
        b.parts.toList.map (fun p => (p.source, p.variant, p.shape.slots)) =
          [(0, .union, [1]), (1, .object, [2]), (0, .any, [])] := by
  have hrun : (cellSample.blueprintWithin Sketch.types (Sketch.rules {}) 0 9).any
      (fun b => b.parts.toList.map (fun p => (p.source, p.variant, p.shape.slots)) =
        [(0, .union, [1]), (1, .object, [2]), (0, .any, [])]) = true := by
    decide +kernel
  obtain ⟨b, hb, hparts⟩ := blueprint_of_within hrun
  exact ⟨cellSample_not_containsItself, b, hb, of_decide_eq_true hparts⟩

/-- The property leads back to the union, and the walk has come to it through the object. -/
theorem cellSample_detours : cellSample.LeadsBack 0 1 0 ∧ cellSample.Detours 0 0 1 := by
  have hrun : (cellSample.blueprintWithin Sketch.types (Sketch.rules {}) 0 9).any
      (fun b => (b.part 1).shape.slots[0]? = some 2) = true := by
    decide +kernel
  obtain ⟨b, hb, hslot⟩ := blueprint_of_within hrun
  have hreached : cellSample.reached 0 = [0, 1] := reached_of_within 9 (by decide +kernel)
  have hplace : cellSample.placeOf 0 1 = 1 ∧ cellSample.placeOf 0 0 = 0 := by
    rw [placeOf, placeOf, hreached]
    decide
  have hreaches : Reaches cellSample.edges 0 1 := .single ⟨⟨0, .slot 0, 1⟩, by decide, rfl⟩
  obtain ⟨hslots, -⟩ := slot_substitutes rfl cellSample_isClosed hb
  obtain ⟨j, hj, -, hkept⟩ := hslots 1 0 0 hreaches rfl
  rw [hplace.1, of_decide_eq_true hslot] at hj
  obtain rfl := Option.some.inj hj
  rw [hplace.2] at hkept
  refine ⟨?_, .inl rfl⟩
  by_contra hback
  exact absurd (hkept.2 hback) (by decide)

end Schema

end Modelsmith
