/-
# Types in terms of the schema

What the types of a blueprint are written from can be told from the schema.  A slot has the
type of the part of what the model holds there, unless the slot leads back; then it has the
type of any value.  And a reference resolves to the name of the model at the end of its trail
in the schema.
-/
import Modelsmith.Proofs.References
import Modelsmith.Proofs.TypeConsistency

namespace Modelsmith

namespace Schema

variable {s : Schema} {rules : NamingRules} {table : TypeTable} {root m c : ModelId}
  {b : Blueprint}

/-- The model that a model refers to directly. -/
def target? (s : Schema) (id : ModelId) : Option ModelId := (s.model id).shape.target?

/-- A slot of a part holds the part of what the model holds there, or, if that leads back, a
part of any value. -/
lemma blueprint_slot (hsafe : table.isSafe = Variant.isSelfContained) (hclosed : s.IsClosed root)
    (h : s.blueprint table rules root = .ok b) (hm : m ∈ s.reached root) {i : Nat}
    (hslot : (s.model m).shape.slots[i]? = some c) :
    (s.LeadsBack root m c ∧ ∃ j < b.size, (b.part j).variant = .any ∧
        (b.part (s.placeOf root m)).shape.slots[i]? = some j) ∨
      (¬ s.LeadsBack root m c ∧
        (b.part (s.placeOf root m)).shape.slots[i]? = some (s.placeOf root c)) := by
  obtain ⟨b₀, hlower, hcuts, hcut⟩ := blueprint_isCut h
  have hlt : s.placeOf root m < b₀.size := lower_size hlower ▸ placeOf_lt_length hm
  have he : (⟨m, .slot i, c⟩ : Edge) ∈ s.edges m := mem_edges.2 ⟨rfl, hslot⟩
  have he₀ : (⟨m, .slot i, c⟩ : Edge).rename (s.placeOf root) ∈ b₀.edges (s.placeOf root m) := by
    rw [lower_edges hlower hm]
    exact List.mem_map.2 ⟨_, he, rfl⟩
  have hiff := mem_cutsOf_iff table hclosed hlower (e := ⟨m, .slot i, c⟩) hm he
  rw [hsafe] at hiff
  have hslots : (b₀.part (s.placeOf root m)).shape.slots[i]? = some (s.placeOf root c) := by
    rw [(lowerShape_mirrors (lower_part hlower hm).shape).slots_eq, List.getElem?_map, hslot,
      Option.map_some]
  rw [hcut.shape_kept hlt, Shape.slots_relink, List.getElem?_mapIdx, hslots, Option.map_some]
  rcases hcuts.endAfter_cases he₀ with ⟨k, hk, hend⟩ | ⟨hnot, hend⟩
  · refine .inl ⟨hiff.1 (List.mem_of_getElem? hk), b₀.size + k, ?_, ?_, congrArg some hend⟩
    · have hlt : k < _ := (List.getElem?_eq_some_iff.1 hk).1
      rw [hcut.size_of_bare]
      exact Nat.add_lt_add_left hlt _
    · rw [Part.variant, ← Part.shape_bare, hcut.part_stand hk]
      rfl
  · exact .inr ⟨fun hback => hnot (hiff.2 hback), congrArg some hend⟩

open Classical in
/-- The type that a slot of `m` with the content `c` has in a blueprint: that of any value if it
leads back, and that of its content otherwise. -/
noncomputable def slotType (s : Schema) (root : ModelId) (b : Blueprint) (m c : ModelId) :
    String :=
  if s.LeadsBack root m c then "any" else (b.part (s.placeOf root c)).type

lemma slotType_of_leadsBack (hback : s.LeadsBack root m c) : s.slotType root b m c = "any" :=
  if_pos hback

lemma slotType_of_not_leadsBack (hback : ¬ s.LeadsBack root m c) :
    s.slotType root b m c = (b.part (s.placeOf root c)).type :=
  if_neg hback

section Settled

variable (hlocal : table.IsLocal) (hclosed : s.IsClosed root) (hcycle : s.HasNoReferenceCycle)
  (h : s.blueprint table rules root = .ok b)
include hlocal hclosed hcycle h

/-- Every part of a blueprint is settled. -/
lemma blueprint_settled {id : ModelId} (hid : id < b.size) : b.Settled table id := by
  obtain ⟨b₀, hlower, hrun⟩ := bind_eq_ok.1 h
  obtain ⟨progress, hwalk⟩ := walkState_walk b₀.edges b₀.size b₀.root
  refine Blueprint.settled_of_run (lower_isReady hlocal hclosed hcycle hlower) hwalk hrun id hid ?_
  rcases Nat.lt_or_ge id b₀.size with hlt | hge
  · exact .inr (.inl (hwalk.done_of_entered (lower_entered hclosed hlower hlt)))
  · exact .inl hge

/-- The types in the slots of a part, if parts of any value have the type `"any"`. -/
lemma blueprint_slotTypes
    (hany : ∀ ctx : TypeContext, ctx.part.variant = .any → table.typeOf ctx = .ok "any")
    (hm : m ∈ s.reached root) :
    (b.part (s.placeOf root m)).shape.slots.map (fun j => (b.part j).type) =
      (s.model m).shape.slots.map (s.slotType root b m) := by
  have hlength : (b.part (s.placeOf root m)).shape.slots.length =
      (s.model m).shape.slots.length := by
    obtain ⟨b₀, hlower, -, hcut⟩ := blueprint_isCut h
    rw [hcut.shape_kept (lower_size hlower ▸ placeOf_lt_length hm), Shape.slots_relink,
      (lowerShape_mirrors (lower_part hlower hm).shape).slots_eq, List.length_mapIdx,
      List.length_map]
  apply List.ext_getElem
  · simpa using hlength
  · intro i hi hi'
    rw [List.length_map] at hi hi'
    have hslot : (s.model m).shape.slots[i]? = some _ := List.getElem?_eq_getElem hi'
    rw [List.getElem_map, List.getElem_map]
    rcases blueprint_slot hlocal.isSafe hclosed h hm hslot with
      ⟨hback, j, hj, hvariant, hcontent⟩ | ⟨hback, hcontent⟩
    · rw [slotType_of_leadsBack hback, (List.getElem?_eq_some_iff.1 hcontent).2]
      have hwritten := blueprint_settled hlocal hclosed hcycle h hj none
      rw [hany { blueprint := b, id := j } hvariant] at hwritten
      exact (Except.ok.inj hwritten).symm
    · rw [slotType_of_not_leadsBack hback, (List.getElem?_eq_some_iff.1 hcontent).2]

end Settled

/-! ## Trails -/

section Trails

variable (hclosed : s.IsClosed root)
include hclosed

/-- Without cycles of references every reached model has a trail of references. -/
lemma exists_reached_trail (hcycle : s.HasNoReferenceCycle) (hm : m ∈ s.reached root) :
    ∃ path last, Trail s.target? m path last := by
  -- the steps from reached models stay within the schema
  let next : ModelId → Option ModelId := fun i => if i ∈ s.reached root then s.target? i else none
  have hnext : ∀ {i j : ModelId}, next i = some j → s.target? i = some j ∧ j ∈ s.reached root := by
    intro i j hij
    by_cases hi : i ∈ s.reached root
    · have htarget : s.target? i = some j := by rwa [← if_pos (t := s.target? i) hi]
      exact ⟨htarget, mem_reached_of_end hclosed .target hi htarget⟩
    · simp [next, hi] at hij
  have htrail : ∃ path last, Trail next m path last := by
    refine exists_trail s.size (fun i hi => hcycle i ?_) ?_ (lt_size_of_mem_walkOrder hm)
    · exact hi.lift id fun a c hac => (hnext hac).1
    · exact fun i j hij _ => lt_size_of_mem_walkOrder (hnext hij).2
  obtain ⟨path, last, htrail⟩ := htrail
  have hold : Trail s.target? (id m) (path.map id) (id last) ∧ last ∈ s.reached root :=
    htrail.map (P := (· ∈ s.reached root)) hm (fun i hi => by simp [next, hi])
      (fun i j _ hij => (hnext hij).2)
  exact ⟨_, _, hold.1⟩

/-- A part resolves to the name of the model at the end of the trail of its model. -/
lemma blueprint_resolvedName (hlocal : table.IsLocal) (hcycle : s.HasNoReferenceCycle)
    (h : s.blueprint table rules root = .ok b) (hm : m ∈ s.reached root) {path : List ModelId}
    {last : ModelId} (htrail : Trail s.target? m path last)
    (property : Option (Property String)) :
    rules.modelName s (s.model last) = .ok (TypeContext.resolvedName
      { blueprint := b, id := s.placeOf root m, property }) := by
  obtain ⟨b₀, hlower, hcuts, hcut⟩ := blueprint_isCut h
  have hready := lower_isReady hlocal hclosed hcycle hlower
  obtain ⟨htrail₀, hlast⟩ : Trail b₀.target? (s.placeOf root m) (path.map (s.placeOf root))
      (s.placeOf root last) ∧ last ∈ s.reached root :=
    htrail.map (P := (· ∈ s.reached root)) hm
      (fun i hi => (lowerShape_mirrors (lower_part hlower hi).shape).target?_eq)
      (fun i j hi hij => mem_reached_of_end hclosed .target hi hij)
  rw [hcut.resolvedName_eq hcuts hready.isClosed (fun v hv => hready.cut_ne_reference hv) htrail₀
    (lower_size hlower ▸ placeOf_lt_length hm)]
  exact (lower_part hlower hlast).name

end Trails

end Schema

end Modelsmith
