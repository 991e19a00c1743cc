/-
# Split schemas

Splitting cuts slots: those of the models that the root reaches through slots, as far as they
hold models that become independent.  The slot of the `k`-th cut gets a new reference, which
has the number `size + k`, and nothing else changes.  After splitting there is nothing left to
cut from the same root.
-/
import Mathlib.Data.Set.Card
import Modelsmith.Proofs.Edges
import Modelsmith.Schema.Split

namespace Modelsmith

namespace Shape

variable {ι ρ : Type} {f : Nat → ModelId → ModelId} {shape : Shape ι ρ}

@[simp] lemma variant_mapSlots : (shape.mapSlots f).variant = shape.variant := by
  cases shape <;> rfl

@[simp] lemma target?_mapSlots : (shape.mapSlots f).target? = shape.target? := by
  cases shape <;> rfl

lemma slots_mapSlots : (shape.mapSlots f).slots = shape.slots.mapIdx f := by
  cases shape with
  | object properties => apply List.ext_getElem <;> simp [mapSlots, slots]
  | tuple positions => apply List.ext_getElem <;> simp [mapSlots, slots]
  | _ => rfl

lemma mapSlots_self : shape.mapSlots (fun _ old => old) = shape := by
  cases shape with
  | object properties => exact congrArg object (by apply List.ext_getElem <;> simp)
  | tuple positions => exact congrArg tuple (by apply List.ext_getElem <;> simp)
  | union members => exact congrArg union (by apply List.ext_getElem <;> simp)
  | _ => rfl

end Shape

namespace Schema

variable {s : Schema} {policy : SplitPolicy} {root id : ModelId} {e : Edge}

lemma slotEdges_of_le (h : s.size ≤ id) : s.slotEdges id = [] := by
  rw [slotEdges, model_of_le h]
  rfl

lemma mem_slotEdges : e ∈ s.slotEdges id ↔
    e.source = id ∧ ∃ i, e.link = .slot i ∧ (s.model id).shape.slots[i]? = some e.target :=
  mem_mapIdx_edge

lemma slotEdges_source (s : Schema) (n : ModelId) : ∀ e ∈ s.slotEdges n, e.source = n :=
  fun _ he => (mem_slotEdges.1 he).1

/-- A model has at most one edge for each slot. -/
lemma slotEdge_unique {e' : Edge} (he : e ∈ s.slotEdges id) (he' : e' ∈ s.slotEdges id)
    (hlink : e.link = e'.link) : e = e' :=
  edge_unique ((mem_contents_iff []).1 (List.mem_append_left _ he)).1
    ((mem_contents_iff []).1 (List.mem_append_left _ he')).1 hlink

/-- A model with something in a slot is in range. -/
lemma lt_size_of_slot {i : Nat} {c : ModelId} (h : (s.model id).shape.slots[i]? = some c) :
    id < s.size := by
  by_contra hid
  simp [model_of_le (Nat.not_lt.1 hid), Shape.slots] at h

/-- A model to which a policy applies is in range. -/
lemma lt_size_of_applies (h : policy.applies (s.model id).variant = true) : id < s.size := by
  by_contra hid
  rw [model_of_le (Nat.not_lt.1 hid)] at h
  cases h

/-! ## Cuts -/

/-- Splitting cuts the slots of the reached models that hold models to which the policy
applies. -/
lemma mem_cuts_iff : e ∈ s.cuts policy root ↔
    Reaches s.slotEdges root e.source ∧ e ∈ s.slotEdges e.source ∧
      policy.applies (s.model e.target).variant = true := by
  rw [cuts, List.mem_filter, walkEdges_perm.mem_iff, List.mem_flatMap, ← and_assoc]
  refine and_congr_left fun _ => ?_
  constructor
  · rintro ⟨n, hn, he⟩
    obtain rfl := s.slotEdges_source n e he
    exact ⟨((mem_walkOrder_iff_of_lt fun n => slotEdges_of_le).1 hn).1, he⟩
  · rintro ⟨hreaches, he⟩
    obtain ⟨-, i, -, hslot⟩ := mem_slotEdges.1 he
    exact ⟨_, (mem_walkOrder_iff_of_lt fun n => slotEdges_of_le).2
      ⟨hreaches, lt_size_of_slot hslot⟩, he⟩

lemma cuts_nodup (s : Schema) (policy : SplitPolicy) (root : ModelId) :
    (s.cuts policy root).Nodup := by
  obtain ⟨progress, h⟩ := walkState_walk s.slotEdges s.size root
  refine List.Nodup.filter _ (h.arrivals_nodup s.slotEdges_source fun n => ?_)
  exact nodup_mapIdx_edge (fun i j hij => by simpa using hij) _

/-- What a slot holds after cuts, when it held `old`. -/
def slotAfter (s : Schema) (cuts : List Edge) (id : ModelId) (i : Nat) (old : ModelId) :
    ModelId :=
  match cuts.findIdx? fun e => e.source = id ∧ e.link = .slot i with
  | some k => s.size + k
  | none => old

/-- A slot holds the reference of its cut if it is cut, and what it held otherwise. -/
lemma slotAfter_cases {i : Nat} {c : ModelId} (hslot : (s.model id).shape.slots[i]? = some c) :
    (∃ k, (s.cuts policy root)[k]? = some ⟨id, .slot i, c⟩ ∧
        s.slotAfter (s.cuts policy root) id i c = s.size + k) ∨
      ((⟨id, .slot i, c⟩ : Edge) ∉ s.cuts policy root ∧
        s.slotAfter (s.cuts policy root) id i c = c) := by
  have he : (⟨id, .slot i, c⟩ : Edge) ∈ s.slotEdges id := mem_slotEdges.2 ⟨rfl, i, rfl, hslot⟩
  unfold slotAfter
  cases hfind : (s.cuts policy root).findIdx? fun e => e.source = id ∧ e.link = .slot i with
  | some k =>
    obtain ⟨hlt, hsame, -⟩ := List.findIdx?_eq_some_iff_getElem.1 hfind
    obtain ⟨hsource, hlink⟩ := of_decide_eq_true hsame
    obtain ⟨-, he', -⟩ := mem_cuts_iff.1 (List.getElem_mem hlt)
    rw [hsource] at he'
    refine .inl ⟨k, ?_, rfl⟩
    rw [List.getElem?_eq_getElem hlt, slotEdge_unique he' he hlink]
  | none =>
    refine .inr ⟨fun hmem => ?_, rfl⟩
    have hnot := List.findIdx?_eq_none_iff.1 hfind _ hmem
    simp at hnot

/-! ## The models of a split schema -/

lemma size_split : (s.split policy root).size = s.size + (s.cuts policy root).length := by
  simp [split, size]

/-- A model of before has new contents in its slots only. -/
lemma model_split_of_lt (h : id < s.size) :
    (s.split policy root).model id =
      { s.model id with
        shape := (s.model id).shape.mapSlots (s.slotAfter (s.cuts policy root) id) } := by
  have hid : id < s.models.size := h
  simp only [split, model, Array.getD_eq_getD_getElem?, Array.getElem?_append, Array.size_mapIdx,
    hid, if_true, Array.getElem?_mapIdx, Array.getElem?_eq_getElem hid, Option.map_some,
    Option.getD_some]
  rfl

/-- A new model is the reference of its cut. -/
lemma model_split_add {k : Nat} (h : (s.cuts policy root)[k]? = some e) :
    (s.split policy root).model (s.size + k) =
      s.referenceTo (s.model e.target).name e.target := by
  simp [split, model, size, Array.getElem?_append_right, h]

/-- A split schema has the models of before, the references of the cuts, and no others. -/
lemma split_cases (s : Schema) (policy : SplitPolicy) (root id : ModelId) :
    id < s.size ∨ (∃ e ∈ s.cuts policy root,
        (s.split policy root).model id = s.referenceTo (s.model e.target).name e.target) ∨
      (s.split policy root).model id = { name := "", shape := .any } := by
  rcases Nat.lt_or_ge id s.size with hlt | hge
  · exact .inl hlt
  · rcases Nat.lt_or_ge (id - s.size) (s.cuts policy root).length with hk | hk
    · have hmodel := model_split_add (List.getElem?_eq_getElem hk)
      rw [Nat.add_sub_of_le hge] at hmodel
      exact .inr (.inl ⟨_, List.getElem_mem hk, hmodel⟩)
    · refine .inr (.inr (model_of_le ?_))
      rw [size_split]
      omega

/-- The policy applies to no new model. -/
lemma applies_split_of_le (h : s.size ≤ id) :
    policy.applies ((s.split policy root).model id).variant = false := by
  rcases split_cases s policy root id with hlt | ⟨e, -, hmodel⟩ | hmodel
  · exact absurd hlt (Nat.not_lt.2 h)
  · rw [hmodel]
    rfl
  · rw [hmodel]
    rfl

/-- New models have no slots. -/
lemma slots_split_of_le (h : s.size ≤ id) : ((s.split policy root).model id).shape.slots = [] := by
  rcases split_cases s policy root id with hlt | ⟨e, -, hmodel⟩ | hmodel
  · exact absurd hlt (Nat.not_lt.2 h)
  · rw [hmodel]
    rfl
  · rw [hmodel]
    rfl

lemma slots_split_of_lt (h : id < s.size) : ((s.split policy root).model id).shape.slots =
    (s.model id).shape.slots.mapIdx (s.slotAfter (s.cuts policy root) id) := by
  rw [model_split_of_lt h, Shape.slots_mapSlots]

lemma variant_split_of_lt (h : id < s.size) :
    ((s.split policy root).model id).variant = (s.model id).variant := by
  rw [Model.variant, model_split_of_lt h, Shape.variant_mapSlots, Model.variant]

/-- A slot of a split schema was there before, and holds what the cuts make of it. -/
lemma slot_split {i : Nat} {d : ModelId}
    (h : ((s.split policy root).model id).shape.slots[i]? = some d) :
    ∃ c, (s.model id).shape.slots[i]? = some c ∧ d = s.slotAfter (s.cuts policy root) id i c := by
  rcases Nat.lt_or_ge id s.size with hlt | hge
  · rw [slots_split_of_lt hlt, List.getElem?_mapIdx] at h
    obtain ⟨c, hc, rfl⟩ := Option.map_eq_some_iff.1 h
    exact ⟨c, hc, rfl⟩
  · simp [slots_split_of_le hge] at h

/-! ## What splitting keeps -/

/-- Whether splitting cuts the slot with number `i` of the model `n`, which holds `c`. -/
structure IsSplitSlot (s : Schema) (policy : SplitPolicy) (root n : ModelId) (i : Nat)
    (c : ModelId) : Prop where
  reached : Reaches s.slotEdges root n
  content : (s.model n).shape.slots[i]? = some c
  applies : policy.applies (s.model c).variant = true

lemma mem_cuts_iff_isSplitSlot {n c : ModelId} {i : Nat} :
    (⟨n, .slot i, c⟩ : Edge) ∈ s.cuts policy root ↔ s.IsSplitSlot policy root n i c := by
  rw [mem_cuts_iff, mem_slotEdges]
  constructor
  · rintro ⟨hreached, ⟨-, j, hj, hcontent⟩, happlies⟩
    obtain rfl : i = j := by simpa using hj
    exact ⟨hreached, hcontent, happlies⟩
  · rintro ⟨hreached, hcontent, happlies⟩
    exact ⟨hreached, ⟨rfl, i, rfl, hcontent⟩, happlies⟩

/-- What a schema becomes when it is split from a root: every model keeps all but the contents
of its slots, each slot that is cut holds a new reference of its own to what it held, and there
are no more new models than that. -/
structure IsSplit (s : Schema) (policy : SplitPolicy) (root : ModelId) (s' : Schema) : Prop where
  name : ∀ n < s.size, (s'.model n).name = (s.model n).name
  input : ∀ n < s.size, (s'.model n).input = (s.model n).input
  options : ∀ n < s.size, (s'.model n).options = (s.model n).options
  /-- The shape differs in the contents of slots at most. -/
  shape : ∀ n < s.size, ∃ f, (s'.model n).shape = (s.model n).shape.mapSlots f
  /-- A slot that is cut holds a new reference, with the name, input and options of what it
  held. -/
  slot_cut : ∀ n i c, s.IsSplitSlot policy root n i c →
    ∃ r, (s'.model n).shape.slots[i]? = some r ∧ s.size ≤ r ∧ r < s'.size ∧
      s'.model r = { s.model c with shape := .reference c }
  /-- Every other slot holds what it held. -/
  slot_kept : ∀ n i c, (s.model n).shape.slots[i]? = some c →
    ¬ s.IsSplitSlot policy root n i c → (s'.model n).shape.slots[i]? = some c
  /-- The new references are in one slot each. -/
  slot_own : ∀ n i c n' i' c', s.IsSplitSlot policy root n i c →
    s.IsSplitSlot policy root n' i' c' →
    (s'.model n).shape.slots[i]? = (s'.model n').shape.slots[i']? → n = n' ∧ i = i'
  /-- There is one new model for each slot that is cut. -/
  size : s'.size = s.size +
    Set.ncard {slot : ModelId × Nat | ∃ c, s.IsSplitSlot policy root slot.1 slot.2 c}

/-- The number of a cut slot within its model. -/
def slotNumber (e : Edge) : Nat :=
  match e.link with
  | .slot i => i
  | _ => 0

lemma slotNumber_eq {i : Nat} (h : e.link = .slot i) : slotNumber e = i := by
  rw [slotNumber, h]

/-- A cut is known by its model and the number of its slot. -/
lemma cuts_eq_of_slot {e' : Edge} (he : e ∈ s.cuts policy root) (he' : e' ∈ s.cuts policy root)
    (hsource : e.source = e'.source) (hslot : slotNumber e = slotNumber e') : e = e' := by
  have hmem := (mem_cuts_iff.1 he).2.1
  have hmem' := (mem_cuts_iff.1 he').2.1
  obtain ⟨-, i, hi, -⟩ := mem_slotEdges.1 hmem
  obtain ⟨-, i', hi', -⟩ := mem_slotEdges.1 hmem'
  rw [← hsource] at hmem'
  refine slotEdge_unique hmem hmem' ?_
  rw [slotNumber_eq hi, slotNumber_eq hi'] at hslot
  rw [hi, hi', hslot]

/-- There are as many cuts as slots that are cut. -/
lemma length_cuts (s : Schema) (policy : SplitPolicy) (root : ModelId) :
    (s.cuts policy root).length =
      Set.ncard {slot : ModelId × Nat | ∃ c, s.IsSplitSlot policy root slot.1 slot.2 c} := by
  have hslots : {slot : ModelId × Nat | ∃ c, s.IsSplitSlot policy root slot.1 slot.2 c} =
      ((s.cuts policy root).map fun e => (e.source, slotNumber e)).toFinset := by
    ext ⟨n, i⟩
    simp only [Set.mem_ofPred_eq, List.coe_toFinset, List.mem_map, Prod.mk.injEq]
    constructor
    · rintro ⟨c, hc⟩
      exact ⟨_, mem_cuts_iff_isSplitSlot.2 hc, rfl, rfl⟩
    · rintro ⟨e, he, rfl, rfl⟩
      obtain ⟨-, j, hj, -⟩ := mem_slotEdges.1 (mem_cuts_iff.1 he).2.1
      refine ⟨e.target, mem_cuts_iff_isSplitSlot.1 ?_⟩
      rwa [slotNumber_eq hj, ← hj]
  have hnodup : ((s.cuts policy root).map fun e => (e.source, slotNumber e)).Nodup := by
    refine (List.nodup_map_iff_inj_on (s.cuts_nodup policy root)).2 fun e he e' he' heq => ?_
    exact cuts_eq_of_slot he he' (congrArg Prod.fst heq) (congrArg Prod.snd heq)
  rw [hslots, Set.ncard_coe_finset, List.toFinset_card_of_nodup hnodup, List.length_map]

/-- A slot that is cut holds the new reference of its cut. -/
lemma slot_of_isSplitSlot {n c : ModelId} {i : Nat} (h : s.IsSplitSlot policy root n i c) :
    ∃ k, (s.cuts policy root)[k]? = some ⟨n, .slot i, c⟩ ∧
      ((s.split policy root).model n).shape.slots[i]? = some (s.size + k) := by
  rcases slotAfter_cases h.content with ⟨k, hk, hafter⟩ | ⟨hnot, -⟩
  · refine ⟨k, hk, ?_⟩
    rw [slots_split_of_lt (lt_size_of_slot h.content), List.getElem?_mapIdx, h.content,
      Option.map_some, hafter]
  · exact absurd (mem_cuts_iff_isSplitSlot.2 h) hnot

/-- Splitting makes of a schema what it should. -/
theorem split_isSplit (s : Schema) (policy : SplitPolicy) (root : ModelId) :
    s.IsSplit policy root (s.split policy root) where
  name n hn := by rw [model_split_of_lt hn]
  input n hn := by rw [model_split_of_lt hn]
  options n hn := by rw [model_split_of_lt hn]
  shape n hn := ⟨_, by rw [model_split_of_lt hn]⟩
  slot_cut n i c h := by
    obtain ⟨k, hk, hslot⟩ := slot_of_isSplitSlot h
    have hlt : k < (s.cuts policy root).length := (List.getElem?_eq_some_iff.1 hk).1
    refine ⟨_, hslot, Nat.le_add_right _ _, ?_, ?_⟩
    · rw [size_split]
      exact Nat.add_lt_add_left hlt _
    · rw [model_split_add hk]
      rfl
  slot_kept n i c hslot h := by
    rcases slotAfter_cases hslot with ⟨k, hk, -⟩ | ⟨-, hafter⟩
    · exact absurd (mem_cuts_iff_isSplitSlot.1 (List.mem_of_getElem? hk)) h
    · rw [slots_split_of_lt (lt_size_of_slot hslot), List.getElem?_mapIdx, hslot, Option.map_some,
        hafter]
  slot_own n i c n' i' c' h h' heq := by
    obtain ⟨k, hk, hslot⟩ := slot_of_isSplitSlot h
    obtain ⟨k', hk', hslot'⟩ := slot_of_isSplitSlot h'
    -- equal references have equal numbers, hence come from the same cut
    obtain rfl : k = k' := by
      rw [hslot, hslot', Option.some.injEq] at heq
      exact Nat.add_left_cancel heq
    obtain ⟨hn, hi, -⟩ := Edge.mk.inj (Option.some.inj (hk.symm.trans hk'))
    exact ⟨hn, by simpa using hi⟩
  size := by rw [size_split, length_cuts]

/-! ## Splitting again -/

/-- From a model of before, a split schema reaches through slots no more models of before than
the schema did. -/
lemma reaches_of_split {n : ModelId} (h : Reaches (s.split policy root).slotEdges id n)
    (hn : n < s.size) : Reaches s.slotEdges id n := by
  induction h with
  | refl => exact .refl
  | @tail a n _ hlead ih =>
    obtain ⟨e, he, rfl⟩ := hlead
    obtain ⟨-, i, -, hslot⟩ := mem_slotEdges.1 he
    obtain ⟨c, hc, htarget⟩ := slot_split hslot
    refine (ih (lt_size_of_slot hc)).tail ⟨⟨a, .slot i, c⟩, mem_slotEdges.2 ⟨rfl, i, rfl, hc⟩, ?_⟩
    -- a slot that holds a model of before is not cut
    rcases slotAfter_cases hc with ⟨k, -, hafter⟩ | ⟨-, hafter⟩
    · rw [htarget, hafter] at hn
      exact absurd hn (Nat.not_lt.2 (Nat.le_add_right _ _))
    · rw [htarget, hafter]

/-- After splitting, there is nothing left to cut. -/
lemma cuts_split : (s.split policy root).cuts policy root = [] := by
  rw [List.eq_nil_iff_forall_not_mem]
  intro e he
  obtain ⟨hreaches, hmem, happlies⟩ := mem_cuts_iff.1 he
  obtain ⟨-, i, -, hslot⟩ := mem_slotEdges.1 hmem
  obtain ⟨c, hc, htarget⟩ := slot_split hslot
  have htargetLt : e.target < s.size := by
    by_contra hge
    rw [applies_split_of_le (Nat.not_lt.1 hge)] at happlies
    cases happlies
  rcases slotAfter_cases hc with ⟨k, -, hafter⟩ | ⟨hnot, hafter⟩
  · rw [htarget, hafter] at htargetLt
    exact absurd htargetLt (Nat.not_lt.2 (Nat.le_add_right _ _))
  · -- the slot would have been cut before
    rw [hafter] at htarget
    rw [variant_split_of_lt htargetLt, htarget] at happlies
    exact hnot (mem_cuts_iff_isSplitSlot.2
      ⟨reaches_of_split hreaches (lt_size_of_slot hc), hc, happlies⟩)

lemma split_of_cuts_nil (h : s.cuts policy root = []) : s.split policy root = s := by
  obtain ⟨models⟩ := s
  have hkept : models.mapIdx (fun _ m => { m with shape := m.shape.mapSlots fun _ old => old }) =
      models := by
    apply Array.ext
    · simp
    · intro i hi hi'
      simp [Shape.mapSlots_self]
  simpa [split, h] using hkept

/-- Splitting keeps all but the contents of slots and puts new references into the slots that
it cuts; splitting again from the same root changes nothing and makes no other model
independent. -/
theorem split_frame (s : Schema) (policy : SplitPolicy) (root : ModelId) :
    s.IsSplit policy root (s.split policy root) ∧
      (s.split policy root).split policy root = s.split policy root ∧
      (s.split policy root).independent policy root = [root] := by
  refine ⟨s.split_isSplit policy root, split_of_cuts_nil cuts_split, ?_⟩
  rw [independent, cuts_split]
  rfl

end Schema

end Modelsmith
