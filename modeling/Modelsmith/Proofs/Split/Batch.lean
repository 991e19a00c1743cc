/-
# Independent models of a split schema

Once a schema has been split from all roots of a batch, an independent model holds no other
model that is independent by its variant: wherever a slot below one of the roots held such a
model, there is a reference now.  The references that splitting adds refer to independent
models of the same batch, and no link leads out of the schema.
-/
import Modelsmith.Proofs.Split.Insertion
import Modelsmith.Proofs.Split.Several

namespace Modelsmith

namespace Schema

variable {s : Schema} {policy : SplitPolicy} {roots : List ModelId} {root id n : ModelId}

/-! ## Links in range -/

/-- All links of the models of a schema lead to its models. -/
def InRange (s : Schema) : Prop := ∀ id < s.size, ∀ e ∈ s.edges id, e.target < s.size

lemma InRange.isClosed (h : s.InRange) (hroot : root < s.size) : s.IsClosed root :=
  isClosed_of_range h hroot

/-- Splitting leads no link out of the schema. -/
lemma InRange.split (h : s.InRange) (policy : SplitPolicy) (root : ModelId) :
    (s.split policy root).InRange := by
  have hsize : s.size ≤ (s.split policy root).size := by
    rw [size_split]
    exact Nat.le_add_right _ _
  intro id hid e he
  rcases Nat.lt_or_ge id s.size with hlt | hge
  · rw [edges_split_of_lt hlt] at he
    obtain ⟨old, hold, rfl⟩ := List.mem_map.1 he
    rw [Edge.redirect]
    cases hnew : s.inserted policy root old with
    | none => exact Nat.lt_of_lt_of_le (h id hlt old hold) hsize
    | some r =>
      obtain ⟨k, hk, rfl⟩ := inserted_eq_some_iff.1 hnew
      rw [size_split]
      exact Nat.add_lt_add_left (List.getElem?_eq_some_iff.1 hk).1 _
  · -- a new reference has the parents of what it refers to
    rcases split_cases s policy root id with hlt | ⟨cut, hcut, hmodel⟩ | hmodel
    · exact absurd hlt (Nat.not_lt.2 hge)
    · have hc : cut.target < s.size := lt_size_of_applies (mem_cuts_iff.1 hcut).2.2
      obtain ⟨-, hend⟩ := mem_edges.1 he
      rw [hmodel, referenceTo] at hend
      cases hlink : e.link with
      | slot i => simp [hlink, Link.end?, Shape.slots] at hend
      | target =>
        have htarget : cut.target = e.target := by
          simpa [hlink, Link.end?, Shape.target?] using hend
        exact htarget ▸ Nat.lt_of_lt_of_le hc hsize
      | parent i =>
        rw [hlink] at hend
        exact Nat.lt_of_lt_of_le
          (h cut.target hc ⟨cut.target, .parent i, e.target⟩ (mem_edges.2 ⟨rfl, hend⟩)) hsize
    · obtain ⟨-, hend⟩ := mem_edges.1 he
      rw [hmodel] at hend
      cases hlink : e.link <;> simp [hlink, Link.end?, Shape.slots, Shape.target?] at hend

lemma InRange.splitFrom (h : s.InRange) (policy : SplitPolicy) (roots : List ModelId) :
    (s.splitFrom policy roots).1.InRange := by
  induction roots using List.reverseRecOn with
  | nil => exact h
  | append_singleton roots root ih =>
    rw [splitFrom_append]
    exact ih.split policy root

/-! ## Slots of independent models -/

/-- A slot that holds a model of before after one more root held it before that root. -/
lemma slot_of_splitFrom_append {i : Nat} {c : ModelId} (hc : c < s.size)
    (hslot : ((s.splitFrom policy (roots ++ [root])).1.model n).shape.slots[i]? = some c) :
    ((s.splitFrom policy roots).1.model n).shape.slots[i]? = some c ∧
      ¬ (s.splitFrom policy roots).1.IsSplitSlot policy root n i c := by
  have hsize := (s.splitFrom_isSplitFrom policy roots).size_le
  rw [splitFrom_append] at hslot
  obtain ⟨old, hold, hafter⟩ := slot_split hslot
  rcases slotAfter_cases hold with ⟨k, -, hcut⟩ | ⟨hnot, hkept⟩
  · rw [hcut] at hafter
    lia
  · rw [hkept] at hafter
    subst hafter
    exact ⟨hold, fun h => hnot (mem_cuts_iff_isSplitSlot.2 h)⟩

/-- Below each of the roots, no slot holds a model any more to which the policy applies. -/
lemma slot_ne_of_splitFrom {i : Nat} {c : ModelId} (hroot : root ∈ roots)
    (hreaches : Reaches s.slotEdges root n)
    (happlies : policy.applies (s.model c).variant = true) :
    ((s.splitFrom policy roots).1.model n).shape.slots[i]? ≠ some c := by
  have hc : c < s.size := lt_size_of_applies happlies
  induction roots using List.reverseRecOn generalizing root with
  | nil => simp at hroot
  | append_singleton roots last ih =>
    intro hslot
    have hsplit := s.splitFrom_isSplitFrom policy roots
    obtain ⟨hbefore, hnot⟩ := slot_of_splitFrom_append hc hslot
    rcases List.mem_append.1 hroot with hroot | hroot
    · exact ih hroot hreaches hbefore
    · -- the last root comes to the slot, or an earlier one has been there
      obtain rfl := List.mem_singleton.1 hroot
      rcases hsplit.reaches_cases hreaches with hnow | ⟨r, hr, hearlier⟩
      · exact hnot ⟨hnow, hbefore, (hsplit.variant c hc).symm ▸ happlies⟩
      · exact ih hr hearlier hbefore

/-- The roots reach every independent model through the slots of before. -/
lemma exists_root_of_mem_splitAll (hid : id ∈ (s.splitAll policy roots).2) :
    ∃ root ∈ roots, Reaches s.slotEdges root id := by
  rcases mem_splitAll_iff.1 hid with hroot | ⟨-, hreaches⟩
  · exact ⟨id, hroot, .refl⟩
  · exact hreaches

/-- What an independent model reaches through slots holds no model to which the policy
applies. -/
theorem applies_of_splitAll_slot (hid : id ∈ (s.splitAll policy roots).2) {i : Nat} {d : ModelId}
    (hreaches : Reaches (s.splitAll policy roots).1.slotEdges id n)
    (hslot : ((s.splitAll policy roots).1.model n).shape.slots[i]? = some d) :
    policy.applies ((s.splitAll policy roots).1.model d).variant = false := by
  have hsplit := s.splitFrom_isSplitFrom policy roots
  rw [splitAll_eq] at hreaches hslot ⊢
  by_contra happlies
  rw [Bool.not_eq_false] at happlies
  have hd := hsplit.lt_of_applies happlies
  obtain ⟨root, hroot, hbelow⟩ := exists_root_of_mem_splitAll hid
  have hold := hbelow.trans (hsplit.reaches_old hreaches (hsplit.lt_of_slot hslot))
  exact slot_ne_of_splitFrom hroot hold (hsplit.variant d hd ▸ happlies) hslot

/-! ## References of a split schema -/

/-- A reference of a split schema is one of before, or it refers to an independent model. -/
theorem reference_of_splitAll {t : ModelId}
    (href : ((s.splitAll policy roots).1.model n).shape = .reference t) :
    (s.model n).shape = .reference t ∨
      (t ∈ (s.splitAll policy roots).2 ∧ policy.applies (s.model t).variant = true) := by
  rw [splitAll_eq] at href ⊢
  simp only [List.mem_eraseDups]
  induction roots using List.reverseRecOn with
  | nil => exact .inl href
  | append_singleton roots root ih =>
    have hsplit := s.splitFrom_isSplitFrom policy roots
    simp only [splitFrom_append] at href ⊢
    rw [← Shape.target?_eq_some] at href
    rcases split_cases (s.splitFrom policy roots).1 policy root n with
      hlt | ⟨e, he, hmodel⟩ | hmodel
    · rw [target?_split_of_lt hlt, Shape.target?_eq_some] at href
      exact (ih href).imp_right fun ⟨hmem, happlies⟩ => ⟨List.mem_append_left _ hmem, happlies⟩
    · rw [hmodel] at href
      obtain rfl : e.target = t := Option.some.inj href
      obtain ⟨hreaches, hmem, happlies⟩ := mem_cuts_iff.1 he
      have ht := hsplit.lt_of_applies happlies
      refine .inr ⟨List.mem_append_right _ (mem_independent_iff.2 (.inr ⟨happlies, ?_⟩)), ?_⟩
      · exact hreaches.tail ⟨e, hmem, rfl⟩
      · exact hsplit.variant _ ht ▸ happlies
    · rw [hmodel] at href
      cases href

end Schema

end Modelsmith
