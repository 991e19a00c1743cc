/-
# Splitting from several roots

The roots of an input are split one after another, each on the schema that those before it
leave.  A later root comes to slots that hold references already and goes no further there;
but whatever lies below such a slot has been reached from an earlier root.  So the models that
become independent are the roots and the models that some root reaches through the slots of
the schema as it was in the beginning.
-/
import Mathlib.Data.List.Induction
import Modelsmith.Proofs.Split.Basic

namespace Modelsmith

/-- A list without repetitions has none. -/
lemma nodup_eraseDups {α : Type} [BEq α] [LawfulBEq α] (xs : List α) : xs.eraseDups.Nodup := by
  match xs with
  | [] => simp
  | x :: xs =>
    rw [List.eraseDups_cons, List.nodup_cons]
    refine ⟨by simp, nodup_eraseDups _⟩
termination_by xs.length
decreasing_by exact Nat.lt_succ_of_le (List.length_filter_le _ _)

namespace Schema

variable {s s' : Schema} {policy : SplitPolicy} {roots : List ModelId} {root id n : ModelId}

/-- The models that splitting makes independent are the root and the reached models to which
the policy applies. -/
lemma mem_independent_iff : id ∈ s.independent policy root ↔
    id = root ∨ (policy.applies (s.model id).variant = true ∧ Reaches s.slotEdges root id) := by
  rw [independent, List.mem_eraseDups, List.mem_cons, List.mem_map]
  refine or_congr_right' fun hne => ?_
  constructor
  · rintro ⟨e, he, rfl⟩
    obtain ⟨hreaches, hmem, happlies⟩ := mem_cuts_iff.1 he
    exact ⟨happlies, hreaches.tail ⟨e, hmem, rfl⟩⟩
  · rintro ⟨happlies, hreaches⟩
    rcases hreaches.cases_tail with rfl | ⟨a, hreaches, e, he, rfl⟩
    · exact absurd rfl hne
    · obtain rfl := s.slotEdges_source a e he
      exact ⟨e, mem_cuts_iff.2 ⟨hreaches, he, happlies⟩, rfl⟩

/-- The schema and the models after splitting from some roots, one after another. -/
def splitFrom (s : Schema) (policy : SplitPolicy) (roots : List ModelId) :
    Schema × List ModelId :=
  roots.foldl (fun acc root =>
    (acc.1.split policy root, acc.2 ++ acc.1.independent policy root)) (s, [])

lemma splitAll_eq : s.splitAll policy roots =
    ((s.splitFrom policy roots).1, (s.splitFrom policy roots).2.eraseDups) := rfl

lemma splitFrom_append : s.splitFrom policy (roots ++ [root]) =
    ((s.splitFrom policy roots).1.split policy root,
      (s.splitFrom policy roots).2 ++ (s.splitFrom policy roots).1.independent policy root) := by
  rw [splitFrom, List.foldl_append]
  rfl

/-- What a schema has become after splitting from some roots: a model of before keeps all but
the contents of its slots, a slot holds what it held or a new model, the latter only below one
of the roots, and new models are references. -/
structure IsSplitFrom (s : Schema) (policy : SplitPolicy) (roots : List ModelId)
    (s' : Schema) : Prop where
  size_le : s.size ≤ s'.size
  name : ∀ n < s.size, (s'.model n).name = (s.model n).name
  input : ∀ n < s.size, (s'.model n).input = (s.model n).input
  options : ∀ n < s.size, (s'.model n).options = (s.model n).options
  variant : ∀ n < s.size, (s'.model n).variant = (s.model n).variant
  slot_of_old : ∀ (n : ModelId) (i : Nat) (d : ModelId), d < s.size →
    (s'.model n).shape.slots[i]? = some d → (s.model n).shape.slots[i]? = some d
  slot : ∀ (n : ModelId) (i : Nat) (c : ModelId), (s.model n).shape.slots[i]? = some c →
    (s'.model n).shape.slots[i]? = some c ∨
      (policy.applies (s.model c).variant = true ∧
        ∃ root ∈ roots, Reaches s.slotEdges root n)
  new : ∀ n, s.size ≤ n → n < s'.size →
    ∃ c < s.size, policy.applies (s.model c).variant = true ∧
      s'.model n = { s.model c with shape := .reference c }

namespace IsSplitFrom

variable (h : s.IsSplitFrom policy roots s')
include h

/-- The policy applies only to models of before. -/
lemma lt_of_applies (happlies : policy.applies (s'.model n).variant = true) : n < s.size := by
  by_contra hge
  obtain ⟨c, -, -, hmodel⟩ := h.new n (Nat.not_lt.1 hge) (lt_size_of_applies happlies)
  rw [hmodel] at happlies
  cases happlies

/-- Only models of before have slots. -/
lemma lt_of_slot {i : Nat} {d : ModelId} (hslot : (s'.model n).shape.slots[i]? = some d) :
    n < s.size := by
  by_contra hge
  obtain ⟨c, -, -, hmodel⟩ := h.new n (Nat.not_lt.1 hge) (lt_size_of_slot hslot)
  simp [hmodel, Shape.slots] at hslot

/-- What is reached through slots now was reached in the beginning. -/
lemma reaches_old (hreaches : Reaches s'.slotEdges root n) (hn : n < s.size) :
    Reaches s.slotEdges root n := by
  induction hreaches with
  | refl => exact .refl
  | @tail a n _ hlead ih =>
    obtain ⟨e, he, rfl⟩ := hlead
    obtain ⟨-, i, -, hslot⟩ := mem_slotEdges.1 he
    have hold := h.slot_of_old a i _ hn hslot
    exact (ih (h.lt_of_slot hslot)).tail
      ⟨⟨a, .slot i, e.target⟩, mem_slotEdges.2 ⟨rfl, i, rfl, hold⟩, rfl⟩

/-- What was reached in the beginning is still reached, or one of the roots reached it. -/
lemma reaches_cases (hreaches : Reaches s.slotEdges root n) :
    Reaches s'.slotEdges root n ∨ ∃ r ∈ roots, Reaches s.slotEdges r n := by
  induction hreaches with
  | refl => exact .inl .refl
  | @tail a n _ hlead ih =>
    rcases ih with hnow | ⟨r, hr, hbefore⟩
    · obtain ⟨e, he, rfl⟩ := id hlead
      obtain ⟨-, i, -, hslot⟩ := mem_slotEdges.1 he
      -- the slot is as it was, or its model was below one of the roots
      rcases h.slot a i _ hslot with hkept | ⟨-, r, hr, hbefore⟩
      · exact .inl (hnow.tail
          ⟨⟨a, .slot i, e.target⟩, mem_slotEdges.2 ⟨rfl, i, rfl, hkept⟩, rfl⟩)
      · exact .inr ⟨r, hr, hbefore.tail hlead⟩
    · exact .inr ⟨r, hr, hbefore.tail hlead⟩

/-- One more root. -/
lemma split (root : ModelId) :
    s.IsSplitFrom policy (roots ++ [root]) (s'.split policy root) where
  size_le := by
    rw [size_split]
    exact Nat.le_add_right_of_le h.size_le
  name n hn := by
    rw [(s'.split_isSplit policy root).name n (Nat.lt_of_lt_of_le hn h.size_le), h.name n hn]
  input n hn := by
    rw [(s'.split_isSplit policy root).input n (Nat.lt_of_lt_of_le hn h.size_le), h.input n hn]
  options n hn := by
    rw [(s'.split_isSplit policy root).options n (Nat.lt_of_lt_of_le hn h.size_le),
      h.options n hn]
  variant n hn := by
    rw [variant_split_of_lt (Nat.lt_of_lt_of_le hn h.size_le), h.variant n hn]
  slot_of_old n i d hd hslot := by
    obtain ⟨c, hc, rfl⟩ := slot_split hslot
    rcases slotAfter_cases hc with ⟨k, -, hafter⟩ | ⟨-, hafter⟩
    · rw [hafter] at hd
      exact absurd (Nat.le_trans h.size_le (Nat.le_add_right _ k)) (Nat.not_le.2 hd)
    · rw [hafter] at hd ⊢
      exact h.slot_of_old n i c hd hc
  slot n i c hslot := by
    rcases h.slot n i c hslot with hkept | ⟨happlies, r, hr, hreaches⟩
    · by_cases hcut : s'.IsSplitSlot policy root n i c
      · have hc : c < s.size := h.lt_of_applies hcut.applies
        refine .inr ⟨h.variant c hc ▸ hcut.applies, root, by simp, ?_⟩
        exact h.reaches_old hcut.reached (lt_size_of_slot hslot)
      · exact .inl ((s'.split_isSplit policy root).slot_kept n i c hkept hcut)
    · exact .inr ⟨happlies, r, by simp [hr], hreaches⟩
  new n hge hlt := by
    rcases Nat.lt_or_ge n s'.size with hlt' | hge'
    · obtain ⟨c, hc, happlies, hmodel⟩ := h.new n hge hlt'
      refine ⟨c, hc, happlies, ?_⟩
      rw [model_split_of_lt hlt', hmodel]
      rfl
    · have hk : n - s'.size < (s'.cuts policy root).length := by
        rw [size_split] at hlt
        lia
      have hmodel := model_split_add (List.getElem?_eq_getElem hk)
      rw [Nat.add_sub_of_le hge'] at hmodel
      obtain ⟨-, -, happlies⟩ := mem_cuts_iff.1 (List.getElem_mem hk)
      have hc := h.lt_of_applies happlies
      refine ⟨_, hc, h.variant _ hc ▸ happlies, ?_⟩
      rw [hmodel, referenceTo, h.input _ hc, h.options _ hc, h.name _ hc]

end IsSplitFrom

lemma IsSplitFrom.start (s : Schema) (policy : SplitPolicy) : s.IsSplitFrom policy [] s where
  size_le := Nat.le_refl _
  name _ _ := rfl
  input _ _ := rfl
  options _ _ := rfl
  variant _ _ := rfl
  slot_of_old _ _ _ _ hslot := hslot
  slot _ _ _ hslot := .inl hslot
  new _ hge hlt := absurd hlt (Nat.not_lt.2 hge)

/-- Splitting from some roots makes of a schema what it should. -/
lemma splitFrom_isSplitFrom (s : Schema) (policy : SplitPolicy) (roots : List ModelId) :
    s.IsSplitFrom policy roots (s.splitFrom policy roots).1 := by
  induction roots using List.reverseRecOn with
  | nil => exact .start s policy
  | append_singleton roots root ih =>
    rw [splitFrom_append]
    exact ih.split root

/-- The models that become independent are the roots and the models that some root reaches
through the slots of the schema as it was in the beginning, as far as the policy applies. -/
theorem mem_splitAll_iff : id ∈ (s.splitAll policy roots).2 ↔
    id ∈ roots ∨ (policy.applies (s.model id).variant = true ∧
      ∃ root ∈ roots, Reaches s.slotEdges root id) := by
  rw [splitAll_eq, List.mem_eraseDups]
  induction roots using List.reverseRecOn with
  | nil => simp [splitFrom]
  | append_singleton roots root ih =>
    have hsplit := s.splitFrom_isSplitFrom policy roots
    rw [splitFrom_append, List.mem_append, ih, mem_independent_iff]
    constructor
    · rintro ((hid | ⟨happlies, r, hr, hreaches⟩) | (rfl | ⟨happlies, hreaches⟩))
      · exact .inl (by simp [hid])
      · exact .inr ⟨happlies, r, by simp [hr], hreaches⟩
      · exact .inl (by simp)
      · have hid := hsplit.lt_of_applies happlies
        refine .inr ⟨hsplit.variant id hid ▸ happlies, root, by simp, ?_⟩
        exact hsplit.reaches_old hreaches hid
    · rintro (hid | ⟨happlies, r, hr, hreaches⟩)
      · rcases List.mem_append.1 hid with hid | hid
        · exact .inl (.inl hid)
        · exact .inr (.inl (List.mem_singleton.1 hid))
      · rcases List.mem_append.1 hr with hr | hr
        · exact .inl (.inr ⟨happlies, r, hr, hreaches⟩)
        · -- the new root reaches the model still, or an earlier root has reached it
          obtain rfl := List.mem_singleton.1 hr
          rcases hsplit.reaches_cases hreaches with hnow | hbefore
          · have hid := lt_size_of_applies happlies
            exact .inr (.inr ⟨(hsplit.variant id hid).symm ▸ happlies, hnow⟩)
          · exact .inl (.inr ⟨happlies, hbefore⟩)

end Schema

end Modelsmith
