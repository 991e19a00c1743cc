/-
# What the slots of a split schema hold

A slot of a schema that is split from several roots holds what it held, or a new reference of
its own to what it held.  Which of the two depends on the set of roots only: a slot gets a
reference if it held a model to which the policy applies and one of the roots reaches its model.
So two orders of the same roots lead to schemas that differ in the numbers of the new references
only, and a renaming takes the one to the other.
-/
import Modelsmith.Proofs.Renaming
import Modelsmith.Proofs.Split.Batch

namespace Modelsmith

/-- A model that says the same as another up to the numbers in its shape. -/
lemma Model.eq_rename {f : ModelId → ModelId} {m m' : Model} (hname : m'.name = m.name)
    (hinput : m'.input = m.input) (hoptions : m'.options = m.options)
    (hparents : m.options.parents.map f = m.options.parents)
    (hshape : m'.shape = m.shape.relink fun _ => f) : m' = m.rename f := by
  obtain ⟨name, input, options, shape⟩ := m'
  simp only at hname hinput hoptions hshape
  rw [rename, hparents, hname, hinput, hoptions, hshape]

namespace Shape

variable {ι ρ : Type} {f g : Nat → ModelId → ModelId} {shape : Shape ι ρ}

lemma mapSlots_mapSlots :
    (shape.mapSlots f).mapSlots g = shape.mapSlots fun i => g i ∘ f i := by
  cases shape <;> simp [mapSlots, Function.comp_def]

/-- Contents of slots that a renaming takes to each other make shapes that it takes to each
other. -/
lemma mapSlots_eq_relink {h : ModelId → ModelId}
    (hslots : ∀ i c, shape.slots[i]? = some c → g i c = h (f i c))
    (htarget : ∀ t, shape.target? = some t → h t = t) :
    shape.mapSlots g = (shape.mapSlots f).relink fun _ => h := by
  cases shape with
  | object ps =>
    refine congrArg object (List.ext_getElem (by simp) fun i hi hi' => ?_)
    simp only [List.getElem_mapIdx]
    rw [hslots i]
    simp [slots, show i < ps.length by simpa using hi]
  | array value => exact congrArg array (hslots 0 value rfl)
  | tuple ps =>
    refine congrArg tuple (List.ext_getElem (by simp) fun i hi hi' => ?_)
    simp only [List.getElem_mapIdx]
    rw [hslots i]
    simp [slots, show i < ps.length by simpa using hi]
  | union ms =>
    refine congrArg union (List.ext_getElem (by simp) fun i hi hi' => ?_)
    simp only [List.getElem_mapIdx]
    exact hslots i _ (List.getElem?_eq_getElem _)
  | dictionary key value layout =>
    show dictionary (g 0 key) (g 1 value) layout = dictionary (h (f 0 key)) (h (f 1 value)) layout
    rw [hslots 0 key rfl, hslots 1 value rfl]
  | reference target => exact congrArg reference (htarget target rfl).symm
  | enumeration | any | string | integer | float | boolean => rfl

end Shape

namespace Schema

variable {s s' : Schema} {policy : SplitPolicy} {roots roots' : List ModelId}
  {root n c r : ModelId} {i : Nat}

/-- What is in a slot is in range. -/
lemma InRange.lt_of_slot (hin : s.InRange) (hslot : (s.model n).shape.slots[i]? = some c) :
    c < s.size :=
  hin n (lt_size_of_slot hslot) ⟨n, .slot i, c⟩ (mem_edges.2 ⟨rfl, hslot⟩)

/-- The parents of a model are in range. -/
lemma InRange.lt_of_parent (hin : s.InRange) (hn : n < s.size) {p : ModelId}
    (hp : p ∈ (s.model n).options.parents) : p < s.size := by
  obtain ⟨i, hi⟩ := List.mem_iff_getElem?.1 hp
  exact hin n hn ⟨n, .parent i, p⟩ (mem_edges.2 ⟨rfl, hi⟩)

/-! ## References of their own -/

/-- Every slot holds what it held or a new reference to it, and no two slots the same new
reference. -/
structure IsWired (s s' : Schema) : Prop where
  shape : ∀ n < s.size, ∃ f, (s'.model n).shape = (s.model n).shape.mapSlots f
  slot : ∀ (n : ModelId) (i : Nat) (c : ModelId), (s.model n).shape.slots[i]? = some c →
    (s'.model n).shape.slots[i]? = some c ∨
      ∃ r, s.size ≤ r ∧ (s'.model n).shape.slots[i]? = some r ∧
        s'.model r = { s.model c with shape := .reference c }
  own : ∀ (n : ModelId) (i : Nat) (n' : ModelId) (i' : Nat) (r : ModelId), s.size ≤ r →
    (s'.model n).shape.slots[i]? = some r → (s'.model n').shape.slots[i']? = some r →
    n = n' ∧ i = i'

lemma IsWired.start (hin : s.InRange) : s.IsWired s where
  shape _ _ := ⟨_, Shape.mapSlots_self.symm⟩
  slot _ _ _ hslot := .inl hslot
  own _ _ _ _ _ hr hslot _ := absurd (hin.lt_of_slot hslot) (Nat.not_lt.2 hr)

lemma IsWired.exists_slot (h : s.IsWired s') (hn : n < s.size) {a : ModelId}
    (hslot : (s'.model n).shape.slots[i]? = some a) :
    ∃ c, (s.model n).shape.slots[i]? = some c := by
  obtain ⟨f, hf⟩ := h.shape n hn
  rw [hf, Shape.slots_mapSlots, List.getElem?_mapIdx] at hslot
  obtain ⟨c, hc, -⟩ := Option.map_eq_some_iff.1 hslot
  exact ⟨c, hc⟩

/-- One more root. -/
lemma IsWired.split (h : s.IsWired s') (hsplit : s.IsSplitFrom policy roots s')
    (hin : s'.InRange) (root : ModelId) : s.IsWired (s'.split policy root) where
  shape n hn := by
    obtain ⟨f, hf⟩ := h.shape n hn
    have hlt : n < s'.size := Nat.lt_of_lt_of_le hn hsplit.size_le
    exact ⟨fun i => s'.slotAfter (s'.cuts policy root) n i ∘ f i, by
      rw [model_split_of_lt hlt, hf, Shape.mapSlots_mapSlots]⟩
  slot n i c hslot := by
    have hframe := s'.split_isSplit policy root
    rcases h.slot n i c hslot with hkept | ⟨r, hr, hnew, hmodel⟩
    · by_cases hcut : s'.IsSplitSlot policy root n i c
      · have hc : c < s.size := hsplit.lt_of_applies hcut.applies
        obtain ⟨r, hnew, hr, -, hmodel⟩ := hframe.slot_cut n i c hcut
        refine .inr ⟨r, Nat.le_trans hsplit.size_le hr, hnew, ?_⟩
        simp only [hmodel, hsplit.name c hc, hsplit.input c hc, hsplit.options c hc]
      · exact .inl (hframe.slot_kept n i c hkept hcut)
    · -- a reference is not split out
      have hnot : ¬ s'.IsSplitSlot policy root n i r := by
        intro hcut
        have happlies := hcut.applies
        rw [hmodel] at happlies
        cases happlies
      refine .inr ⟨r, hr, hframe.slot_kept n i r hnew hnot, ?_⟩
      rw [model_split_of_lt (hin.lt_of_slot hnew), hmodel]
      rfl
  own n i n' i' r hr hslot hslot' := by
    obtain ⟨c, hc, heq⟩ := slot_split hslot
    obtain ⟨c', hc', heq'⟩ := slot_split hslot'
    rcases slotAfter_cases hc with ⟨k, hk, hafter⟩ | ⟨-, hafter⟩ <;>
      rcases slotAfter_cases hc' with ⟨k', hk', hafter'⟩ | ⟨-, hafter'⟩ <;>
      rw [hafter] at heq <;> rw [hafter'] at heq'
    · obtain rfl : k = k' := Nat.add_left_cancel (heq.symm.trans heq')
      obtain ⟨hn, hi, -⟩ := Edge.mk.inj (Option.some.inj (hk.symm.trans hk'))
      exact ⟨hn, by simpa using hi⟩
    · exact absurd (hin.lt_of_slot hc') (Nat.not_lt.2 (heq' ▸ heq ▸ Nat.le_add_right _ _))
    · exact absurd (hin.lt_of_slot hc) (Nat.not_lt.2 (heq ▸ heq' ▸ Nat.le_add_right _ _))
    · exact h.own n i n' i' r hr (heq ▸ hc) (heq' ▸ hc')

/-- Splitting from some roots gives every slot that it cuts a reference of its own. -/
lemma splitFrom_isWired (hin : s.InRange) (policy : SplitPolicy) (roots : List ModelId) :
    s.IsWired (s.splitFrom policy roots).1 := by
  induction roots using List.reverseRecOn with
  | nil => exact .start hin
  | append_singleton roots root ih =>
    rw [splitFrom_append]
    exact ih.split (s.splitFrom_isSplitFrom policy roots) (hin.splitFrom policy roots) root

/-! ## Two orders of the roots -/

/-- A slot holds what it held unless the policy applies to that and a root reaches the slot. -/
lemma slot_splitFrom_iff (hslot : (s.model n).shape.slots[i]? = some c) :
    ((s.splitFrom policy roots).1.model n).shape.slots[i]? = some c ↔
      ¬ (policy.applies (s.model c).variant = true ∧
        ∃ root ∈ roots, Reaches s.slotEdges root n) := by
  constructor
  · rintro hkept ⟨happlies, root, hroot, hreaches⟩
    exact slot_ne_of_splitFrom hroot hreaches happlies hkept
  · intro hnot
    exact ((s.splitFrom_isSplitFrom policy roots).slot n i c hslot).resolve_right hnot

/-- The same slots keep what they hold for both orders. -/
lemma slot_splitFrom_congr (policy : SplitPolicy) (hroots : ∀ r, r ∈ roots ↔ r ∈ roots')
    (hslot : (s.model n).shape.slots[i]? = some c) :
    ((s.splitFrom policy roots).1.model n).shape.slots[i]? = some c ↔
      ((s.splitFrom policy roots').1.model n).shape.slots[i]? = some c := by
  simp only [slot_splitFrom_iff hslot, hroots]

/-- A map that keeps the models of before, and takes what a slot holds for one order of the roots
to what it holds for the other. -/
structure MapsSlots (s : Schema) (policy : SplitPolicy) (roots roots' : List ModelId)
    (f : ModelId → ModelId) : Prop where
  old : ∀ n < s.size, f n = n
  slot : ∀ (n : ModelId) (i : Nat) (a : ModelId),
    ((s.splitFrom policy roots).1.model n).shape.slots[i]? = some a →
    ((s.splitFrom policy roots').1.model n).shape.slots[i]? = some (f a)

/-- What a slot holds for the one order can be told from what it holds for the other. -/
lemma exists_mapsSlots (hin : s.InRange) (policy : SplitPolicy)
    (hroots : ∀ r, r ∈ roots ↔ r ∈ roots') : ∃ f, s.MapsSlots policy roots roots' f := by
  have hwired := splitFrom_isWired hin policy roots
  have hwired' := splitFrom_isWired hin policy roots'
  have hsplit := s.splitFrom_isSplitFrom policy roots
  suffices hone : ∀ a : ModelId, ∃ b : ModelId, (a < s.size → b = a) ∧ ∀ (n : ModelId) (i : Nat),
      ((s.splitFrom policy roots).1.model n).shape.slots[i]? = some a →
      ((s.splitFrom policy roots').1.model n).shape.slots[i]? = some b by
    choose f hf using hone
    exact ⟨f, fun n => (hf n).1, fun n i a => (hf a).2 n i⟩
  intro a
  rcases Nat.lt_or_ge a s.size with hlt | hge
  · refine ⟨a, fun _ => rfl, fun n i hslot => ?_⟩
    have hold := hsplit.slot_of_old n i a hlt hslot
    exact (slot_splitFrom_congr policy hroots hold).1 hslot
  · -- a new reference is in one slot at most
    by_cases hsome : ∃ (n : ModelId) (i : Nat),
        ((s.splitFrom policy roots).1.model n).shape.slots[i]? = some a
    · obtain ⟨n, i, hslot⟩ := hsome
      obtain ⟨c, hc⟩ := hwired.exists_slot (hsplit.lt_of_slot hslot) hslot
      obtain ⟨b, hb⟩ : ∃ b, ((s.splitFrom policy roots').1.model n).shape.slots[i]? = some b := by
        rcases hwired'.slot n i c hc with hkept | ⟨r, -, hnew, -⟩
        · exact ⟨c, hkept⟩
        · exact ⟨r, hnew⟩
      refine ⟨b, fun hlt => absurd hlt (Nat.not_lt.2 hge), fun n' i' hslot' => ?_⟩
      obtain ⟨rfl, rfl⟩ := hwired.own n i n' i' a hge hslot hslot'
      exact hb
    · exact ⟨a, fun _ => rfl, fun n i hslot => absurd ⟨n, i, hslot⟩ hsome⟩

section Wired

variable (hin : s.InRange) (hsplit : s.IsSplitFrom policy roots s') (hwired : s.IsWired s')
include hin hsplit hwired

/-- References of a split schema lead to models of before. -/
lemma lt_of_target (ht : (s'.model n).shape.target? = some c) : c < s.size := by
  have hn : n < s'.size := by
    by_contra hge
    rw [model_of_le (Nat.not_lt.1 hge)] at ht
    cases ht
  rcases Nat.lt_or_ge n s.size with hlt | hge
  · obtain ⟨f, hf⟩ := hwired.shape n hlt
    rw [hf, Shape.target?_mapSlots] at ht
    exact hin n hlt ⟨n, .target, c⟩ (mem_edges.2 ⟨rfl, ht⟩)
  · obtain ⟨d, hd, -, hmodel⟩ := hsplit.new n hge hn
    rw [hmodel] at ht
    obtain rfl : d = c := Option.some.inj ht
    exact hd

omit hwired in
/-- The parents of the models of a split schema are models of before. -/
lemma lt_of_parent {p : ModelId} (hp : p ∈ (s'.model n).options.parents) : p < s.size := by
  have hn : n < s'.size := by
    by_contra hge
    simp [model_of_le (Nat.not_lt.1 hge)] at hp
  rcases Nat.lt_or_ge n s.size with hlt | hge
  · rw [hsplit.options n hlt] at hp
    exact hin.lt_of_parent hlt hp
  · obtain ⟨d, hd, -, hmodel⟩ := hsplit.new n hge hn
    rw [hmodel] at hp
    exact hin.lt_of_parent hd hp

/-- What a root reaches in a split schema is a model of before or in a slot. -/
lemma lt_or_slot_of_reaches (hroot : root < s.size) (hn : Reaches s'.edges root n) :
    n < s.size ∨ ∃ (m : ModelId) (i : Nat), (s'.model m).shape.slots[i]? = some n := by
  rcases Relation.ReflTransGen.cases_tail hn with rfl | ⟨m, -, e, he, rfl⟩
  · exact .inl hroot
  · obtain ⟨-, hend⟩ := mem_edges.1 he
    cases hlink : e.link with
    | slot i => exact .inr ⟨m, i, by rw [hlink] at hend; exact hend⟩
    | target =>
      rw [hlink] at hend
      exact .inl (lt_of_target hin hsplit hwired hend)
    | parent i =>
      rw [hlink] at hend
      exact .inl (lt_of_parent hin hsplit (List.mem_of_getElem? hend))

end Wired

section Orders

variable (hin : s.InRange) {f : ModelId → ModelId} (hf : s.MapsSlots policy roots roots' f)
include hin hf

lemma MapsSlots.parents (n : ModelId) :
    ((s.splitFrom policy roots).1.model n).options.parents.map f =
      ((s.splitFrom policy roots).1.model n).options.parents := by
  refine (List.map_congr_left fun p hp => ?_).trans (List.map_id _)
  exact hf.old p (lt_of_parent hin (s.splitFrom_isSplitFrom policy roots) hp)

lemma MapsSlots.target {t : ModelId}
    (ht : ((s.splitFrom policy roots).1.model n).shape.target? = some t) : f t = t :=
  hf.old t (lt_of_target hin (s.splitFrom_isSplitFrom policy roots)
    (splitFrom_isWired hin policy roots) ht)

/-- A model of before is renamed. -/
lemma MapsSlots.model_old (hn : n < s.size) :
    (s.splitFrom policy roots').1.model n =
      ((s.splitFrom policy roots).1.model n).rename f := by
  have hsplit := s.splitFrom_isSplitFrom policy roots
  have hsplit' := s.splitFrom_isSplitFrom policy roots'
  obtain ⟨g, hg⟩ := (splitFrom_isWired hin policy roots).shape n hn
  obtain ⟨g', hg'⟩ := (splitFrom_isWired hin policy roots').shape n hn
  refine Model.eq_rename ?_ ?_ ?_ (hf.parents hin n) ?_
  · rw [hsplit'.name n hn, hsplit.name n hn]
  · rw [hsplit'.input n hn, hsplit.input n hn]
  · rw [hsplit'.options n hn, hsplit.options n hn]
  · rw [hg, hg']
    refine Shape.mapSlots_eq_relink (fun i c hc => ?_) fun t ht => ?_
    · -- both sides are what the slot holds for the second order
      have hslot := hf.slot n i (g i c) (by rw [hg, Shape.slots_mapSlots]; simp [hc])
      rw [hg', Shape.slots_mapSlots, List.getElem?_mapIdx, hc] at hslot
      exact Option.some.inj hslot
    · exact hf.target hin (by rw [hg, Shape.target?_mapSlots, ht])

variable (hroots : ∀ r, r ∈ roots ↔ r ∈ roots')
include hroots

/-- A new reference becomes one with the same model for the other order. -/
lemma MapsSlots.model_eq (hr : s.size ≤ r)
    (hslot : ((s.splitFrom policy roots).1.model n).shape.slots[i]? = some r) :
    s.size ≤ f r ∧
      (s.splitFrom policy roots').1.model (f r) = (s.splitFrom policy roots).1.model r := by
  have hwired := splitFrom_isWired hin policy roots
  have hwired' := splitFrom_isWired hin policy roots'
  have hsplit := s.splitFrom_isSplitFrom policy roots
  obtain ⟨c, hc⟩ := hwired.exists_slot (hsplit.lt_of_slot hslot) hslot
  have hslot' := hf.slot n i r hslot
  have hne : ((s.splitFrom policy roots).1.model n).shape.slots[i]? ≠ some c := by
    rw [hslot]
    intro heq
    exact absurd (Option.some.inj heq ▸ hin.lt_of_slot hc) (Nat.not_lt.2 hr)
  obtain ⟨r₀, -, hr₀, hmodel⟩ := (hwired.slot n i c hc).resolve_left hne
  obtain rfl : r₀ = r := Option.some.inj (hr₀.symm.trans hslot)
  obtain ⟨r', hge', hr', hmodel'⟩ := (hwired'.slot n i c hc).resolve_left
    fun hkept => hne ((slot_splitFrom_congr policy hroots hc).2 hkept)
  obtain rfl : r' = f r₀ := Option.some.inj (hr'.symm.trans hslot')
  exact ⟨hge', hmodel'.trans hmodel.symm⟩

/-- A new reference in a slot is renamed. -/
lemma MapsSlots.model_new (hr : s.size ≤ r)
    (hslot : ((s.splitFrom policy roots).1.model n).shape.slots[i]? = some r) :
    (s.splitFrom policy roots').1.model (f r) =
      ((s.splitFrom policy roots).1.model r).rename f := by
  obtain ⟨c, -, -, hmodel⟩ := (s.splitFrom_isSplitFrom policy roots).new r hr
    ((hin.splitFrom policy roots).lt_of_slot hslot)
  have htarget : f c = c := hf.target hin (show _ = some c by rw [hmodel]; rfl)
  rw [(hf.model_eq hin hroots hr hslot).2]
  refine Model.eq_rename rfl rfl rfl (hf.parents hin r) ?_
  rw [hmodel]
  exact congrArg Shape.reference htarget.symm

/-- No two models that a root reaches become one: models of before stay, and a new reference is
in one slot only. -/
lemma MapsSlots.injOn (hroot : root < s.size) {a d : ModelId}
    (ha : Reaches (s.splitFrom policy roots).1.edges root a)
    (hd : Reaches (s.splitFrom policy roots).1.edges root d) (heq : f a = f d) : a = d := by
  have hwired := splitFrom_isWired hin policy roots
  have hsplit := s.splitFrom_isSplitFrom policy roots
  have hnew : ∀ {n}, s.size ≤ n → Reaches (s.splitFrom policy roots).1.edges root n →
      s.size ≤ f n ∧ ∃ (m : ModelId) (i : Nat),
        ((s.splitFrom policy roots).1.model m).shape.slots[i]? = some n := by
    intro n hge hn
    obtain ⟨m, i, hslot⟩ := (lt_or_slot_of_reaches hin hsplit hwired hroot hn).resolve_left
      (Nat.not_lt.2 hge)
    exact ⟨(hf.model_eq hin hroots hge hslot).1, m, i, hslot⟩
  rcases Nat.lt_or_ge a s.size with hlt | hge <;> rcases Nat.lt_or_ge d s.size with hlt' | hge'
  · rwa [hf.old a hlt, hf.old d hlt'] at heq
  · have hle := (hnew hge' hd).1
    rw [← heq, hf.old a hlt] at hle
    exact absurd hlt (Nat.not_lt.2 hle)
  · have hle := (hnew hge ha).1
    rw [heq, hf.old d hlt'] at hle
    exact absurd hlt' (Nat.not_lt.2 hle)
  · obtain ⟨hle, m, i, hslot⟩ := hnew hge ha
    obtain ⟨-, m', i', hslot'⟩ := hnew hge' hd
    obtain ⟨rfl, rfl⟩ := (splitFrom_isWired hin policy roots').own m i m' i' (f a) hle
      (hf.slot m i a hslot) (heq ▸ hf.slot m' i' d hslot')
    exact Option.some.inj (hslot.symm.trans hslot')

end Orders

/-- A renaming takes the schema that one order of the roots leaves to the one that the other
leaves. -/
theorem exists_isRenaming (hin : s.InRange) (policy : SplitPolicy)
    (hroots : ∀ r, r ∈ roots ↔ r ∈ roots') :
    ∃ f : ModelId → ModelId, ∀ root < s.size, f root = root ∧
      (s.splitFrom policy roots).1.IsRenaming (s.splitFrom policy roots').1 root f := by
  obtain ⟨f, hf⟩ := exists_mapsSlots hin policy hroots
  refine ⟨f, fun root hroot => ⟨hf.old root hroot, fun a d => hf.injOn hin hroots hroot,
    fun n hn => ?_⟩⟩
  rcases Nat.lt_or_ge n s.size with hlt | hge
  · rw [hf.old n hlt]
    exact hf.model_old hin hlt
  · obtain ⟨m, i, hslot⟩ := (lt_or_slot_of_reaches hin (s.splitFrom_isSplitFrom policy roots)
      (splitFrom_isWired hin policy roots) hroot hn).resolve_left (Nat.not_lt.2 hge)
    exact hf.model_new hin hroots hge hslot

end Schema

end Modelsmith
