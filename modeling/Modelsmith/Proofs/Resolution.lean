/-
# Resolving references

A reference is resolved by as many steps along targets as its graph has models.  Every step but
the last one of a chain leaves another reference, so that so many steps come to the end of every
chain that has one.  A chain without an end runs into a cycle.  Then the steps stop somewhere on
the cycle: at the reference where it closes if they go round a whole number of times, and
elsewhere otherwise.
-/
import Mathlib.Data.Fintype.Pigeonhole
import Mathlib.Dynamics.PeriodicPts.Defs
import Modelsmith.Proofs.Typing.Contents

namespace Modelsmith

open Function

variable {next : ModelId → Option ModelId} {id last : ModelId} {size : Nat}

/-! ## Chains with an end -/

namespace Trail

variable {path : List ModelId}

/-- The numbers of a trail before its end have steps. -/
lemma exists_next (h : Trail next id path last) {k : ModelId} (hk : k ∈ path.dropLast) :
    ∃ j, next k = some j := by
  induction h with
  | last _ => simp at hk
  | @step id id' last path go rest ih =>
    have hne : path ≠ [] := List.ne_nil_of_mem rest.last_mem
    rw [List.dropLast_cons_of_ne_nil hne] at hk
    rcases List.mem_cons.1 hk with rfl | hk
    · exact ⟨id', go⟩
    · exact ih hk

/-- If only numbers below `size` have steps, then `size` steps lead to the end of the trail,
wherever it starts and ends. -/
lemma follow_of_lt (h : Trail next id path last) (hsize : ∀ i j, next i = some j → i < size) :
    follow next size id = last := by
  have hsub : path.dropLast ⊆ List.range size := by
    intro k hk
    obtain ⟨j, hj⟩ := h.exists_next hk
    exact List.mem_range.2 (hsize k j hj)
  have hnodup : path.dropLast.Nodup := h.nodup.sublist (List.dropLast_sublist path)
  have hle := (List.subperm_of_subset hnodup hsub).length_le
  rw [List.length_dropLast, List.length_range] at hle
  exact h.follow_eq (by omega)

lemma exists_of_reaches (h : Relation.ReflTransGen (fun i j => next i = some j) id last)
    (stop : next last = none) : ∃ path, Trail next id path last := by
  induction h using Relation.ReflTransGen.head_induction_on with
  | refl => exact ⟨_, .last stop⟩
  | head go _ ih =>
    obtain ⟨path, htrail⟩ := ih
    exact ⟨_, .step go htrail⟩

end Trail

lemma reaches_follow (steps : Nat) (id : ModelId) :
    Relation.ReflTransGen (fun i j => next i = some j) id (follow next steps id) := by
  induction steps generalizing id with
  | zero => exact .refl
  | succ steps ih =>
    rw [follow]
    cases hid : next id with
    | none => exact .refl
    | some id' => exact (ih id').head hid

/-- A number without a step is where the steps lead if and only if it ends the chain. -/
lemma follow_eq_iff (hsize : ∀ i j, next i = some j → i < size) (stop : next last = none) :
    follow next size id = last ↔
      Relation.ReflTransGen (fun i j => next i = some j) id last := by
  constructor
  · rintro rfl
    exact reaches_follow size id
  · intro h
    obtain ⟨path, htrail⟩ := Trail.exists_of_reaches h stop
    exact htrail.follow_of_lt hsize

/-! ## Chains without an end -/

/-- The steps from a number never come to an end. -/
def IsEndless (next : ModelId → Option ModelId) (id : ModelId) : Prop :=
  ∀ k, Relation.ReflTransGen (fun i j => next i = some j) id k → next k ≠ none

/-- A chain closes after `tail` steps: the number there is the first one that it comes to for
the second time, and it does so `period` steps later. -/
structure ClosesAt (chain : Nat → ModelId) (tail period : Nat) : Prop where
  pos : 0 < period
  returns : chain (tail + period) = chain tail
  distinct : ∀ i j, i < j → j < tail + period → chain i ≠ chain j

/-- A chain through finitely many numbers closes. -/
lemma exists_closesAt {chain : Nat → ModelId} (hsize : ∀ n, chain n < size) :
    ∃ tail period, ClosesAt chain tail period ∧ tail + period ≤ size := by
  classical
  obtain ⟨a, b, hne, heq⟩ := Fintype.exists_ne_map_eq_of_card_lt
    (fun n : Fin (size + 1) => (⟨chain n, hsize n⟩ : Fin size)) (by simp)
  have hchain : chain a = chain b := by simpa using heq
  have hrepeats : ∃ j ≤ size, ∃ i < j, chain i = chain j := by
    rcases Nat.lt_or_gt_of_ne (Fin.val_ne_of_ne hne) with h | h
    · exact ⟨b, Nat.le_of_lt_succ b.isLt, a, h, hchain⟩
    · exact ⟨a, Nat.le_of_lt_succ a.isLt, b, h, hchain.symm⟩
  -- the first place where the chain comes to a number again
  obtain ⟨hle, i, hi, hreturns⟩ := Nat.find_spec hrepeats
  refine ⟨i, Nat.find hrepeats - i, ⟨Nat.sub_pos_of_lt hi, ?_, ?_⟩, ?_⟩
  · rw [Nat.add_sub_cancel' hi.le, hreturns]
  · intro k j hk hj heq
    rw [Nat.add_sub_cancel' hi.le] at hj
    exact Nat.find_min hrepeats hj ⟨by omega, k, hk, heq⟩
  · rwa [Nat.add_sub_cancel' hi.le]

/-- The number after a number; one without a step stays where it is. -/
def hop (next : ModelId → Option ModelId) (id : ModelId) : ModelId := (next id).getD id

lemma follow_eq_iterate (steps : Nat) (id : ModelId) :
    follow next steps id = (hop next)^[steps] id := by
  induction steps generalizing id with
  | zero => rfl
  | succ steps ih =>
    rw [follow, iterate_succ_apply, hop]
    cases hid : next id with
    | none =>
      have hstay : hop next id = id := by rw [hop, hid, Option.getD_none]
      exact (iterate_fixed hstay steps).symm
    | some id' => exact ih id'

namespace ClosesAt

variable {f : ModelId → ModelId} {tail period n : Nat}
  (h : ClosesAt (fun n => f^[n] id) tail period)
include h

/-- The number where a chain closes has the period of the chain. -/
lemma minimalPeriod_eq : minimalPeriod f (f^[tail] id) = period := by
  have hshift : ∀ n, f^[n] (f^[tail] id) = f^[tail + n] id := fun n => by
    rw [Nat.add_comm, iterate_add_apply]
  have hperiod : IsPeriodicPt f period (f^[tail] id) := (hshift period).trans h.returns
  refine Nat.le_antisymm (hperiod.minimalPeriod_le h.pos) (Nat.le_of_not_lt fun hlt => ?_)
  -- an earlier return would be a second visit before the chain closes
  have hreturns := (hshift _).symm.trans (iterate_minimalPeriod (f := f) (x := f^[tail] id))
  exact h.distinct tail _ (Nat.lt_add_of_pos_right (hperiod.minimalPeriod_pos h.pos))
    (Nat.add_lt_add_left hlt tail) hreturns.symm

/-- Steps lead to where the chain closes if they go round its cycle a whole number of times. -/
lemma iterate_eq_iff (hn : tail ≤ n) : f^[n] id = f^[tail] id ↔ period ∣ n - tail := by
  have hsplit : f^[n] id = f^[n - tail] (f^[tail] id) := by
    rw [← iterate_add_apply, Nat.sub_add_cancel hn]
  rw [hsplit, ← h.minimalPeriod_eq, ← isPeriodicPt_iff_minimalPeriod_dvd]
  rfl

/-- On the cycle, further steps come back to the same number if they go round a whole number of
times. -/
lemma iterate_add_eq_iff (hn : tail ≤ n) (more : Nat) :
    f^[n + more] id = f^[n] id ↔ period ∣ more := by
  have hmem : f^[tail] id ∈ periodicPts f := by
    rw [← minimalPeriod_pos_iff_mem_periodicPts, h.minimalPeriod_eq]
    exact h.pos
  have hperiod : minimalPeriod f (f^[n] id) = period := by
    rw [← Nat.sub_add_cancel hn, iterate_add_apply, minimalPeriod_apply_iterate hmem,
      h.minimalPeriod_eq]
  rw [Nat.add_comm, iterate_add_apply, ← hperiod, ← isPeriodicPt_iff_minimalPeriod_dvd]
  rfl

end ClosesAt

namespace IsEndless

lemma of_chain {chain : Nat → ModelId} (hchain : ∀ n, next (chain n) = some (chain (n + 1))) :
    IsEndless next (chain 0) := by
  intro k hk
  suffices hon : ∃ n, k = chain n by
    obtain ⟨n, rfl⟩ := hon
    simp [hchain n]
  induction hk with
  | refl => exact ⟨0, rfl⟩
  | tail _ hstep ih =>
    obtain ⟨n, rfl⟩ := ih
    exact ⟨n + 1, Option.some.inj (hstep.symm.trans (hchain n))⟩

/-- Every number on an endless chain has a step. -/
lemma step (h : IsEndless next id) (n : Nat) :
    next ((hop next)^[n] id) = some ((hop next)^[n + 1] id) := by
  have hreach : Relation.ReflTransGen (fun i j => next i = some j) id ((hop next)^[n] id) :=
    follow_eq_iterate n id ▸ reaches_follow n id
  obtain ⟨j, hj⟩ := Option.ne_none_iff_exists'.1 (h _ hreach)
  rw [iterate_succ_apply', hop, hj, Option.getD_some]

/-- Steps from further numbers do not change an endless chain. -/
lemma iterate_congr (h : IsEndless next id) {next' : ModelId → Option ModelId}
    (hnext : ∀ i j, next i = some j → next' i = some j) (n : Nat) :
    (hop next')^[n] id = (hop next)^[n] id := by
  induction n with
  | zero => rfl
  | succ n ih =>
    rw [iterate_succ_apply', ih, hop, hnext _ _ (h.step n), Option.getD_some]

end IsEndless

/-! ## References of schemas and blueprints -/

lemma Schema.lt_size_of_target? {s : Schema} {i j : ModelId} (h : s.target? i = some j) :
    i < s.size := by
  refine Nat.lt_of_not_le fun hle => ?_
  rw [target?, model_of_le hle] at h
  cases h

lemma Blueprint.lt_size_of_target? {b : Blueprint} {i j : ModelId} (h : b.target? i = some j) :
    i < b.size :=
  lt_size_of_mem_edges (edge_of_target? h)

/-- In a schema as in a blueprint, a number resolves to one that is no reference if and only if
references lead from the one to the other, however many they are. -/
theorem resolve_eq_iff :
    (∀ (s : Schema) (id last : ModelId), s.target? last = none →
      (s.resolve id = last ↔
        Relation.ReflTransGen (fun i j => s.target? i = some j) id last)) ∧
    ∀ (b : Blueprint) (id last : ModelId), b.target? last = none →
      (b.resolve id = last ↔
        Relation.ReflTransGen (fun i j => b.target? i = some j) id last) :=
  ⟨fun _ _ _ => follow_eq_iff fun _ _ => Schema.lt_size_of_target?,
    fun _ _ _ => follow_eq_iff fun _ _ => Blueprint.lt_size_of_target?⟩

namespace Schema

variable {s : Schema}

/-- A chain of references as long as three models can have it. -/
def chainSample : Schema :=
  ⟨#[plain "a" (.reference 1), plain "b" (.reference 2), plain "c" .string]⟩

/-- The same chain with names and types. -/
def chainPlan : Blueprint where
  parts := #[{ name := "A", type := "C", shape := .reference 1, source := 0 },
    { name := "B", type := "C", shape := .reference 2, source := 1 },
    { name := "C", type := "string", shape := .string, source := 2 }]

/-- The longest chains of references in three models and in three parts. -/
theorem resolve_chainSample :
    (chainSample.target? 2 = none ∧ chainSample.resolve 0 = 2) ∧
      chainPlan.target? 2 = none ∧ chainPlan.resolve 0 = 2 :=
  ⟨⟨rfl, (resolve_eq_iff.1 chainSample 0 2 rfl).2 (.head (b := 1) rfl (.single rfl))⟩,
    rfl, (resolve_eq_iff.2 chainPlan 0 2 rfl).2 (.head (b := 1) rfl (.single rfl))⟩

/-! ## Schemas that grow -/

/-- Add several models, one after the other. -/
def insertAll (s : Schema) (more : List Model) : Schema := more.foldl insert s

lemma size_insertAll (s : Schema) (more : List Model) :
    (s.insertAll more).size = s.size + more.length := by
  induction more generalizing s with
  | nil => rfl
  | cons m more ih =>
    have hsize : (s.insert m).size = s.size + 1 := Array.size_push m
    show ((s.insert m).insertAll more).size = _
    rw [ih, hsize, List.length_cons]
    omega

/-- References stay as they are. -/
lemma target?_insertAll {i j : ModelId} (more : List Model) (h : s.target? i = some j) :
    (s.insertAll more).target? i = some j := by
  induction more generalizing s with
  | nil => exact h
  | cons m more ih =>
    have hlt : i < s.models.size := lt_size_of_target? h
    have hold : (s.insert m).model i = s.model i := by
      simp [insert, model, Array.getElem?_push, hlt.ne]
    refine ih (s := s.insert m) ?_
    rw [target?, hold]
    exact h

/-- An endless chain of references closes at one of them.  The start of the chain resolves to
this one if and only if, besides the references in front of it, the schema has models for a whole
number of rounds.  Further models change what the start resolves to unless they are enough for a
whole number of rounds, too. -/
theorem resolve_endless (h : IsEndless s.target? id) :
    ∃ chain : Nat → ModelId, chain 0 = id ∧
      (∀ n, s.target? (chain n) = some (chain (n + 1))) ∧
      ∃ tail period, ClosesAt chain tail period ∧ tail + period ≤ s.size ∧
        (s.resolve id = chain tail ↔ period ∣ s.size - tail) ∧
        ∀ more : List Model,
          (s.insertAll more).resolve id = s.resolve id ↔ period ∣ more.length := by
  have hresolve : s.resolve id = (hop s.target?)^[s.size] id := follow_eq_iterate s.size id
  have hsize : ∀ n, (hop s.target?)^[n] id < s.size := fun n => lt_size_of_target? (h.step n)
  obtain ⟨tail, period, hcloses, hle⟩ := exists_closesAt hsize
  have htail : tail ≤ s.size := Nat.le_trans (Nat.le_add_right _ _) hle
  refine ⟨fun n => (hop s.target?)^[n] id, rfl, h.step, tail, period, hcloses, hle, ?_, ?_⟩
  · rw [hresolve]
    exact hcloses.iterate_eq_iff htail
  · intro more
    have hmore : (s.insertAll more).resolve id = (hop s.target?)^[s.size + more.length] id := by
      rw [← s.size_insertAll more, ← h.iterate_congr fun i j => target?_insertAll more]
      exact follow_eq_iterate _ id
    rw [hmore, hresolve]
    exact hcloses.iterate_add_eq_iff htail more.length

/-- A reference in front of two others that refer to each other. -/
def lassoSample : Schema :=
  ⟨#[plain "a" (.reference 1), plain "b" (.reference 2), plain "c" (.reference 1)]⟩

/-- The chain from the first reference. -/
def lassoChain : Nat → ModelId
  | 0 => 0
  | n + 1 => n % 2 + 1

lemma target?_lassoChain (more : List Model) (n : Nat) :
    (lassoSample.insertAll more).target? (lassoChain n) = some (lassoChain (n + 1)) := by
  refine target?_insertAll more ?_
  cases n with
  | zero => rfl
  | succ n =>
    rw [lassoChain, lassoChain]
    rcases Nat.mod_two_eq_zero_or_one n with hn | hn
    · rw [hn, show (n + 1) % 2 = 1 by omega]
      rfl
    · rw [hn, show (n + 1) % 2 = 0 by omega]
      rfl

/-- The rounds of three references, two of which refer to each other. -/
theorem resolve_endless_lassoSample : IsEndless lassoSample.target? 0 ∧
    ∃ chain : Nat → ModelId, chain 0 = 0 ∧
      (∀ n, lassoSample.target? (chain n) = some (chain (n + 1))) ∧
      ∃ tail period, ClosesAt chain tail period ∧ tail + period ≤ lassoSample.size ∧
        (lassoSample.resolve 0 = chain tail ↔ period ∣ lassoSample.size - tail) ∧
        ∀ more : List Model,
          (lassoSample.insertAll more).resolve 0 = lassoSample.resolve 0 ↔
            period ∣ more.length :=
  have hendless := IsEndless.of_chain (target?_lassoChain [])
  ⟨hendless, resolve_endless hendless⟩

/-- With one more model, the first of the three references does not resolve to the second, where
its chain closes, but to the third.  Without that model it resolves to the second. -/
theorem resolve_lassoSample_string :
    IsEndless (lassoSample.insertAll [plain "d" .string]).target? 0 ∧
      lassoChain 0 = 0 ∧
      (∀ n, (lassoSample.insertAll [plain "d" .string]).target? (lassoChain n) =
        some (lassoChain (n + 1))) ∧
      ClosesAt lassoChain 1 2 ∧ lassoChain 1 = 1 ∧
      (lassoSample.insertAll [plain "d" .string]).resolve 0 = 2 ∧
      lassoSample.resolve 0 = 1 := by
  have hchain := target?_lassoChain [plain "d" .string]
  have hdistinct : ∀ j < 3, ∀ i < j, lassoChain i ≠ lassoChain j := by decide
  exact ⟨IsEndless.of_chain hchain, rfl, hchain,
    ⟨Nat.two_pos, rfl, fun i j hij hj => hdistinct j hj i hij⟩, rfl, rfl, rfl⟩

end Schema

end Modelsmith
