/-
# Names among siblings

The identifier of a raw name is its candidate with as many marks as it takes to get out of
the way of the taken names, and no more.  Every mark makes the spelling longer, so that the
tries never run out.  Hence the identifiers of a list of raw names are names and differ from
each other.
-/
import Mathlib.Data.List.Nodup
import Mathlib.Data.List.Perm.Subperm
import Mathlib.Logic.Function.Iterate
import Mathlib.Order.Monotone.Basic
import Modelsmith.Proofs.Naming.Candidate

namespace Modelsmith.Naming.Convention

open Modelsmith.Text

variable {c : Convention} {role : Role} {taken : List String}

/-- The spelling of a text with a number of marks. -/
def marked (c : Convention) (role : Role) (s : String) (k : Nat) : String :=
  (c.style role).apply (mark^[k] s)

lemma marked_mark (s : String) (k : Nat) : c.marked role (mark s) k = c.marked role s (k + 1) := by
  rw [marked, marked, Function.iterate_succ_apply]

/-- More marks give a longer spelling. -/
lemma length_marked_lt (s : String) {i j : Nat} (hij : i < j) :
    (c.marked role s i).length < (c.marked role s j).length := by
  have hstep : ∀ k, (c.marked role s k).length < (c.marked role s (k + 1)).length := by
    intro k
    rw [marked, marked, Function.iterate_succ_apply']
    exact length_apply_mark _ _
  exact strictMono_nat_of_lt_succ (f := fun k => (c.marked role s k).length) hstep hij

lemma marked_injective (s : String) : Function.Injective (c.marked role s) := by
  intro i j hij
  rcases Nat.lt_trichotomy i j with h | h | h
  · exact absurd (congrArg String.length hij) (Nat.ne_of_lt (length_marked_lt s h))
  · exact h
  · exact absurd (congrArg String.length hij) (Nat.ne_of_gt (length_marked_lt s h))

/-- A list that holds the spellings with fewer than `k` marks has at least `k` members. -/
lemma le_length_of_marked_mem {s : String} {k : Nat} (h : ∀ i < k, c.marked role s i ∈ taken) :
    k ≤ taken.length := by
  have hnodup : ((List.range k).map (c.marked role s)).Nodup :=
    List.nodup_range.map (marked_injective s)
  have hsub : (List.range k).map (c.marked role s) ⊆ taken := by
    intro name hname
    obtain ⟨i, hi, rfl⟩ := List.mem_map.1 hname
    exact h i (List.mem_range.1 hi)
  simpa using (List.subperm_of_subset hnodup hsub).length_le

/-- The search tries the spellings with more and more marks, and stops at the first free one
or when the tries have run out. -/
lemma firstFree_eq (role : Role) (taken : List String) (hc : c.SparesMark) {s : String}
    (hs : c.IsSound s) (tries : Nat) :
    ∃ k ≤ tries, c.firstFree role taken tries s = c.marked role s k ∧
      (∀ i < k, c.marked role s i ∈ taken) ∧ (k < tries → c.marked role s k ∉ taken) := by
  induction tries generalizing s with
  | zero => exact ⟨0, Nat.le_refl 0, rfl, by simp, by simp⟩
  | succ tries ih =>
    rw [firstFree]
    split
    · next hclash =>
      obtain ⟨k, hk, heq, hbelow, hfree⟩ := ih (isSound_mark hs)
      refine ⟨k + 1, by omega, ?_, fun i hi => ?_, fun hlt => ?_⟩
      · rw [candidate_mark hc hs, heq, marked_mark]
      · cases i with
        | zero => exact List.contains_iff_mem.1 hclash
        | succ i =>
          rw [← marked_mark]
          exact hbelow i (by omega)
      · rw [← marked_mark]
        exact hfree (by omega)
    · next hfree =>
      exact ⟨0, Nat.zero_le _, rfl, by simp, fun _ hmem => hfree (List.contains_iff_mem.2 hmem)⟩

/-- The identifier of a raw name is its candidate with the least number of marks that makes it
free. -/
theorem identifier_eq (role : Role) (taken : List String) (hc : c.SparesMark) (raw : String) :
    ∃ k, c.identifier role taken raw = c.marked role (c.candidate role raw) k ∧
      (∀ i < k, c.marked role (c.candidate role raw) i ∈ taken) ∧
      c.marked role (c.candidate role raw) k ∉ taken := by
  obtain ⟨k, hk, heq, hbelow, hfree⟩ := firstFree_eq role taken hc
    (candidate_isSound raw) taken.length
  refine ⟨k, heq, hbelow, ?_⟩
  rcases Nat.lt_or_eq_of_le hk with hlt | rfl
  · exact hfree hlt
  · -- one more clash would be one more than there are taken names
    intro hclash
    have hall : ∀ i < taken.length + 1, c.marked role (c.candidate role raw) i ∈ taken := by
      intro i hi
      rcases Nat.lt_succ_iff_lt_or_eq.1 hi with hi | rfl
      · exact hbelow i hi
      · exact hclash
    have hle := le_length_of_marked_mem hall
    omega

theorem identifier_notMem (role : Role) (taken : List String) (hc : c.SparesMark) (raw : String) :
    c.identifier role taken raw ∉ taken := by
  obtain ⟨k, heq, -, hfree⟩ := identifier_eq role taken hc raw
  rwa [heq]

theorem isName_identifier (role : Role) (taken : List String) (hc : c.SparesMark) (raw : String) :
    c.IsName (c.identifier role taken raw) := by
  obtain ⟨k, heq, -⟩ := identifier_eq role taken hc raw
  rw [heq]
  cases k with
  | zero => exact isName_candidate hc raw
  | succ k =>
    rw [marked, Function.iterate_succ_apply']
    exact isName_mark hc _ _

/-- Identifiers of siblings are names, differ from each other and from the taken names. -/
theorem identifiers_spec (role : Role) (taken : List String) (hc : c.SparesMark)
    (raws : List String) :
    (c.identifiers role taken raws).Nodup ∧
      ∀ name ∈ c.identifiers role taken raws, c.IsName name ∧ name ∉ taken := by
  induction raws generalizing taken with
  | nil => simp [identifiers]
  | cons raw raws ih =>
    obtain ⟨hnodup, hall⟩ := ih (taken ++ [c.identifier role taken raw])
    rw [identifiers]
    refine ⟨List.nodup_cons.2 ⟨fun hmem => ?_, hnodup⟩, fun name hname => ?_⟩
    · exact (hall _ hmem).2 (by simp)
    · rcases List.mem_cons.1 hname with rfl | hname
      · exact ⟨isName_identifier role taken hc raw, identifier_notMem role taken hc raw⟩
      · obtain ⟨hisName, hnot⟩ := hall name hname
        exact ⟨hisName, fun hmem => hnot (by simp [hmem])⟩

end Modelsmith.Naming.Convention
