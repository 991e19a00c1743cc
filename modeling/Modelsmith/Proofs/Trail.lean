/-
# Trails of references

Whoever follows a partial step from a number goes through a trail of numbers.  A trail that
comes to an end never comes to a number twice, so that as many steps as there are numbers lead
to its end.  In a finite graph every trail comes to an end unless it runs into a cycle.
-/
import Mathlib.Data.Fintype.Card
import Mathlib.Data.Fintype.EquivFin
import Mathlib.Data.List.Perm.Subperm
import Mathlib.Logic.Relation
import Modelsmith.Graph.Walk

namespace Modelsmith

/-- The trail from a number to its end: `Trail next id path last` says that the steps from `id`
go through the numbers of `path`, `id` first, up to `last`, from where there is no step. -/
inductive Trail (next : ModelId → Option ModelId) : ModelId → List ModelId → ModelId → Prop
  | last {id : ModelId} (stop : next id = none) : Trail next id [id] id
  | step {id id' last : ModelId} {path : List ModelId} (go : next id = some id')
      (rest : Trail next id' path last) : Trail next id (id :: path) last

namespace Trail

variable {next : ModelId → Option ModelId} {id last : ModelId} {path : List ModelId}

/-- A number has at most one trail. -/
lemma unique (h : Trail next id path last) {path' : List ModelId} {last' : ModelId}
    (h' : Trail next id path' last') : path = path' ∧ last = last' := by
  induction h generalizing path' last' with
  | last stop =>
    cases h' with
    | last _ => exact ⟨rfl, rfl⟩
    | step go _ => simp [stop] at go
  | step go _ ih =>
    cases h' with
    | last stop => simp [go] at stop
    | step go' rest' =>
      obtain rfl := Option.some.inj (go.symm.trans go')
      obtain ⟨rfl, rfl⟩ := ih rest'
      exact ⟨rfl, rfl⟩

/-- Every number on a trail has a trail that is not longer. -/
lemma of_mem (h : Trail next id path last) {k : ModelId} (hk : k ∈ path) :
    ∃ path', Trail next k path' last ∧ path'.length ≤ path.length := by
  induction h with
  | last stop =>
    obtain rfl := List.mem_singleton.1 hk
    exact ⟨_, .last stop, Nat.le_refl _⟩
  | step go rest ih =>
    rcases List.mem_cons.1 hk with rfl | hk
    · exact ⟨_, .step go rest, Nat.le_refl _⟩
    · obtain ⟨path', htrail, hle⟩ := ih hk
      exact ⟨path', htrail, Nat.le_succ_of_le hle⟩

/-- A trail that ends comes to no number twice. -/
lemma nodup (h : Trail next id path last) : path.Nodup := by
  induction h with
  | last stop => simp
  | step go rest ih =>
    refine List.nodup_cons.2 ⟨fun hmem => ?_, ih⟩
    obtain ⟨path', htrail, hle⟩ := rest.of_mem hmem
    obtain ⟨rfl, -⟩ := htrail.unique (.step go rest)
    exact absurd hle (Nat.not_succ_le_self _)

/-- Enough steps lead to the end of the trail. -/
lemma follow_eq (h : Trail next id path last) {steps : Nat} (hsteps : path.length ≤ steps + 1) :
    follow next steps id = last := by
  induction h generalizing steps with
  | last stop => cases steps <;> simp [follow, stop]
  | step go rest ih =>
    cases steps with
    | zero =>
      cases rest <;> simp at hsteps
    | succ steps =>
      rw [follow, go]
      exact ih (by simpa using hsteps)

/-- Steps that have come to an end have followed a trail. -/
lemma of_follow {steps : Nat} (h : next (follow next steps id) = none) :
    ∃ path, Trail next id path (follow next steps id) := by
  induction steps generalizing id with
  | zero => exact ⟨_, .last h⟩
  | succ steps ih =>
    rw [follow] at h ⊢
    cases hnext : next id with
    | none => exact ⟨_, .last hnext⟩
    | some id' =>
      rw [hnext] at h
      obtain ⟨path, htrail⟩ := ih h
      exact ⟨_, .step hnext htrail⟩

/-- The end of a trail is on it. -/
lemma last_mem (h : Trail next id path last) : last ∈ path := by
  induction h with
  | last _ => simp
  | step _ _ ih => simp [ih]

/-- A map that takes the steps from some numbers to steps takes their trails to trails. -/
lemma map {next' : ModelId → Option ModelId} {f : ModelId → ModelId} {P : ModelId → Prop}
    (h : Trail next id path last) (hid : P id)
    (hstep : ∀ i, P i → next' (f i) = (next i).map f)
    (hnext : ∀ i j, P i → next i = some j → P j) :
    Trail next' (f id) (path.map f) (f last) ∧ P last := by
  induction h with
  | last stop => exact ⟨.last (by rw [hstep _ hid, stop, Option.map_none]), hid⟩
  | step go rest ih =>
    obtain ⟨htrail, hlast⟩ := ih (hnext _ _ hid go)
    exact ⟨.step (by rw [hstep _ hid, go, Option.map_some]) htrail, hlast⟩

variable {size : Nat}

lemma mem_lt (h : Trail next id path last) (hrange : ∀ i j, next i = some j → i < size → j < size)
    (hid : id < size) : ∀ k ∈ path, k < size := by
  induction h with
  | last _ => simpa using hid
  | step go _ ih => exact List.forall_mem_cons.2 ⟨hid, ih (hrange _ _ go hid)⟩

/-- As many steps as there are numbers lead to the end of the trail. -/
theorem follow_size (h : Trail next id path last)
    (hrange : ∀ i j, next i = some j → i < size → j < size) (hid : id < size) :
    follow next size id = last := by
  refine h.follow_eq ?_
  have hsub : path ⊆ List.range size := fun k hk => List.mem_range.2 (h.mem_lt hrange hid k hk)
  have hle := (List.subperm_of_subset h.nodup hsub).length_le
  rw [List.length_range] at hle
  exact Nat.le_succ_of_le hle

end Trail

/-- Without a cycle every trail of steps between finitely many numbers comes to an end. -/
theorem exists_trail {next : ModelId → Option ModelId} (size : Nat)
    (hacyclic : ∀ i, ¬ Relation.TransGen (fun a b => next a = some b) i i)
    (hrange : ∀ i j, next i = some j → i < size → j < size) {id : ModelId} (hid : id < size) :
    ∃ path last, Trail next id path last := by
  -- the steps between finitely many numbers are well-founded if there is no cycle
  let after : Fin size → Fin size → Prop := fun j i =>
    Relation.TransGen (fun a b => next a = some b) i.val j.val
  have htrans : IsTrans (Fin size) after := ⟨fun _ _ _ hab hbc => hbc.trans hab⟩
  have hirrefl : Std.Irrefl after := ⟨fun i => hacyclic i.val⟩
  have hwf : WellFounded after := Finite.wellFounded_of_trans_of_irrefl after
  suffices hall : ∀ i : Fin size, ∃ path last, Trail next i.val path last from hall ⟨id, hid⟩
  intro i
  induction i using hwf.induction with
  | _ i ih =>
    cases hnext : next i.val with
    | none => exact ⟨_, _, .last hnext⟩
    | some j =>
      obtain ⟨path, last, htrail⟩ := ih ⟨j, hrange _ _ hnext i.isLt⟩ (.single hnext)
      exact ⟨_, _, .step hnext htrail⟩

end Modelsmith
