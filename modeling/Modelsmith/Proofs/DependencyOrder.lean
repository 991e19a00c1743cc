/-
# The order of dependencies

The references that a part depends on stand in the order in which a depth-first search comes to
them: whoever goes to the slots and then to the parents of the part, each time to everything
below before going on, without crossing a reference and without starting again at the part
itself, keeps of all references with one target the first, and none to the part itself.
-/
import Modelsmith.Proofs.Dependencies
import Modelsmith.Proofs.Walk.Meeting

namespace Modelsmith

namespace Blueprint

variable {b : Blueprint} {root id r t : ModelId} {seen ids : List ModelId}

/-! ## First references -/

/-- What is left are the first references to targets that are new. -/
lemma mem_oncePerTarget_iff : r ∈ b.oncePerTarget seen ids ↔
    ∃ t, t ∉ seen ∧ ids.find? (fun r => b.target? r = some t) = some r := by
  fun_induction oncePerTarget b seen ids with
  | case1 => simp
  | case2 seen id rest hnone ih =>
    have hother : b.target? id = none := hnone
    simp [ih, hother]
  | case3 seen id rest target htarget hseen ih =>
    rw [ih]
    refine exists_congr fun t => and_congr_right fun hnew => ?_
    have hne : target ≠ t := fun heq => hnew (heq ▸ hseen)
    have hother : b.target? id ≠ some t := fun h => hne (Option.some.inj (htarget.symm.trans h))
    simp [hother]
  | case4 seen id rest target htarget hnew ih =>
    have hfirst : b.target? id = some target := htarget
    rw [List.mem_cons, ih]
    constructor
    · rintro (rfl | ⟨t, ht, hfind⟩)
      · exact ⟨target, hnew, by simp [hfirst]⟩
      · obtain ⟨hne, hnotSeen⟩ : t ≠ target ∧ t ∉ seen := by simpa using ht
        exact ⟨t, hnotSeen, by simpa [List.find?_cons, hfirst, Ne.symm hne] using hfind⟩
    · rintro ⟨t, ht, hfind⟩
      by_cases heq : target = t
      · subst heq
        exact .inl (by simpa [List.find?_cons, hfirst, eq_comm] using hfind)
      · have hrest : rest.find? (fun r => b.target? r = some t) = some r := by
          simpa [List.find?_cons, hfirst, heq] using hfind
        exact .inr ⟨t, by simp [Ne.symm heq, ht], hrest⟩

lemma oncePerTarget_sublist (b : Blueprint) (seen ids : List ModelId) :
    (b.oncePerTarget seen ids).Sublist ids := by
  fun_induction oncePerTarget b seen ids with
  | case1 => exact .slnil
  | case2 seen id rest hnone ih => exact ih.cons id
  | case3 seen id rest target htarget hseen ih => exact ih.cons id
  | case4 seen id rest target htarget hnew ih => exact ih.cons_cons id

/-- A part that is no reference to a new target may as well be left out. -/
lemma oncePerTarget_filter_ne {x : ModelId} (hx : ∀ t, b.target? x = some t → t ∈ seen) :
    b.oncePerTarget seen (ids.filter fun r => !r == x) = b.oncePerTarget seen ids := by
  fun_induction oncePerTarget b seen ids with
  | case1 => rfl
  | case2 seen id rest hnone ih =>
    by_cases hid : id = x
    · simp [hid, ih hx]
    · simp [hid, ih hx, oncePerTarget, hnone]
  | case3 seen id rest target htarget hseen ih =>
    by_cases hid : id = x
    · simp [hid, ih hx]
    · simp [hid, ih hx, oncePerTarget, htarget, hseen]
  | case4 seen id rest target htarget hnew ih =>
    have hid : id ≠ x := by
      rintro rfl
      exact hnew (hx target htarget)
    have hrec := ih fun t ht => List.mem_cons_of_mem _ (hx t ht)
    simp [hid, hrec, oncePerTarget, htarget, hnew]

/-- Only first occurrences count. -/
lemma oncePerTarget_eraseDups (b : Blueprint) (seen ids : List ModelId) :
    b.oncePerTarget seen ids.eraseDups = b.oncePerTarget seen ids := by
  match ids with
  | [] => rfl
  | id :: rest =>
    rw [List.eraseDups_cons, oncePerTarget, oncePerTarget]
    cases htarget : (b.part id).shape.target? with
    | none =>
      rw [oncePerTarget_eraseDups, oncePerTarget_filter_ne fun t ht => ?_]
      exact absurd (htarget.symm.trans ht) (by simp)
    | some target =>
      have hsame : ∀ t, b.target? id = some t → t = target := fun t ht =>
        Option.some.inj (ht.symm.trans htarget)
      dsimp only
      rw [oncePerTarget_eraseDups, oncePerTarget_eraseDups]
      split
      · next hseen => exact oncePerTarget_filter_ne fun t ht => hsame t ht ▸ hseen
      · rw [oncePerTarget_filter_ne fun t ht => by simp [hsame t ht]]
termination_by ids.length
decreasing_by all_goals exact Nat.lt_succ_of_le (List.length_filter_le _ _)

/-! ## The search for references -/

/-- The parts in the slots of a part, then its parents. -/
def neighbors (b : Blueprint) (id : ModelId) : List ModelId :=
  (b.part id).shape.slots ++ (b.part id).options.parents

lemma targets_localEdges (b : Blueprint) (root id : ModelId) :
    targets (b.localEdges root) id =
      if id ≠ root ∧ (b.part id).variant = .reference then [] else b.neighbors id := by
  have hends : ∀ link : Nat → Link, ∀ ends : List ModelId,
      (ends.mapIdx fun i target => (⟨id, link i, target⟩ : Edge)).map (·.target) = ends := by
    intro link ends
    apply List.ext_getElem <;> simp
  rw [targets, localEdges]
  split
  · rfl
  · rw [List.map_append, slotEdges, Modelsmith.slotEdges, parentEdges, hends, hends, neighbors]

/-- The parts that the walk for the dependencies meets are found depth-first. -/
lemma depthFirst_neighbors (b : Blueprint) (id : ModelId) :
    DepthFirst (fun n => if n = id ∨ (b.part n).variant = .reference then [] else b.neighbors n)
      [] (b.neighbors id) (met (walk (b.localEdges id) b.size id)) := by
  have hsearch : DepthFirst _ [] _ (met (walk (b.localEdges id) b.size id)) :=
    walk_meets fun _ => localEdges_of_le
  have hnext : (fun n => if n = id then [] else targets (b.localEdges id) n) =
      fun n => if n = id ∨ (b.part n).variant = .reference then [] else b.neighbors n := by
    funext n
    by_cases hn : n = id <;> simp [targets_localEdges, hn]
  have hstart : targets (b.localEdges id) id = b.neighbors id := by simp [targets_localEdges]
  rwa [hnext, hstart] at hsearch

/-- The references near a part are among the parts that the search finds. -/
lemma isNear_iff_met : b.IsNear id r ↔
    r ∈ met (walk (b.localEdges id) b.size id) ∧ (b.part r).variant = .reference := by
  rw [mem_met_walk_iff fun _ => localEdges_of_le]
  exact ⟨fun h => ⟨h.reached, h.variant⟩, fun h => ⟨h.2, h.1⟩⟩

lemma nearestDependencies_eq (b : Blueprint) (id : ModelId) :
    b.nearestDependencies id =
      b.oncePerTarget [id] (met (walk (b.localEdges id) b.size id)) := by
  rw [met, oncePerTarget_eraseDups]
  rfl

/-- There is one dependency for each target of the references near a part, the part itself set
aside. -/
lemma existsUnique_dependency (ht : t ≠ id) :
    (∃! r, r ∈ b.nearestDependencies id ∧ b.target? r = some t) ↔
      ∃ r, b.IsNear id r ∧ b.target? r = some t := by
  constructor
  · rintro ⟨r, ⟨hr, htarget⟩, -⟩
    exact ⟨r, (near_of_mem hr).1, htarget⟩
  · rintro ⟨r, hnear, htarget⟩
    have hother : b.target? r ≠ some id := fun h => ht (Option.some.inj (htarget.symm.trans h))
    obtain ⟨r', hr', heq⟩ := exists_dependency hnear hother
    refine ⟨r', ⟨hr', heq.trans htarget⟩, fun r'' h'' => ?_⟩
    exact List.inj_on_of_nodup_map (b.oncePerTarget_nodup _ _) h''.1 hr'
      (h''.2.trans (heq.trans htarget).symm)

/-- The dependencies of a part are, for each target other than the part that the references
near it have, the first of these references in the order of a depth-first search, and they
stand in this order. -/
theorem nearestDependencies_first (b : Blueprint) (id : ModelId) :
    ∃ found, DepthFirst
        (fun n => if n = id ∨ (b.part n).variant = .reference then [] else b.neighbors n)
        [] (b.neighbors id) found ∧
      (∀ r, b.IsNear id r ↔ r ∈ found ∧ (b.part r).variant = .reference) ∧
      (b.nearestDependencies id).Sublist found ∧
      (∀ r, r ∈ b.nearestDependencies id ↔
        ∃ t, t ≠ id ∧ found.find? (fun r => b.target? r = some t) = some r) ∧
      (∀ t, t ≠ id → ((∃! r, r ∈ b.nearestDependencies id ∧ b.target? r = some t) ↔
        ∃ r, b.IsNear id r ∧ b.target? r = some t)) ∧
      ((b.nearestDependencies id).map b.target?).Nodup ∧
      ∀ r ∈ b.nearestDependencies id, b.IsNear id r ∧ b.target? r ≠ some id := by
  refine ⟨_, b.depthFirst_neighbors id, fun r => isNear_iff_met, ?_, fun r => ?_,
    fun t => existsUnique_dependency, b.oncePerTarget_nodup _ _, fun r => near_of_mem⟩
  · rw [nearestDependencies_eq]
    exact b.oncePerTarget_sublist _ _
  · rw [nearestDependencies_eq, mem_oncePerTarget_iff]
    simp only [List.mem_singleton, ne_eq]

end Blueprint

end Modelsmith
