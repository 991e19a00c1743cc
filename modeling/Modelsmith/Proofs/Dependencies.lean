/-
# Nearest dependencies

The references that a part depends on are found on a walk along slots and parents that crosses
no reference; of several references with one target only the first counts, and none that refers
to the part itself.  What is imported are the names that these references resolve to.
-/
import Modelsmith.Proofs.Edges
import Modelsmith.Proofs.Typing.Resolve
import Modelsmith.Proofs.Walk.Meeting

namespace Modelsmith

namespace Blueprint

variable {b : Blueprint} {root r r' : ModelId} {name : String}

/-- The name of the part that a part refers to in the end. -/
def resolvedName (b : Blueprint) (id : ModelId) : String := (b.part (b.resolve id)).name

/-- A reference that `root` comes to through slots and parents, without crossing another
reference. -/
structure IsNear (b : Blueprint) (root r : ModelId) : Prop where
  variant : (b.part r).variant = .reference
  reached : Relation.TransGen (Leads (b.localEdges root)) root r

/-! ## One reference for each target -/

lemma mem_of_mem_oncePerTarget {seen ids : List ModelId} (hr : r ∈ b.oncePerTarget seen ids) :
    r ∈ ids ∧ ∃ t, b.target? r = some t ∧ t ∉ seen := by
  fun_induction oncePerTarget b seen ids with
  | case1 => simp at hr
  | case2 seen id rest hnone ih =>
    obtain ⟨hmem, ht⟩ := ih hr
    exact ⟨by simp [hmem], ht⟩
  | case3 seen id rest t htarget hseen ih =>
    obtain ⟨hmem, ht⟩ := ih hr
    exact ⟨by simp [hmem], ht⟩
  | case4 seen id rest t htarget hnew ih =>
    rcases List.mem_cons.1 hr with rfl | hr
    · exact ⟨by simp, t, htarget, hnew⟩
    · obtain ⟨hmem, t', ht', hnew'⟩ := ih hr
      exact ⟨by simp [hmem], t', ht', fun hseen => hnew' (by simp [hseen])⟩

/-- The references that are left have different targets. -/
lemma oncePerTarget_nodup (b : Blueprint) (seen ids : List ModelId) :
    ((b.oncePerTarget seen ids).map b.target?).Nodup := by
  fun_induction oncePerTarget b seen ids with
  | case1 => simp
  | case2 seen id rest hnone ih => exact ih
  | case3 seen id rest t htarget hseen ih => exact ih
  | case4 seen id rest t htarget hnew ih =>
    rw [List.map_cons, List.nodup_cons]
    refine ⟨fun hmem => ?_, ih⟩
    obtain ⟨r, hr, heq⟩ := List.mem_map.1 hmem
    obtain ⟨-, t', ht', hnew'⟩ := mem_of_mem_oncePerTarget hr
    obtain rfl : t' = t := Option.some.inj (ht'.symm.trans (heq.trans htarget))
    simp at hnew'

/-- For every target that is new, a reference is left. -/
lemma exists_mem_oncePerTarget {seen ids : List ModelId} {t : ModelId} (hr : r ∈ ids)
    (htarget : b.target? r = some t) (hnew : t ∉ seen) :
    ∃ r' ∈ b.oncePerTarget seen ids, b.target? r' = some t := by
  fun_induction oncePerTarget b seen ids with
  | case1 => simp at hr
  | case2 seen id rest hnone ih =>
    rcases List.mem_cons.1 hr with rfl | hr
    · cases hnone.symm.trans htarget
    · exact ih hr hnew
  | case3 seen id rest t' htarget' hseen ih =>
    rcases List.mem_cons.1 hr with rfl | hr
    · obtain rfl : t' = t := Option.some.inj (htarget'.symm.trans htarget)
      exact absurd hseen hnew
    · exact ih hr hnew
  | case4 seen id rest t' htarget' hnew' ih =>
    by_cases ht : t = t'
    · exact ⟨id, by simp, ht ▸ htarget'⟩
    · rcases List.mem_cons.1 hr with rfl | hr
      · exact absurd (Option.some.inj (htarget.symm.trans htarget')) ht
      · obtain ⟨r', hr', heq⟩ := ih hr (by simp [ht, hnew])
        exact ⟨r', by simp [hr'], heq⟩

/-! ## References of the walk -/

lemma localEdges_of_le {id : ModelId} (h : b.size ≤ id) : b.localEdges root id = [] := by
  have hpart : b.part id = { name := "", shape := .any, source := 0 } := by
    simp [part, show ¬ id < b.parts.size from Nat.not_lt.2 h]
  simp [localEdges, slotEdges, Modelsmith.slotEdges, parentEdges, hpart, Shape.slots]

/-- The walk for the dependencies arrives at what can be reached by at least one edge. -/
lemma mem_arrivals_iff :
    r ∈ (walkEdges (b.localEdges root) b.size root).map (·.target) ↔
      Relation.TransGen (Leads (b.localEdges root)) root r :=
  mem_targets_walkEdges_iff fun _ => localEdges_of_le

/-- What a part depends on is near it and does not refer to it. -/
lemma near_of_mem (hr : r ∈ b.nearestDependencies root) :
    b.IsNear root r ∧ b.target? r ≠ some root := by
  obtain ⟨hmem, t, ht, hnew⟩ := mem_of_mem_oncePerTarget hr
  refine ⟨⟨variant_eq_reference_iff.2 ⟨t, ht⟩, mem_arrivals_iff.1 hmem⟩, ?_⟩
  rintro htarget
  obtain rfl : t = root := Option.some.inj (ht.symm.trans htarget)
  simp at hnew

/-- Among the dependencies is a reference for every target of the references near a part,
unless they refer to the part itself. -/
lemma exists_dependency (hnear : b.IsNear root r) (hother : b.target? r ≠ some root) :
    ∃ r' ∈ b.nearestDependencies root, b.target? r' = b.target? r := by
  obtain ⟨t, ht⟩ := variant_eq_reference_iff.1 hnear.variant
  have hnew : t ∉ [root] := by
    rintro hmem
    rw [List.mem_singleton.1 hmem] at ht
    exact hother ht
  obtain ⟨r', hr', heq⟩ := exists_mem_oncePerTarget (mem_arrivals_iff.2 hnear.reached) ht hnew
  exact ⟨r', hr', heq.trans ht.symm⟩

/-! ## Imported names -/

/-- A reference resolves to what its target resolves to in the steps that are left. -/
lemma resolve_of_target? {t : ModelId} (h : b.target? r = some t) :
    b.resolve r = follow b.target? (b.size - 1) t := by
  have hlt : r < b.size := lt_size_of_mem_edges (edge_of_target? h)
  obtain ⟨n, hn⟩ := Nat.exists_eq_succ_of_ne_zero (Nat.ne_of_gt (Nat.zero_lt_of_lt hlt))
  show follow b.target? b.size r = _
  rw [hn, follow, h]
  rfl

lemma resolvedName_eq_of_target? {t : ModelId} (h : b.target? r = some t)
    (h' : b.target? r' = some t) : b.resolvedName r = b.resolvedName r' := by
  rw [resolvedName, resolvedName, resolve_of_target? h, resolve_of_target? h']

/-- The names that the dependencies of the root resolve to. -/
def importNames (b : Blueprint) : List String :=
  (b.nearestDependencies b.root).map b.resolvedName

/-- A name is imported if a reference near the root resolves to it and does not refer to the
root. -/
theorem mem_importNames_iff : name ∈ b.importNames ↔
    ∃ r, b.IsNear b.root r ∧ b.target? r ≠ some b.root ∧ b.resolvedName r = name := by
  rw [importNames, List.mem_map]
  constructor
  · rintro ⟨r, hr, rfl⟩
    obtain ⟨hnear, hother⟩ := near_of_mem hr
    exact ⟨r, hnear, hother, rfl⟩
  · rintro ⟨r, hnear, hother, rfl⟩
    obtain ⟨t, ht⟩ := variant_eq_reference_iff.1 hnear.variant
    obtain ⟨r', hr', heq⟩ := exists_dependency hnear hother
    exact ⟨r', hr', resolvedName_eq_of_target? (heq.trans ht) ht⟩

/-- No name is imported twice exactly if references near the root that resolve to one name
refer to one part, those to the root itself set aside. -/
theorem importNames_nodup_iff : b.importNames.Nodup ↔
    ∀ r r', b.IsNear b.root r → b.IsNear b.root r' → b.target? r ≠ some b.root →
      b.target? r' ≠ some b.root → b.resolvedName r = b.resolvedName r' →
      b.target? r = b.target? r' := by
  have htargets := b.oncePerTarget_nodup [b.root]
    ((walkEdges (b.localEdges b.root) b.size b.root).map (·.target))
  have hdependencies : (b.nearestDependencies b.root).Nodup := htargets.of_map _
  rw [importNames, List.nodup_map_iff_inj_on hdependencies]
  constructor
  · intro hinj r r' hnear hnear' hother hother' hname
    obtain ⟨t, ht⟩ := variant_eq_reference_iff.1 hnear.variant
    obtain ⟨t', ht'⟩ := variant_eq_reference_iff.1 hnear'.variant
    obtain ⟨q, hq, heq⟩ := exists_dependency hnear hother
    obtain ⟨q', hq', heq'⟩ := exists_dependency hnear' hother'
    have hsame : q = q' := by
      refine hinj q hq q' hq' ?_
      rw [resolvedName_eq_of_target? (heq.trans ht) ht, hname,
        resolvedName_eq_of_target? (heq'.trans ht') ht']
    rw [← heq, hsame, heq']
  · intro hsame q hq q' hq' hname
    obtain ⟨hnear, hother⟩ := near_of_mem hq
    obtain ⟨hnear', hother'⟩ := near_of_mem hq'
    exact List.inj_on_of_nodup_map htargets hq hq' (hsame q q' hnear hnear' hother hother' hname)

/-! ## Roots that are references -/

/-- Near a reference are the references that its parents come to. -/
lemma isNear_iff_of_reference (h : (b.part root).variant = .reference) : b.IsNear root r ↔
    (b.part r).variant = .reference ∧
      ∃ p ∈ (b.part root).options.parents, Reaches (b.localEdges root) p r := by
  have hedges : b.localEdges root root = parentEdges root (b.part root).options.parents := by
    obtain ⟨t, ht⟩ := variant_eq_reference_iff.1 h
    rw [target?, Shape.target?_eq_some] at ht
    simp [localEdges, slotEdges, Modelsmith.slotEdges, ht, Shape.slots]
  have hleads : ∀ p, Leads (b.localEdges root) root p ↔ p ∈ (b.part root).options.parents := by
    intro p
    rw [Leads, hedges, List.mem_iff_getElem?]
    constructor
    · rintro ⟨e, he, rfl⟩
      obtain ⟨-, i, -, hi⟩ := mem_mapIdx_edge.1 he
      exact ⟨i, hi⟩
    · rintro ⟨i, hi⟩
      exact ⟨⟨root, .parent i, p⟩, mem_mapIdx_edge.2 ⟨rfl, i, rfl, hi⟩, rfl⟩
  constructor
  · rintro ⟨hvariant, hreached⟩
    obtain ⟨p, hp, hreaches⟩ := Relation.TransGen.head'_iff.1 hreached
    exact ⟨hvariant, p, (hleads p).1 hp, hreaches⟩
  · rintro ⟨hvariant, p, hp, hreaches⟩
    exact ⟨hvariant, Relation.TransGen.head'_iff.2 ⟨p, (hleads p).2 hp, hreaches⟩⟩

/-! ## References in slots -/

/-- A part with a slot is no reference. -/
lemma target?_eq_none_of_slot {id : ModelId} {e : Edge} (he : e ∈ b.slotEdges id) :
    b.target? id = none := by
  by_contra hsome
  obtain ⟨t, ht⟩ := Option.ne_none_iff_exists'.1 hsome
  rw [target?, Shape.target?_eq_some] at ht
  simp [slotEdges, Modelsmith.slotEdges, ht, Shape.slots] at he

/-- A slot of a part is followed by the walk for the dependencies. -/
lemma leads_of_slot {id : ModelId} (h : Leads b.slotEdges id r) :
    Leads (b.localEdges root) id r := by
  obtain ⟨e, he, rfl⟩ := h
  refine ⟨e, ?_, rfl⟩
  have hvariant : (b.part id).variant ≠ .reference := by
    simp [variant_eq_reference_iff, target?_eq_none_of_slot he]
  rw [localEdges, if_neg fun h => hvariant h.2]
  exact List.mem_append_left _ he

/-- A reference to a part that is no reference resolves to this part. -/
lemma resolve_eq_target {t : ModelId} (h : b.target? r = some t) (hstop : b.target? t = none) :
    b.resolve r = t := by
  rw [resolve_of_target? h]
  cases b.size - 1 <;> simp [follow, hstop]

/-- A reference that the root comes to through slots resolves to its own name or to an imported
one. -/
theorem named_of_slots (h : Relation.TransGen (Leads b.slotEdges) b.root r)
    (hvariant : (b.part r).variant = .reference) :
    b.resolvedName r = b.main.name ∨ b.resolvedName r ∈ b.importNames := by
  by_cases hown : b.target? r = some b.root
  · -- the root has slots, so that it is no reference
    obtain ⟨n, ⟨e, he, -⟩, -⟩ := Relation.TransGen.head'_iff.1 h
    left
    rw [resolvedName, resolve_eq_target hown (target?_eq_none_of_slot he), main]
  · right
    have hnear : b.IsNear b.root r := by
      refine ⟨hvariant, Relation.TransGen.mono ?_ _ _ h⟩
      exact fun _ _ => leads_of_slot
    exact mem_importNames_iff.2 ⟨r, hnear, hown, rfl⟩

end Blueprint

end Modelsmith
