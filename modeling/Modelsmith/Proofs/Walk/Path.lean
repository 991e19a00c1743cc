/-
# The path of a depth-first walk

A walk comes to every model but its root from another model, along the edge by which it
enters the model.  These edges make a tree, and the models that the walk is inside of are the
path in this tree from the root to where it is.  So a walk that comes to a model again is
still inside of it exactly if the model is on the path to the start of the edge.
-/
import Modelsmith.Proofs.Walk.Order

namespace Modelsmith

/-- Whether a list of events enters `b` coming from `a`. -/
def ComesFrom (events : List Event) (a b : ModelId) : Prop :=
  ∃ e : Edge, .enter e.visit ∈ events ∧ e.source = a ∧ e.target = b

/-- Whether `a` is on the path along which a list of events comes to `b`. -/
def OnPath (events : List Event) : ModelId → ModelId → Prop :=
  Relation.ReflTransGen (ComesFrom events)

variable {out : ModelId → List Edge} {size : Nat} {root : ModelId}

/-- Every open visit hangs below those outside of it. -/
lemma Stack.hangs_of_open {tasks : List Task} (h : Stack out root tasks) {inner outer : List Visit}
    {v : Visit} (hopen : openVisits tasks = inner ++ v :: outer) : Hangs out root v outer := by
  induction h generalizing inner with
  | nil => simp at hopen
  | start => simp at hopen
  | @frame w done left rest hangs split below ih =>
    rw [openVisits_visits_append, openVisits_close] at hopen
    cases inner with
    | nil =>
      simp only [List.nil_append, List.cons.injEq] at hopen
      obtain ⟨rfl, rfl⟩ := hopen
      exact hangs
    | cons u inner =>
      simp only [List.cons_append, List.cons.injEq] at hopen
      exact ih hopen.2

namespace WalkState

variable {past all : List Event} {progress : Array Progress} {tasks : List Task}
variable (hsource : ∀ n, ∀ e ∈ out n, e.source = n)
include hsource

/-- The open visits are on the path to the inner ones of them. -/
lemma onPath_of_open (h : WalkState out size root past progress tasks) (hsub : past ⊆ all)
    {inner outer : List Visit} {u v : Visit} (hopen : openVisits tasks = inner ++ u :: outer)
    (hv : v ∈ u :: outer) : OnPath all v.node u.node := by
  induction outer generalizing inner u with
  | nil =>
    obtain rfl : v = u := by simpa using hv
    exact .refl
  | cons w outer ih =>
    rcases List.mem_cons.1 hv with rfl | hv
    · exact .refl
    · obtain ⟨e, he, hu⟩ := h.stack.hangs_of_open hopen
      have hopen' : openVisits tasks = (inner ++ [u]) ++ w :: outer := by simpa using hopen
      have hpath : OnPath all v.node w.node := ih hopen' hv
      have henter : .enter u ∈ all := hsub (h.tracked.open_entered u (by simp [hopen]))
      exact hpath.tail ⟨e, hu ▸ henter, hsource _ e he, by rw [hu]; rfl⟩

/-- The models on the path to an open visit are open. -/
lemma open_of_onPath (h : WalkState out size root past progress tasks) (hsub : past ⊆ all)
    (hunique : ∀ {v w : Visit}, .enter v ∈ all → .enter w ∈ all → v.node = w.node → v = w)
    {u : Visit} (hu : u ∈ openVisits tasks) {a : ModelId} (hpath : OnPath all a u.node) :
    ∃ v ∈ openVisits tasks, v.node = a := by
  -- from the end of the path upwards: an open visit hangs below the one that it comes from
  induction hpath using Relation.ReflTransGen.head_induction_on with
  | refl => exact ⟨u, hu, rfl⟩
  | @head a c hfrom _ ih =>
    obtain ⟨w, hw, hwc⟩ := ih
    obtain ⟨e, hentered, rfl, hec⟩ := hfrom
    have hwe : w = e.visit :=
      hunique (hsub (h.tracked.open_entered w hw)) hentered (hwc.trans hec.symm)
    obtain ⟨inner, outer, hopen⟩ := List.append_of_mem hw
    have hhangs := h.stack.hangs_of_open hopen
    cases outer with
    | nil =>
      have hroot : w = ⟨root, none⟩ := hhangs
      rw [hroot] at hwe
      simp [Edge.visit] at hwe
    | cons x outer =>
      obtain ⟨e', he', hw'⟩ := hhangs
      obtain rfl : e' = e := Edge.visit_inj.1 (hw'.symm.trans hwe)
      exact ⟨x, by simp [hopen], (hsource _ e' he').symm⟩

lemma again_iff_onPath (h : WalkState out size root past progress tasks) (hpre : past <+: all)
    (hunique : ∀ {v w : Visit}, .enter v ∈ all → .enter w ∈ all → v.node = w.node → v = w)
    {e : Edge} {o : Bool} (hagain : .again e.visit o ∈ past) :
    o = true ↔ OnPath all e.target e.source := by
  induction h with
  | start => simp at hagain
  | leave _ ih =>
    exact ih ((List.prefix_append _ _).trans hpre) (by simpa using hagain)
  | enter _ _ ih =>
    exact ih ((List.prefix_append _ _).trans hpre) (by simpa using hagain)
  | @again past progress v rest before seen ih =>
    have hpast : past <+: all := (List.prefix_append _ _).trans hpre
    simp only [List.mem_append, List.mem_singleton, Event.again.injEq] at hagain
    rcases hagain with hagain | ⟨rfl, rfl⟩
    · exact ih hpast hagain
    · -- at the event itself the open visits are the path to the start of the edge
      rcases before.due with ⟨-, hroot⟩ | ⟨u, opens, e', hopen, -, he', hv⟩
      · simp [Edge.visit] at hroot
      · obtain rfl : e = e' := Edge.visit_inj.1 hv
        have hopen' : openVisits (.visit e.visit :: rest) = [] ++ u :: opens := hopen
        rw [hsource _ e he', beq_iff_eq, before.tracked.inside_iff, Edge.visit_node]
        constructor
        · rintro ⟨w, hw, hwn⟩
          rw [hopen'] at hw
          exact hwn ▸ before.onPath_of_open hsource hpast.subset hopen' hw
        · intro hpath
          exact before.open_of_onPath hsource hpast.subset hunique (by simp [hopen']) hpath

end WalkState

/-- A walk that comes to a model again is inside of it exactly if the model is on the path to
where the edge starts. -/
theorem again_iff_onPath (hsource : ∀ n, ∀ e ∈ out n, e.source = n) {e : Edge} {o : Bool}
    (hagain : .again e.visit o ∈ walk out size root) :
    o = true ↔ OnPath (walk out size root) e.target e.source := by
  obtain ⟨progress, h⟩ := walkState_walk out size root
  exact h.again_iff_onPath hsource List.prefix_rfl h.enter_unique hagain

/-! ## On the way out -/

/-- An edge that is still to be followed leaves an open model. -/
lemma Stack.open_of_pending {tasks : List Task} (h : Stack out root tasks) {e : Edge}
    (he : e ∈ pendingEdges tasks) : ∃ u ∈ openVisits tasks, e ∈ out u.node := by
  induction h with
  | nil => simp at he
  | start => simp at he
  | @frame v done left rest hangs split below ih =>
    rw [pendingEdges_visits_append, pendingEdges_close, List.mem_append] at he
    rw [openVisits_visits_append, openVisits_close]
    rcases he with he | he
    · exact ⟨v, by simp, by simp [split, he]⟩
    · obtain ⟨u, hu, heu⟩ := ih he
      exact ⟨u, by simp [hu], heu⟩

namespace WalkState

variable {past : List Event} {progress : Array Progress} {v : Visit} {rest : List Task}
variable (h : WalkState out size root past progress (.close v :: rest))
  (hsource : ∀ n, ∀ e ∈ out n, e.source = n)
include h hsource

/-- Before the walk leaves a model it has followed all edges of the model. -/
lemma followed_of_close {e : Edge} (he : e ∈ out v.node) : e ∈ arrivals past := by
  have hentered : v.node ∈ entered past :=
    mem_entered.2 ⟨v, h.tracked.open_entered v (by simp), rfl⟩
  have hmem : e ∈ arrivals past ++ pendingEdges (.close v :: rest) :=
    h.arrivals_perm.symm.subset (List.mem_flatMap.2 ⟨_, hentered, he⟩)
  rw [pendingEdges_close, List.mem_append] at hmem
  rcases hmem with hmem | hmem
  · exact hmem
  · obtain ⟨u, hu, heu⟩ := h.stack.of_close.2.open_of_pending hmem
    have hsame : u.node = v.node := (hsource _ e heu).symm.trans (hsource _ e he)
    have hnodup := h.tracked.open_nodup
    rw [openVisits_close, List.map_cons, List.nodup_cons] at hnodup
    exact absurd (List.mem_map.2 ⟨u, hu, hsame⟩) hnodup.1

/-- The walk is not inside of a model below one that it is about to leave. -/
lemma source_ne_of_open {e : Edge} (he : e.visit ∈ openVisits (.close v :: rest)) :
    e.source ≠ v.node := by
  obtain ⟨inner, outer, hopen⟩ := List.append_of_mem he
  have hhangs := h.stack.hangs_of_open hopen
  have hnodup := h.tracked.open_nodup
  cases outer with
  | nil =>
    have hroot : e.visit = ⟨root, none⟩ := hhangs
    simp [Edge.visit] at hroot
  | cons u outer =>
    obtain ⟨e', he', hvisit⟩ := hhangs
    obtain rfl : e = e' := Edge.visit_inj.1 hvisit
    rw [hsource _ e he']
    intro hsame
    -- the model on the way out would be open twice
    cases inner with
    | nil =>
      simp only [List.nil_append, openVisits_close, List.cons.injEq] at hopen
      rw [openVisits_close, hopen.2, List.map_cons, List.map_cons] at hnodup
      simp [hsame] at hnodup
    | cons w inner =>
      simp only [List.cons_append, openVisits_close, List.cons.injEq] at hopen
      rw [openVisits_close, hopen.2, List.map_cons] at hnodup
      simp [hsame] at hnodup

end WalkState

/-! ## Edges that close a cycle -/

/-- The walk enters a model after the one that it comes from. -/
lemma WalkState.idxOf_lt {past : List Event} {progress : Array Progress} {tasks : List Task}
    (h : WalkState out size root past progress tasks)
    (hsource : ∀ n, ∀ e ∈ out n, e.source = n) {e : Edge} (he : .enter e.visit ∈ past) :
    (entered past).idxOf e.source < (entered past).idxOf e.target := by
  induction h with
  | start => simp at he
  | leave _ ih => simpa using ih (by simpa using he)
  | @enter past progress v rest before fresh ih =>
    rw [entered_append, entered_enter]
    simp only [List.mem_append, List.mem_singleton, Event.enter.injEq] at he
    rcases he with he | rfl
    · have hlt := ih he
      have hsourceLt : (entered past).idxOf e.source < (entered past).length :=
        Nat.lt_of_lt_of_le hlt List.idxOf_le_length
      have htarget : e.target ∈ entered past := mem_entered.2 ⟨_, he, rfl⟩
      rw [List.idxOf_append_of_mem (List.idxOf_lt_length_iff.1 hsourceLt),
        List.idxOf_append_of_mem htarget]
      exact hlt
    · rcases before.due with ⟨-, hroot⟩ | ⟨u, opens, e', -, hu, he', hv⟩
      · simp [Edge.visit] at hroot
      · obtain rfl : e = e' := Edge.visit_inj.1 hv
        have hsourceMem : e.source ∈ entered past :=
          mem_entered.2 ⟨u, hu, (hsource _ e he').symm⟩
        have htarget : e.target ∉ entered past := ((before.tracked.fresh_iff _).1 fresh).2
        rw [List.idxOf_append_of_mem hsourceMem, List.idxOf_append_of_notMem htarget]
        exact Nat.lt_of_lt_of_le (List.idxOf_lt_length_iff.2 hsourceMem) (Nat.le_add_right _ _)
  | again _ _ ih => simpa using ih (by simpa using he)

/-- The models on the path to a model are entered before it. -/
lemma idxOf_le_of_onPath (hsource : ∀ n, ∀ e ∈ out n, e.source = n) {a b : ModelId}
    (h : OnPath (walk out size root) a b) :
    (walkOrder out size root).idxOf a ≤ (walkOrder out size root).idxOf b := by
  obtain ⟨progress, hwalk⟩ := walkState_walk out size root
  induction h with
  | refl => exact Nat.le_refl _
  | tail _ hfrom ih =>
    obtain ⟨e, he, rfl, rfl⟩ := hfrom
    exact Nat.le_trans ih (Nat.le_of_lt (hwalk.idxOf_lt hsource he))

/-- An edge of an entered model leads back to where the walk is inside of exactly if it leads
to a model on the path to its own. -/
theorem again_mem_iff (hsource : ∀ n, ∀ e ∈ out n, e.source = n) {n : ModelId} {e : Edge}
    (hn : n ∈ walkOrder out size root) (he : e ∈ out n) :
    .again e.visit true ∈ walk out size root ↔ OnPath (walk out size root) e.target e.source := by
  obtain ⟨progress, h⟩ := walkState_walk out size root
  refine ⟨fun hagain => (again_iff_onPath hsource hagain).1 rfl, fun hpath => ?_⟩
  obtain ⟨event, hevent, hv⟩ := exists_arrival hn he
  cases event with
  | enter w =>
    -- the walk would enter the end of the edge before and after its start
    obtain rfl : w = e.visit := by simpa [Event.arrival?] using hv
    exact absurd (idxOf_le_of_onPath hsource hpath) (Nat.not_le.2 (h.idxOf_lt hsource hevent))
  | again w o =>
    obtain rfl : w = e.visit := by simpa [Event.arrival?] using hv
    rwa [(again_iff_onPath hsource hevent).2 hpath] at hevent
  | leave w => simp [Event.arrival?] at hv

end Modelsmith
