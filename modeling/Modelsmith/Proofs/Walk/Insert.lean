/-
# Walks in graphs with inserted models

New models are put into some edges of a graph, each with one edge on to where the old edge led.
A walk through the new graph then does what the walk through the old one does, with a step
through the inserted model on the way.  In particular a model of before is on the path to
another in the one graph exactly if it is so in the other.
-/
import Modelsmith.Proofs.Edges
import Modelsmith.Proofs.Walk.Path
import Modelsmith.Proofs.Walk.Rename

namespace Modelsmith

/-! ## What becomes of events -/

/-- The edge to the model that is put into an edge, or the edge itself. -/
def Edge.redirect (ins : Edge → Option ModelId) (e : Edge) : Edge :=
  { e with target := (ins e).getD e.target }

/-- The model that is put into the edge of a visit, if there is one. -/
def Visit.inserted? (ins : Edge → Option ModelId) (v : Visit) : Option ModelId := v.via.bind ins

/-- The visit to the inserted model on the way of a visit. -/
def Visit.first (r : ModelId) (v : Visit) : Visit :=
  ⟨r, v.via.map fun e => { e with target := r }⟩

/-- The visit from the inserted model on. -/
def Visit.second (r : ModelId) (v : Visit) : Visit := ⟨v.node, some ⟨r, .target, v.node⟩⟩

@[simp] lemma Visit.first_node (r : ModelId) (v : Visit) : (v.first r).node = r := rfl

@[simp] lemma Visit.second_node (r : ModelId) (v : Visit) : (v.second r).node = v.node := rfl

lemma Edge.first_visit (r : ModelId) (e : Edge) :
    e.visit.first r = ({ e with target := r } : Edge).visit := rfl

lemma Edge.second_visit (r : ModelId) (e : Edge) :
    e.visit.second r = (⟨r, .target, e.target⟩ : Edge).visit := rfl

/-- What becomes of an event: the inserted model is entered before and left after. -/
def Event.expand (ins : Edge → Option ModelId) (event : Event) : List Event :=
  match event with
  | .enter v =>
    match v.inserted? ins with
    | none => [.enter v]
    | some r => [.enter (v.first r), .enter (v.second r)]
  | .again v o =>
    match v.inserted? ins with
    | none => [.again v o]
    | some r => [.enter (v.first r), .again (v.second r) o, .leave (v.first r)]
  | .leave v =>
    match v.inserted? ins with
    | none => [.leave v]
    | some r => [.leave (v.second r), .leave (v.first r)]

/-- What becomes of a task. -/
def Task.expand (ins : Edge → Option ModelId) (task : Task) : List Task :=
  match task with
  | .visit v =>
    match v.inserted? ins with
    | none => [.visit v]
    | some r => [.visit (v.first r)]
  | .close v =>
    match v.inserted? ins with
    | none => [.close v]
    | some r => [.close (v.second r), .close (v.first r)]

lemma expand_visits (ins : Edge → Option ModelId) (edges : List Edge) :
    (visits edges).flatMap (Task.expand ins) = visits (edges.map (Edge.redirect ins)) := by
  induction edges with
  | nil => rfl
  | cons e edges ih =>
    have hfirst : Task.expand ins (.visit e.visit) = [.visit (e.redirect ins).visit] := by
      cases hins : ins e with
      | none => simp [Task.expand, Visit.inserted?, Edge.redirect, hins]
      | some r =>
        simp [Task.expand, Visit.inserted?, Edge.redirect, Visit.first, hins, Edge.visit]
    rw [visits_cons, List.flatMap_cons, hfirst, ih, List.map_cons, visits_cons]
    rfl

/-! ## The two walks in step -/

/-- The graph `out'` is the graph `out` with the models `ins` put into edges. -/
structure IsInsertion (out : ModelId → List Edge) (size : Nat) (root : ModelId)
    (ins : Edge → Option ModelId) (out' : ModelId → List Edge) (size' : Nat) : Prop where
  range : ∀ n, Reaches out root n → n < size
  source : ∀ n, ∀ e ∈ out n, e.source = n
  nodup : ∀ n, (out n).Nodup
  size_le : size ≤ size'
  new : ∀ e r, ins e = some r → size ≤ r ∧ r < size'
  own : ∀ e e' r, ins e = some r → ins e' = some r → e = e'
  old : ∀ n < size, out' n = (out n).map (Edge.redirect ins)
  onward : ∀ e r, ins e = some r → out' r = [⟨r, .target, e.target⟩]

variable {out out' : ModelId → List Edge} {size size' : Nat} {root : ModelId}
  {ins : Edge → Option ModelId}

/-- The progress of the two walks: it is the same with models of before, and the inserted models
of edges not followed yet are fresh. -/
structure InStep (ins : Edge → Option ModelId) (size : Nat) (past : List Event)
    (progress progress' : Array Progress) : Prop where
  old : ∀ n < size, progress'[n]? = progress[n]?
  fresh : ∀ e r, ins e = some r → e ∉ arrivals past → progress'[r]? = some .fresh

lemma InStep.mono {past past' : List Event} {progress progress' : Array Progress}
    (h : InStep ins size past progress progress') (hsub : arrivals past ⊆ arrivals past') :
    InStep ins size past' progress progress' :=
  ⟨h.old, fun e r hr he => h.fresh e r hr fun hmem => he (hsub hmem)⟩

/-- A state of the walk through the new graph that does what is left of the old one. -/
def Simulated (ins : Edge → Option ModelId) (size : Nat) (out' : ModelId → List Edge)
    (size' : Nat) (root : ModelId) (past : List Event) (progress : Array Progress)
    (tasks : List Task) : Prop :=
  ∃ progress', WalkState out' size' root (past.flatMap (Event.expand ins)) progress'
    (tasks.flatMap (Task.expand ins)) ∧ InStep ins size past progress progress'

namespace IsInsertion

variable {past : List Event} {progress progress' : Array Progress} {v : Visit}
  {rest : List Task} {e : Edge} {r : ModelId}
variable (hins : IsInsertion out size root ins out' size')
include hins

lemma le_new (hr : ins e = some r) : size ≤ r := (hins.new e r hr).1

/-- Both walks go on with a model of before. -/
lemma setOld (h : InStep ins size past progress progress') {m : ModelId} (hm : m < size)
    (p : Progress) :
    InStep ins size past (progress.setIfInBounds m p) (progress'.setIfInBounds m p) := by
  refine ⟨fun n hn => ?_, fun e r hr he => ?_⟩
  · exact setIfInBounds_rename (f := id) (fun _ _ _ _ hab => hab) h.old hm hn p
  · have hne : m ≠ r := Nat.ne_of_lt (Nat.lt_of_lt_of_le hm (hins.le_new hr))
    rw [Array.getElem?_setIfInBounds_ne hne]
    exact h.fresh e r hr he

/-- The new walk goes on with the inserted model of an edge that has been followed. -/
lemma setNew (h : InStep ins size past progress progress') (hr : ins e = some r)
    (he : e ∈ arrivals past) (p : Progress) :
    InStep ins size past progress (progress'.setIfInBounds r p) := by
  refine ⟨fun n hn => ?_, fun e' r' hr' he' => ?_⟩
  · have hne : r ≠ n := Nat.ne_of_gt (Nat.lt_of_lt_of_le hn (hins.le_new hr))
    rw [Array.getElem?_setIfInBounds_ne hne]
    exact h.old n hn
  · have hne : r ≠ r' := by
      rintro rfl
      exact he' (hins.own e e' r hr hr' ▸ he)
    rw [Array.getElem?_setIfInBounds_ne hne]
    exact h.fresh e' r' hr' he'

/-- The inserted model of a visit that is due is the one of its edge, which has not been
followed before. -/
lemma due (h : WalkState out size root past progress (.visit v :: rest))
    (hr : v.inserted? ins = some r) :
    ∃ e, v = e.visit ∧ ins e = some r ∧ e ∉ arrivals past := by
  obtain ⟨e, hvia, hr⟩ := Option.bind_eq_some_iff.1 hr
  have hdue : v = e.visit := by
    rcases h.due with ⟨-, rfl⟩ | ⟨u, opens, e', -, -, -, rfl⟩
    · simp at hvia
    · obtain rfl : e' = e := by simpa using hvia
      rfl
  refine ⟨e, hdue, hr, ?_⟩
  subst hdue
  have hnodup := h.followed_nodup hins.source hins.nodup
  exact fun hmem => (List.nodup_append.1 hnodup).2.2 e hmem e (by simp) rfl

/-- Where a model is inserted, the new walk enters it first and has then to go on to where the
old walk goes, with the same progress there. -/
lemma through (h : WalkState out size root past progress (.visit v :: rest))
    (hr : v.inserted? ins = some r) {past' : List Event} {tasks : List Task}
    (hstep : InStep ins size past progress progress')
    (hwalk : WalkState out' size' root past' progress' (.visit (v.first r) :: tasks)) :
    WalkState out' size' root (past' ++ [.enter (v.first r)]) (progress'.setIfInBounds r .inside)
        (.visit (v.second r) :: .close (v.first r) :: tasks) ∧
      (progress'.setIfInBounds r .inside)[v.node]? = progress[v.node]? := by
  have hlt : v.node < size := hins.range _ h.reaches_of_due
  obtain ⟨e, rfl, hr', hnot⟩ := hins.due h hr
  have hwalk₁ := hwalk.enter (hstep.fresh e r hr' hnot)
  rw [Visit.first_node, hins.onward e r hr'] at hwalk₁
  have hne : r ≠ e.target := Nat.ne_of_gt (Nat.lt_of_lt_of_le hlt (hins.le_new hr'))
  refine ⟨hwalk₁, ?_⟩
  rw [Edge.visit_node, Array.getElem?_setIfInBounds_ne hne]
  exact hstep.old _ hlt

/-- The old walk leaves a model. -/
lemma leave (h : WalkState out size root past progress (.close v :: rest))
    (hsim : Simulated ins size out' size' root past progress (.close v :: rest)) :
    Simulated ins size out' size' root (past ++ [.leave v])
      (progress.setIfInBounds v.node .done) rest := by
  obtain ⟨progress', hwalk, hstep⟩ := hsim
  have hinside : progress[v.node]? = some .inside :=
    (h.tracked.inside_iff _).2 ⟨v, by simp, rfl⟩
  have hlt : v.node < size := h.tracked.size_eq ▸ (Array.getElem?_eq_some_iff.1 hinside).1
  have hafter : InStep ins size (past ++ [.leave v]) progress progress' := hstep.mono (by simp)
  cases hr : v.inserted? ins with
  | none =>
    simp only [List.flatMap_cons, Task.expand, hr, List.singleton_append] at hwalk
    refine ⟨_, ?_, hins.setOld hafter hlt .done⟩
    simpa [Event.expand, hr] using hwalk.leave
  | some r =>
    obtain ⟨e, hvia, hr'⟩ := Option.bind_eq_some_iff.1 hr
    have he : e ∈ arrivals (past ++ [.leave v]) := by
      have henter : .enter v ∈ past := h.tracked.open_entered v (by simp)
      exact mem_arrivals.2 ⟨.enter v, by simp [henter], hvia⟩
    simp only [List.flatMap_cons, Task.expand, hr, List.cons_append, List.nil_append] at hwalk
    refine ⟨_, ?_, hins.setNew (hins.setOld hafter hlt .done) hr' he .done⟩
    simpa [Event.expand, hr, Visit.first, Visit.second] using hwalk.leave.leave

/-- The old walk enters a model. -/
lemma enter (h : WalkState out size root past progress (.visit v :: rest))
    (fresh : progress[v.node]? = some .fresh)
    (hsim : Simulated ins size out' size' root past progress (.visit v :: rest)) :
    Simulated ins size out' size' root (past ++ [.enter v])
      (progress.setIfInBounds v.node .inside) (visits (out v.node) ++ .close v :: rest) := by
  obtain ⟨progress', hwalk, hstep⟩ := hsim
  have hlt : v.node < size := hins.range _ h.reaches_of_due
  have hafter : InStep ins size (past ++ [.enter v]) progress progress' := hstep.mono (by simp)
  have hout : visits (out' v.node) = (visits (out v.node)).flatMap (Task.expand ins) := by
    rw [hins.old _ hlt, expand_visits]
  cases hr : v.inserted? ins with
  | none =>
    simp only [List.flatMap_cons, Task.expand, hr, List.singleton_append] at hwalk
    refine ⟨_, ?_, hins.setOld hafter hlt .inside⟩
    simpa [Event.expand, Task.expand, hr, hout] using hwalk.enter ((hstep.old _ hlt).trans fresh)
  | some r =>
    simp only [List.flatMap_cons, Task.expand, hr, List.singleton_append] at hwalk
    obtain ⟨hwalk₁, hsame⟩ := hins.through h hr hstep hwalk
    obtain ⟨e, hv, hr', -⟩ := hins.due h hr
    have he : e ∈ arrivals (past ++ [.enter v]) := by simp [hv]
    refine ⟨_, ?_, hins.setOld (hins.setNew hafter hr' he .inside) hlt .inside⟩
    simpa [Event.expand, Task.expand, hr, hout] using hwalk₁.enter (hsame.trans fresh)

/-- The old walk comes to a model again. -/
lemma again (h : WalkState out size root past progress (.visit v :: rest))
    (seen : progress[v.node]? ≠ some .fresh)
    (hsim : Simulated ins size out' size' root past progress (.visit v :: rest)) :
    Simulated ins size out' size' root
      (past ++ [.again v (progress[v.node]? == some .inside)]) progress rest := by
  obtain ⟨progress', hwalk, hstep⟩ := hsim
  have hlt : v.node < size := hins.range _ h.reaches_of_due
  have hafter : InStep ins size (past ++ [.again v (progress[v.node]? == some .inside)]) progress
      progress' := hstep.mono (by simp)
  cases hr : v.inserted? ins with
  | none =>
    have hsame : progress'[v.node]? = progress[v.node]? := hstep.old _ hlt
    simp only [List.flatMap_cons, Task.expand, hr, List.singleton_append] at hwalk
    refine ⟨_, ?_, hafter⟩
    simpa [Event.expand, hr, hsame] using hwalk.again (hsame ▸ seen)
  | some r =>
    simp only [List.flatMap_cons, Task.expand, hr, List.singleton_append] at hwalk
    obtain ⟨hwalk₁, hsame⟩ := hins.through h hr hstep hwalk
    obtain ⟨e, hv, hr', -⟩ := hins.due h hr
    have he : e ∈ arrivals (past ++ [.again v (progress[v.node]? == some .inside)]) := by
      simp [hv]
    -- the inserted model is left at once
    refine ⟨_, ?_, hins.setNew hafter hr' he .done⟩
    simpa [Event.expand, hr, hsame] using (hwalk₁.again (hsame ▸ seen)).leave

/-- At every state of the old walk the new one is in step. -/
lemma simulated {tasks : List Task} (h : WalkState out size root past progress tasks) :
    Simulated ins size out' size' root past progress tasks := by
  induction h with
  | start =>
    refine ⟨_, .start, fun n hn => ?_, fun e r hr _ => ?_⟩
    · simp [hn, Nat.lt_of_lt_of_le hn hins.size_le]
    · simp [(hins.new e r hr).2]
  | leave before ih => exact hins.leave before ih
  | enter before fresh ih => exact hins.enter before fresh ih
  | again before seen ih => exact hins.again before seen ih

/-- The new walk is the old one with every event expanded. -/
theorem walk_eq : walk out' size' root = (walk out size root).flatMap (Event.expand ins) := by
  obtain ⟨progress, h⟩ := walkState_walk out size root
  obtain ⟨progress', hwalk, -⟩ := hins.simulated h
  exact hwalk.eq_walk.symm

/-! ## Paths -/

/-- Where the old walk arrives by an edge with an inserted model, it comes from a model that can
be reached. -/
lemma arrival {event : Event} (hevent : event ∈ walk out size root)
    (hv : event.arrival? = some v) (hr : v.inserted? ins = some r) :
    ∃ e, v = e.visit ∧ ins e = some r ∧ Reaches out root e.source := by
  obtain ⟨progress, hwalk⟩ := walkState_walk out size root
  obtain ⟨e, hvia, hr⟩ := Option.bind_eq_some_iff.1 hr
  obtain ⟨hvisit, n, hn, he⟩ := hwalk.arrival_edge hevent hv hvia
  refine ⟨e, hvisit, hr, ?_⟩
  rw [hins.source n e he]
  exact (mem_walkOrder_iff hins.range).1 hn

/-- The new walk enters a model by an edge of before, or by one of the two edges that have taken
the place of one. -/
lemma enter_cases {e' : Edge} (h : .enter e'.visit ∈ walk out' size' root) :
    .enter e'.visit ∈ walk out size root ∨
      ∃ e r, ins e = some r ∧ Reaches out root e.source ∧
        (e' = { e with target := r } ∨
          (e' = ⟨r, .target, e.target⟩ ∧ .enter e.visit ∈ walk out size root)) := by
  rw [hins.walk_eq, List.mem_flatMap] at h
  obtain ⟨event, hevent, hmem⟩ := h
  cases event with
  | enter v =>
    cases hr : v.inserted? ins with
    | none =>
      obtain rfl : e'.visit = v := by simpa [Event.expand, hr] using hmem
      exact .inl hevent
    | some r =>
      obtain ⟨e, rfl, hr', hreaches⟩ := hins.arrival hevent rfl hr
      simp only [Event.expand, hr, List.mem_cons, List.not_mem_nil, or_false, Event.enter.injEq,
        Edge.first_visit, Edge.second_visit, Edge.visit_inj] at hmem
      exact .inr ⟨e, r, hr', hreaches, hmem.imp_right fun he => ⟨he, hevent⟩⟩
  | again v o =>
    cases hr : v.inserted? ins with
    | none => simp [Event.expand, hr] at hmem
    | some r =>
      obtain ⟨e, rfl, hr', hreaches⟩ := hins.arrival hevent rfl hr
      simp only [Event.expand, hr, List.mem_cons, List.not_mem_nil, or_false, Event.enter.injEq,
        reduceCtorEq, Edge.first_visit, Edge.visit_inj] at hmem
      exact .inr ⟨e, r, hr', hreaches, .inl hmem⟩
  | leave v => cases hr : v.inserted? ins <;> simp [Event.expand, hr] at hmem

/-- What is on a path stays on it. -/
lemma onPath_of_old {a m : ModelId} (h : OnPath (walk out size root) a m) :
    OnPath (walk out' size' root) a m := by
  have hmem : ∀ {event : Event} {e : Edge}, event ∈ walk out size root →
      .enter e.visit ∈ event.expand ins → .enter e.visit ∈ walk out' size' root := by
    intro event e hevent hexpand
    rw [hins.walk_eq]
    exact List.mem_flatMap.2 ⟨event, hevent, hexpand⟩
  induction h with
  | refl => exact .refl
  | tail _ hfrom ih =>
    obtain ⟨e, he, rfl, rfl⟩ := hfrom
    cases hr : e.visit.inserted? ins with
    | none => exact ih.tail ⟨e, hmem he (by simp [Event.expand, hr]), rfl, rfl⟩
    | some r =>
      have hfirst : .enter ({ e with target := r } : Edge).visit ∈ walk out' size' root :=
        hmem he (by simp [Event.expand, hr, Edge.first_visit])
      have hsecond : .enter (⟨r, .target, e.target⟩ : Edge).visit ∈ walk out' size' root :=
        hmem he (by simp [Event.expand, hr, Edge.second_visit])
      exact (ih.tail ⟨_, hfirst, rfl, rfl⟩).tail ⟨_, hsecond, rfl, rfl⟩

/-- On a path from a model of before, the models of before are on a path of before, and so are
the models from which the path comes to inserted ones. -/
lemma old_of_onPath {a m : ModelId} (ha : a < size) (h : OnPath (walk out' size' root) a m) :
    (m < size → OnPath (walk out size root) a m) ∧
      ∀ e, ins e = some m → OnPath (walk out size root) a e.source := by
  induction h with
  | refl =>
    refine ⟨fun _ => .refl, fun e he => ?_⟩
    exact absurd ha (Nat.not_lt.2 (hins.le_new he))
  | tail _ hfrom ih =>
    obtain ⟨e', he', rfl, rfl⟩ := hfrom
    rcases hins.enter_cases he' with hold | ⟨e, r, hr, hreaches, rfl | ⟨rfl, he⟩⟩
    · -- an edge of before, between models of before
      obtain ⟨progress, hwalk⟩ := walkState_walk out size root
      have htarget : e'.target < size := hins.range _ (hwalk.reaches_of_enter hold)
      obtain ⟨-, n, hn, hmem⟩ := hwalk.arrival_edge hold rfl rfl
      have hsource : e'.source < size := by
        rw [hins.source n e' hmem]
        exact lt_size_of_mem_walkOrder hn
      refine ⟨fun _ => (ih.1 hsource).tail ⟨e', hold, rfl, rfl⟩, fun e he => ?_⟩
      exact absurd htarget (Nat.not_lt.2 (hins.le_new he))
    · -- to an inserted model, which belongs to this edge only
      refine ⟨fun hlt => absurd hlt (Nat.not_lt.2 (hins.le_new hr)), fun e₁ he₁ => ?_⟩
      obtain rfl : e₁ = e := hins.own e₁ e r he₁ hr
      exact ih.1 (hins.range _ hreaches)
    · -- on from an inserted model: the two edges together are one of before
      have hpath := (ih.2 e hr).tail ⟨e, he, rfl, rfl⟩
      obtain ⟨progress, hwalk⟩ := walkState_walk out size root
      have htarget : e.target < size := hins.range _ (hwalk.reaches_of_enter he)
      exact ⟨fun _ => hpath, fun e₁ he₁ =>
        absurd htarget (Nat.not_lt.2 (hins.le_new he₁))⟩

/-- Inserting models changes no path between models of before. -/
theorem onPath_iff {a m : ModelId} (ha : a < size) (hm : m < size) :
    OnPath (walk out' size' root) a m ↔ OnPath (walk out size root) a m :=
  ⟨fun h => (hins.old_of_onPath ha h).1 hm, hins.onPath_of_old⟩

/-! ## What can be reached -/

lemma reaches_of_old {n : ModelId} (h : Reaches out root n) : Reaches out' root n := by
  induction h with
  | refl => exact .refl
  | @tail a n hreaches hlead ih =>
    obtain ⟨e, he, rfl⟩ := hlead
    have hmem : e.redirect ins ∈ out' a := by
      rw [hins.old a (hins.range a hreaches)]
      exact List.mem_map.2 ⟨e, he, rfl⟩
    have hnext : Reaches out' root (e.redirect ins).target := ih.tail ⟨_, hmem, rfl⟩
    cases hr : ins e with
    | none =>
      rw [Edge.redirect, hr] at hnext
      exact hnext
    | some r =>
      rw [Edge.redirect, hr] at hnext
      exact hnext.tail ⟨⟨r, .target, e.target⟩, by simp [hins.onward e r hr], rfl⟩

/-- The new graph is in range, too. -/
lemma range_new {n : ModelId} (h : Reaches out' root n) : n < size' := by
  have hcases : Reaches out root n ∨ ∃ e, ins e = some n ∧ Reaches out root e.target := by
    induction h with
    | refl => exact .inl .refl
    | @tail a n _ hlead ih =>
      obtain ⟨e', he', rfl⟩ := hlead
      rcases ih with hold | ⟨e, hr, hreaches⟩
      · rw [hins.old a (hins.range a hold)] at he'
        obtain ⟨e, he, rfl⟩ := List.mem_map.1 he'
        have hnext : Reaches out root e.target := hold.tail ⟨e, he, rfl⟩
        rw [Edge.redirect]
        cases hr : ins e with
        | none => exact .inl hnext
        | some r => exact .inr ⟨e, hr, hnext⟩
      · rw [hins.onward e a hr] at he'
        obtain rfl := List.mem_singleton.1 he'
        exact .inl hreaches
  rcases hcases with hold | ⟨e, hr, -⟩
  · exact Nat.lt_of_lt_of_le (hins.range n hold) hins.size_le
  · exact (hins.new e n hr).2

end IsInsertion

end Modelsmith
