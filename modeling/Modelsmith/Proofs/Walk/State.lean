/-
# States of a depth-first walk

A walk is given as the list of its events.  What holds along a walk is proved by induction
over its states: the events so far, how far the walk is with each model, and the tasks that
are left.  `WalkState` describes the states that occur, and `Stack` the shape of the tasks:
for every model that the walk is inside of, the edges that it still has to follow from there,
innermost model first.
-/
import Mathlib.Data.List.Perm.Basic
import Mathlib.Data.List.Nodup
import Mathlib.Logic.Relation
import Modelsmith.Graph.Walk

namespace Modelsmith

/-- The edge by which an event arrives somewhere. -/
def Event.edge? (event : Event) : Option Edge := event.arrival?.bind (·.via)

/-- The models that a list of events enters, in order. -/
def entered (events : List Event) : List ModelId := events.filterMap Event.entered?

/-- The edges by which a list of events arrives, in order. -/
def arrivals (events : List Event) : List Edge := events.filterMap Event.edge?

/-- The visit that a task is about. -/
def Task.about : Task → Visit
  | .visit v => v
  | .close v => v

/-- The model that a task goes to. -/
def Task.goal? : Task → Option ModelId
  | .visit v => some v.node
  | .close _ => none

/-- The edge that a task still has to follow. -/
def Task.pending? : Task → Option Edge
  | .visit v => v.via
  | .close _ => none

/-- The visit that a task ends. -/
def Task.closed? : Task → Option Visit
  | .visit _ => none
  | .close v => some v

/-- The tasks of following edges. -/
def visits (edges : List Edge) : List Task := edges.map fun e => .visit e.visit

/-- The models that the walk has still to go to, in order. -/
def goals (tasks : List Task) : List ModelId := tasks.filterMap Task.goal?

/-- The visits that the walk is still inside of, innermost first. -/
def openVisits (tasks : List Task) : List Visit := tasks.filterMap Task.closed?

/-- The edges that the walk has still to follow. -/
def pendingEdges (tasks : List Task) : List Edge := tasks.filterMap Task.pending?

@[simp] lemma Edge.visit_node (e : Edge) : e.visit.node = e.target := rfl

@[simp] lemma Edge.visit_via (e : Edge) : e.visit.via = some e := rfl

@[simp] lemma Edge.visit_inj {e e' : Edge} : e.visit = e'.visit ↔ e = e' :=
  ⟨fun h => Option.some.inj (congrArg Visit.via h), fun h => h ▸ rfl⟩

@[simp] lemma entered_nil : entered [] = [] := rfl

@[simp] lemma entered_append (l l' : List Event) : entered (l ++ l') = entered l ++ entered l' :=
  List.filterMap_append

@[simp] lemma entered_enter (v : Visit) : entered [.enter v] = [v.node] := rfl

@[simp] lemma entered_again (v : Visit) (o : Bool) : entered [.again v o] = [] := rfl

@[simp] lemma entered_leave (v : Visit) : entered [.leave v] = [] := rfl

lemma mem_entered {events : List Event} {n : ModelId} :
    n ∈ entered events ↔ ∃ v, .enter v ∈ events ∧ v.node = n := by
  simp only [entered, List.mem_filterMap]
  constructor
  · rintro ⟨event, hmem, hn⟩
    cases event with
    | enter v => exact ⟨v, hmem, by simpa [Event.entered?] using hn⟩
    | again v o => simp [Event.entered?] at hn
    | leave v => simp [Event.entered?] at hn
  · rintro ⟨v, hmem, rfl⟩
    exact ⟨.enter v, hmem, rfl⟩

@[simp] lemma arrivals_nil : arrivals [] = [] := rfl

@[simp] lemma arrivals_append (l l' : List Event) :
    arrivals (l ++ l') = arrivals l ++ arrivals l' :=
  List.filterMap_append

@[simp] lemma arrivals_enter (v : Visit) : arrivals [.enter v] = v.via.toList := by
  rcases v with ⟨n, _ | e⟩ <;> rfl

@[simp] lemma arrivals_again (v : Visit) (o : Bool) : arrivals [.again v o] = v.via.toList := by
  rcases v with ⟨n, _ | e⟩ <;> rfl

@[simp] lemma arrivals_leave (v : Visit) : arrivals [.leave v] = [] := rfl

lemma mem_arrivals {events : List Event} {e : Edge} :
    e ∈ arrivals events ↔ ∃ event ∈ events, event.edge? = some e :=
  List.mem_filterMap

@[simp] lemma visits_nil : visits [] = [] := rfl

@[simp] lemma visits_cons (e : Edge) (edges : List Edge) :
    visits (e :: edges) = .visit e.visit :: visits edges := rfl

@[simp] lemma goals_nil : goals [] = [] := rfl

@[simp] lemma goals_close (v : Visit) (rest : List Task) :
    goals (.close v :: rest) = goals rest := rfl

@[simp] lemma goals_visit (v : Visit) (rest : List Task) :
    goals (.visit v :: rest) = v.node :: goals rest := rfl

@[simp] lemma goals_visits_append (edges : List Edge) (tasks : List Task) :
    goals (visits edges ++ tasks) = edges.map (·.target) ++ goals tasks := by
  induction edges with
  | nil => rfl
  | cons e edges ih => simpa using ih

@[simp] lemma pendingEdges_nil : pendingEdges [] = [] := rfl

@[simp] lemma pendingEdges_close (v : Visit) (rest : List Task) :
    pendingEdges (.close v :: rest) = pendingEdges rest := rfl

@[simp] lemma pendingEdges_visit (v : Visit) (rest : List Task) :
    pendingEdges (.visit v :: rest) = v.via.toList ++ pendingEdges rest := by
  rcases v with ⟨n, _ | e⟩ <;> rfl

@[simp] lemma pendingEdges_visits_append (edges : List Edge) (tasks : List Task) :
    pendingEdges (visits edges ++ tasks) = edges ++ pendingEdges tasks := by
  induction edges with
  | nil => rfl
  | cons e edges ih => simpa using ih

@[simp] lemma openVisits_nil : openVisits [] = [] := rfl

@[simp] lemma openVisits_visits_append (edges : List Edge) (tasks : List Task) :
    openVisits (visits edges ++ tasks) = openVisits tasks := by
  induction edges with
  | nil => rfl
  | cons e edges ih => exact ih

@[simp] lemma openVisits_close (v : Visit) (rest : List Task) :
    openVisits (.close v :: rest) = v :: openVisits rest := rfl

@[simp] lemma openVisits_visit (v : Visit) (rest : List Task) :
    openVisits (.visit v :: rest) = openVisits rest := rfl

/-! ## The states -/

variable (out : ModelId → List Edge) (size : Nat) (root : ModelId)

/-- The states of the walk from `root`: the events so far, the progress with each model, and
the tasks left.  Each step is one event of `walkFrom`. -/
inductive WalkState : List Event → Array Progress → List Task → Prop
  /-- Nothing has happened. -/
  | start : WalkState [] (Array.replicate size .fresh) [.visit ⟨root, none⟩]
  /-- The walk leaves a model. -/
  | leave {past : List Event} {progress : Array Progress} {v : Visit} {rest : List Task}
      (before : WalkState past progress (.close v :: rest)) :
      WalkState (past ++ [.leave v]) (progress.setIfInBounds v.node .done) rest
  /-- The walk enters a model. -/
  | enter {past : List Event} {progress : Array Progress} {v : Visit} {rest : List Task}
      (before : WalkState past progress (.visit v :: rest))
      (fresh : progress[v.node]? = some .fresh) :
      WalkState (past ++ [.enter v]) (progress.setIfInBounds v.node .inside)
        (visits (out v.node) ++ .close v :: rest)
  /-- The walk comes to a model again. -/
  | again {past : List Event} {progress : Array Progress} {v : Visit} {rest : List Task}
      (before : WalkState past progress (.visit v :: rest))
      (seen : progress[v.node]? ≠ some .fresh) :
      WalkState (past ++ [.again v (progress[v.node]? == some .inside)]) progress rest

variable {out size root}

/-- From every state the walk runs to its end, and its events are those of `walkFrom`. -/
lemma WalkState.finish {past : List Event} {progress : Array Progress} {tasks : List Task}
    (h : WalkState out size root past progress tasks) :
    ∃ progress', WalkState out size root (past ++ walkFrom out progress tasks) progress' [] := by
  fun_induction walkFrom out progress tasks generalizing past with
  | case1 progress => exact ⟨progress, by simpa using h⟩
  | case2 progress v rest ih => simpa using ih h.leave
  | case3 progress v rest fresh ih => simpa using ih (h.enter fresh)
  | case4 progress v rest seen ih => simpa using ih (h.again seen)

/-- The whole walk is the list of events of a state with nothing left to do. -/
theorem walkState_walk (out : ModelId → List Edge) (size : Nat) (root : ModelId) :
    ∃ progress, WalkState out size root (walk out size root) progress [] :=
  WalkState.start.finish

/-- A walk does after a state what `walkFrom` says, so that its events are known. -/
lemma WalkState.past_append {past : List Event} {progress : Array Progress} {tasks : List Task}
    (h : WalkState out size root past progress tasks) :
    past ++ walkFrom out progress tasks = walk out size root := by
  induction h with
  | start => rfl
  | leave _ ih =>
    rw [← ih]
    simp [walkFrom]
  | enter _ fresh ih =>
    rw [← ih, walkFrom, if_pos fresh]
    simp [visits]
  | again _ seen ih =>
    rw [← ih, walkFrom, if_neg seen]
    simp

lemma WalkState.eq_walk {past : List Event} {progress : Array Progress}
    (h : WalkState out size root past progress []) : past = walk out size root := by
  have hpast := h.past_append
  rwa [walkFrom, List.append_nil] at hpast

/-! ## The shape of the tasks -/

/-- A visit hangs below the visits that the walk is inside of: it is the start of the walk, or
it follows an edge that leaves the innermost of them. -/
def Hangs (out : ModelId → List Edge) (root : ModelId) (v : Visit) : List Visit → Prop
  | [] => v = ⟨root, none⟩
  | u :: _ => ∃ e ∈ out u.node, v = e.visit

/-- Lists of tasks that occur on a walk: for every open visit the edges not followed yet, then
the end of the visit. -/
inductive Stack (out : ModelId → List Edge) (root : ModelId) : List Task → Prop
  | nil : Stack out root []
  | start : Stack out root [.visit ⟨root, none⟩]
  | frame {v : Visit} {done left : List Edge} {rest : List Task}
      (hangs : Hangs out root v (openVisits rest)) (split : out v.node = done ++ left)
      (below : Stack out root rest) : Stack out root (visits left ++ .close v :: rest)

namespace Stack

variable {v : Visit} {rest tasks : List Task}

lemma of_close (h : Stack out root (.close v :: rest)) :
    Hangs out root v (openVisits rest) ∧ Stack out root rest := by
  generalize ht : Task.close v :: rest = tasks at h
  cases h with
  | nil => simp at ht
  | start => simp at ht
  | @frame w done left rest' hangs split below =>
    cases left with
    | nil =>
      simp only [visits_nil, List.nil_append, List.cons.injEq, Task.close.injEq] at ht
      obtain ⟨rfl, rfl⟩ := ht
      exact ⟨hangs, below⟩
    | cons e left => simp at ht

lemma of_visit (h : Stack out root (.visit v :: rest)) :
    Hangs out root v (openVisits rest) ∧ Stack out root rest := by
  generalize ht : Task.visit v :: rest = tasks at h
  cases h with
  | nil => simp at ht
  | start =>
    simp only [List.cons.injEq, Task.visit.injEq] at ht
    obtain ⟨rfl, rfl⟩ := ht
    exact ⟨rfl, .nil⟩
  | @frame w done left rest' hangs split below =>
    cases left with
    | nil => simp at ht
    | cons e left =>
      simp only [visits_cons, List.cons_append, List.cons.injEq, Task.visit.injEq] at ht
      obtain ⟨rfl, rfl⟩ := ht
      have hsplit : out w.node = (done ++ [e]) ++ left := by simpa using split
      have hmem : e ∈ out w.node := by simp [split]
      refine ⟨?_, .frame hangs hsplit below⟩
      rw [openVisits_visits_append, openVisits_close]
      exact ⟨e, hmem, rfl⟩

/-- Entering a model puts its edges on top of the stack. -/
lemma enter (h : Stack out root (.visit v :: rest)) :
    Stack out root (visits (out v.node) ++ .close v :: rest) :=
  .frame h.of_visit.1 (List.nil_append _).symm h.of_visit.2

end Stack

lemma WalkState.stack {past : List Event} {progress : Array Progress} {tasks : List Task}
    (h : WalkState out size root past progress tasks) : Stack out root tasks := by
  induction h with
  | start => exact .start
  | leave _ ih => exact ih.of_close.2
  | enter _ _ ih => exact ih.enter
  | again _ _ ih => exact ih.of_visit.2

/-! ## Progress -/

/-- What the progress says about the events so far and the tasks left. -/
structure Tracked (size : Nat) (past : List Event) (progress : Array Progress)
    (tasks : List Task) : Prop where
  size_eq : progress.size = size
  entered_lt : ∀ n ∈ entered past, n < size
  fresh_iff : ∀ n, progress[n]? = some .fresh ↔ n < size ∧ n ∉ entered past
  inside_iff : ∀ n, progress[n]? = some .inside ↔ ∃ v ∈ openVisits tasks, v.node = n
  open_nodup : ((openVisits tasks).map (·.node)).Nodup
  open_entered : ∀ v ∈ openVisits tasks, .enter v ∈ past

namespace Tracked

variable {past : List Event} {progress : Array Progress} {v : Visit} {rest : List Task}

lemma start : Tracked size [] (Array.replicate size .fresh) [.visit ⟨root, none⟩] where
  size_eq := by simp
  entered_lt := by simp
  fresh_iff n := by simp [Array.getElem?_replicate]
  inside_iff n := by simp [Array.getElem?_replicate]
  open_nodup := by simp
  open_entered := by simp

lemma leave (h : Tracked size past progress (.close v :: rest)) :
    Tracked size (past ++ [.leave v]) (progress.setIfInBounds v.node .done) rest := by
  obtain ⟨hnot, hnodup⟩ := List.nodup_cons.1 h.open_nodup
  have hin : progress[v.node]? = some .inside := (h.inside_iff _).2 ⟨v, by simp, rfl⟩
  have hlt : v.node < progress.size := (Array.getElem?_eq_some_iff.1 hin).1
  have hentered : v.node ∈ entered past :=
    mem_entered.2 ⟨v, h.open_entered v (by simp), rfl⟩
  refine ⟨by simp [h.size_eq], by simpa using h.entered_lt, fun n => ?_, fun n => ?_, hnodup,
    fun w hw => ?_⟩
  · rw [Array.getElem?_setIfInBounds]
    by_cases hn : v.node = n
    · subst hn
      simp [hlt, hentered]
    · simp [hn, h.fresh_iff]
  · rw [Array.getElem?_setIfInBounds]
    by_cases hn : v.node = n
    · subst hn
      have hnone : ¬ ∃ w ∈ openVisits rest, w.node = v.node := fun ⟨w, hw, hwn⟩ =>
        hnot (List.mem_map.2 ⟨w, hw, hwn⟩)
      simpa [hlt] using hnone
    · simp [hn, h.inside_iff]
  · simp [h.open_entered w (by simp [hw])]

lemma enter (h : Tracked size past progress (.visit v :: rest))
    (fresh : progress[v.node]? = some .fresh) :
    Tracked size (past ++ [.enter v]) (progress.setIfInBounds v.node .inside)
      (visits (out v.node) ++ .close v :: rest) := by
  have hlt : v.node < progress.size := (Array.getElem?_eq_some_iff.1 fresh).1
  have hnot : ¬ ∃ w ∈ openVisits rest, w.node = v.node := by
    intro hopen
    have hin := (h.inside_iff v.node).2 (by simpa using hopen)
    simp [fresh] at hin
  refine ⟨by simp [h.size_eq], fun n hn => ?_, fun n => ?_, fun n => ?_, ?_, fun w hw => ?_⟩
  · simp only [entered_append, entered_enter, List.mem_append, List.mem_singleton] at hn
    rcases hn with hn | rfl
    · exact h.entered_lt n hn
    · exact h.size_eq ▸ hlt
  · rw [Array.getElem?_setIfInBounds]
    by_cases hn : v.node = n
    · subst hn
      simp [hlt]
    · simp [hn, h.fresh_iff, Ne.symm hn]
  · rw [Array.getElem?_setIfInBounds]
    by_cases hn : v.node = n
    · subst hn
      simp [hlt]
    · simp [hn, h.inside_iff]
  · simpa using ⟨fun w hw hn => hnot ⟨w, hw, hn⟩, h.open_nodup⟩
  · simp only [openVisits_visits_append, openVisits_close, List.mem_cons] at hw
    rcases hw with rfl | hw
    · simp
    · simp [h.open_entered w (by simpa using hw)]

lemma again (h : Tracked size past progress (.visit v :: rest)) (o : Bool) :
    Tracked size (past ++ [.again v o]) progress rest where
  size_eq := h.size_eq
  entered_lt := by simpa using h.entered_lt
  fresh_iff n := by simp [h.fresh_iff]
  inside_iff n := by simp [h.inside_iff]
  open_nodup := by simpa using h.open_nodup
  open_entered w hw := by simp [h.open_entered w (by simpa using hw)]

end Tracked

namespace WalkState

variable {past : List Event} {progress : Array Progress} {v : Visit} {tasks rest : List Task}

lemma tracked (h : WalkState out size root past progress tasks) :
    Tracked size past progress tasks := by
  induction h with
  | start => exact .start
  | leave _ ih => exact ih.leave
  | enter _ fresh ih => exact ih.enter fresh
  | again _ _ ih => exact ih.again _

/-- In the end the walk has left all models that it has entered. -/
lemma done_of_entered (h : WalkState out size root past progress []) {n : ModelId}
    (hn : n ∈ entered past) : progress[n]? = some .done := by
  have htracked := h.tracked
  have hlt : n < progress.size := htracked.size_eq ▸ htracked.entered_lt n hn
  cases hp : progress[n]? with
  | none => exact absurd hlt (Nat.not_lt.2 (Array.getElem?_eq_none_iff.1 hp))
  | some p =>
    cases p with
    | fresh => exact absurd hn ((htracked.fresh_iff n).1 hp).2
    | inside => simpa using (htracked.inside_iff n).1 hp
    | done => rfl

/-- A visit that is due starts the walk or follows an edge that leaves the innermost open
model. -/
lemma due (h : WalkState out size root past progress (.visit v :: rest)) :
    (openVisits rest = [] ∧ v = ⟨root, none⟩) ∨
      ∃ u opens e, openVisits rest = u :: opens ∧ .enter u ∈ past ∧ e ∈ out u.node ∧
        v = e.visit := by
  have hhangs := h.stack.of_visit.1
  cases hrest : openVisits rest with
  | nil =>
    rw [hrest] at hhangs
    exact .inl ⟨rfl, hhangs⟩
  | cons u opens =>
    rw [hrest] at hhangs
    obtain ⟨e, he, hv⟩ := hhangs
    have hu : .enter u ∈ past := h.tracked.open_entered u (by simp [hrest])
    exact .inr ⟨u, opens, e, rfl, hu, he, hv⟩

/-- No model is entered twice. -/
lemma entered_nodup (h : WalkState out size root past progress tasks) :
    (entered past).Nodup := by
  induction h with
  | start => simp
  | leave _ ih => simpa using ih
  | enter before fresh ih =>
    have hnot := ((before.tracked.fresh_iff _).1 fresh).2
    simp only [entered_append, entered_enter]
    exact List.nodup_append.2 ⟨ih, by simp, by
      intro a ha b hb hab
      simp only [List.mem_singleton] at hb
      exact hnot (hb ▸ hab ▸ ha)⟩
  | again _ _ ih => simpa using ih

/-- Every model is entered by one visit only. -/
lemma enter_unique (h : WalkState out size root past progress tasks) {w : Visit}
    (hv : .enter v ∈ past) (hw : .enter w ∈ past) (hn : v.node = w.node) : v = w := by
  induction h with
  | start => simp at hv
  | leave _ ih => exact ih (by simpa using hv) (by simpa using hw)
  | @enter past progress u rest before fresh ih =>
    have hnot := ((before.tracked.fresh_iff _).1 fresh).2
    simp only [List.mem_append, List.mem_singleton, Event.enter.injEq] at hv hw
    -- the model that is entered now has not been entered before
    rcases hv with hv | rfl <;> rcases hw with hw | rfl
    · exact ih hv hw
    · exact absurd (mem_entered.2 ⟨v, hv, hn⟩) hnot
    · exact absurd (mem_entered.2 ⟨w, hw, hn.symm⟩) hnot
    · rfl
  | again _ _ ih => exact ih (by simpa using hv) (by simpa using hw)

/-- The walk comes only to models that it enters, unless there is no such model. -/
lemma arrived (h : WalkState out size root past progress tasks) {event : Event}
    (hevent : event ∈ past) (hv : event.arrival? = some v) :
    v.node ∈ entered past ∨ size ≤ v.node := by
  induction h with
  | start => simp at hevent
  | @leave past progress u rest before ih =>
    simp only [List.mem_append, List.mem_singleton] at hevent
    rcases hevent with hevent | rfl
    · simpa using ih hevent
    · simp [Event.arrival?] at hv
  | @enter past progress u rest before fresh ih =>
    simp only [List.mem_append, List.mem_singleton] at hevent
    rcases hevent with hevent | rfl
    · rcases ih hevent with hin | hout
      · exact .inl (by simp [hin])
      · exact .inr hout
    · obtain rfl : u = v := by simpa [Event.arrival?] using hv
      exact .inl (by simp)
  | @again past progress u rest before seen ih =>
    simp only [List.mem_append, List.mem_singleton] at hevent
    rcases hevent with hevent | rfl
    · simpa using ih hevent
    · obtain rfl : u = v := by simpa [Event.arrival?] using hv
      rw [ne_eq, before.tracked.fresh_iff, not_and_or, not_not, Nat.not_lt] at seen
      simpa using seen.symm

/-- Every edge that leaves an entered model has been followed or will be, each once. -/
lemma arrivals_perm (h : WalkState out size root past progress tasks) :
    (arrivals past ++ pendingEdges tasks).Perm ((entered past).flatMap out) := by
  induction h with
  | start => simp
  | leave before ih => simpa using ih
  | @enter past progress v rest before fresh ih =>
    -- the edge of the visit is no longer due, and the edges of the entered model are
    simp only [pendingEdges_visit, ← List.append_assoc] at ih
    simp only [arrivals_append, arrivals_enter, pendingEdges_visits_append, pendingEdges_close,
      entered_append, entered_enter, List.flatMap_append, List.flatMap_singleton]
    refine List.Perm.trans ?_ (ih.append_right (out v.node))
    rw [List.append_assoc _ (pendingEdges rest)]
    exact List.perm_append_comm.append_left _
  | @again past progress v rest before seen ih => simpa using ih

end WalkState

end Modelsmith
