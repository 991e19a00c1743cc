/-
# Leaving models

A walk leaves the models that it has entered, each once, and in the end it has left all of
them.  So how far it is with a model is known from the events so far, and there is one moment
at which it leaves a given model.
-/
import Modelsmith.Proofs.Walk.Rename

namespace Modelsmith

/-- The model that an event leaves. -/
def Event.left? : Event → Option ModelId
  | .leave v => some v.node
  | _ => none

/-- The models that a list of events leaves, in order. -/
def left (events : List Event) : List ModelId := events.filterMap Event.left?

@[simp] lemma left_nil : left [] = [] := rfl

@[simp] lemma left_append (l l' : List Event) : left (l ++ l') = left l ++ left l' :=
  List.filterMap_append

@[simp] lemma left_enter (v : Visit) : left [.enter v] = [] := rfl

@[simp] lemma left_again (v : Visit) (o : Bool) : left [.again v o] = [] := rfl

@[simp] lemma left_leave (v : Visit) : left [.leave v] = [v.node] := rfl

lemma mem_left {events : List Event} {n : ModelId} :
    n ∈ left events ↔ ∃ v, .leave v ∈ events ∧ v.node = n := by
  simp only [left, List.mem_filterMap]
  constructor
  · rintro ⟨event, hmem, hn⟩
    cases event with
    | leave v => exact ⟨v, hmem, by simpa [Event.left?] using hn⟩
    | enter v => simp [Event.left?] at hn
    | again v o => simp [Event.left?] at hn
  · rintro ⟨v, hmem, rfl⟩
    exact ⟨.leave v, hmem, rfl⟩

lemma entered_rename (f : ModelId → ModelId) (events : List Event) :
    entered (events.map (Event.rename f)) = (entered events).map f := by
  rw [entered, entered, List.filterMap_map, List.map_filterMap]
  refine List.filterMap_congr fun event _ => ?_
  cases event <;> rfl

lemma left_rename (f : ModelId → ModelId) (events : List Event) :
    left (events.map (Event.rename f)) = (left events).map f := by
  rw [left, left, List.filterMap_map, List.map_filterMap]
  refine List.filterMap_congr fun event _ => ?_
  cases event <;> rfl

namespace WalkState

variable {out : ModelId → List Edge} {size : Nat} {root n : ModelId} {past : List Event}
  {progress : Array Progress} {tasks rest : List Task} {v : Visit}

/-- The models that the walk has entered are those that it has left and those that it is inside
of. -/
lemma left_perm (h : WalkState out size root past progress tasks) :
    (left past ++ (openVisits tasks).map (·.node)).Perm (entered past) := by
  induction h with
  | start => simp
  | leave before ih => simpa using ih
  | @enter past progress v rest before fresh ih =>
    simp only [left_append, left_enter, List.append_nil, openVisits_visits_append,
      openVisits_close, List.map_cons, entered_append, entered_enter]
    refine List.perm_middle.trans ?_
    exact (List.Perm.cons _ ih).trans (List.perm_append_singleton _ _).symm
  | again _ _ ih => simpa using ih

/-- No model is left twice. -/
lemma left_nodup (h : WalkState out size root past progress tasks) : (left past).Nodup :=
  (List.nodup_append.1 (h.left_perm.nodup_iff.2 h.entered_nodup)).1

/-- The models that the walk is done with are those that it has left. -/
lemma done_iff (h : WalkState out size root past progress tasks) :
    progress[n]? = some .done ↔ n ∈ left past := by
  induction h with
  | start => simp [Array.getElem?_replicate]
  | @leave past progress v rest before ih =>
    have hinside := (before.tracked.inside_iff v.node).2 ⟨v, by simp, rfl⟩
    have hlt := (Array.getElem?_eq_some_iff.1 hinside).1
    by_cases hn : v.node = n
    · subst hn
      simp [hlt]
    · rw [Array.getElem?_setIfInBounds_ne hn, ih]
      simp [Ne.symm hn]
  | @enter past progress v rest before fresh ih =>
    have hlt := (Array.getElem?_eq_some_iff.1 fresh).1
    by_cases hn : v.node = n
    · subst hn
      have hnot : v.node ∉ left past := by
        rw [← ih, fresh]
        simp
      simp [hlt, hnot]
    · rw [Array.getElem?_setIfInBounds_ne hn, ih]
      simp
  | again _ _ ih => simpa using ih

/-- There is a moment at which the walk leaves a model that it is done with. -/
lemma exists_close (h : WalkState out size root past progress tasks)
    (hn : progress[n]? = some .done) :
    ∃ past' progress' v rest, WalkState out size root past' progress' (.close v :: rest) ∧
      v.node = n := by
  induction h with
  | start => simp [Array.getElem?_replicate] at hn
  | @leave past progress v rest before ih =>
    by_cases hsame : v.node = n
    · exact ⟨past, progress, v, rest, before, hsame⟩
    · rw [Array.getElem?_setIfInBounds_ne hsame] at hn
      exact ih hn
  | @enter past progress v rest before fresh ih =>
    have hne : v.node ≠ n := by
      rintro rfl
      have hlt := (Array.getElem?_eq_some_iff.1 fresh).1
      simp [hlt] at hn
    rw [Array.getElem?_setIfInBounds_ne hne] at hn
    exact ih hn
  | again _ _ ih => exact ih hn

/-- The events of the walk before and after it leaves a model. -/
lemma leave_append (h : WalkState out size root past progress (.close v :: rest)) :
    past ++ .leave v :: walkFrom out (progress.setIfInBounds v.node .done) rest =
      walk out size root := by
  rw [← h.past_append, walkFrom]

/-- The walk leaves a model at one moment only. -/
lemma notMem_left_of_close (h : WalkState out size root past progress (.close v :: rest)) :
    v.node ∉ left past ∧
      v.node ∉ left (walkFrom out (progress.setIfInBounds v.node .done) rest) := by
  obtain ⟨progress', hwalk⟩ := walkState_walk out size root
  have hnodup := hwalk.left_nodup
  rw [← h.leave_append, List.append_cons, left_append, left_append, left_leave,
    List.append_assoc, List.singleton_append] at hnodup
  have hmiddle := List.nodup_middle.1 hnodup
  rw [List.nodup_cons, List.mem_append, not_or] at hmiddle
  exact hmiddle.1

end WalkState

end Modelsmith
