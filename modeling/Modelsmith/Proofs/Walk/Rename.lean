/-
# Walks in renamed graphs

A walk depends on a graph only up to the numbers of its models: if a renaming tells the models
below the root apart and takes their edges to those of another graph, then it takes the walk
through the one graph to the walk through the other.
-/
import Modelsmith.Proofs.Walk.Order

namespace Modelsmith

/-- The edge between the new models of an edge. -/
def Edge.rename (f : ModelId → ModelId) (e : Edge) : Edge := ⟨f e.source, e.link, f e.target⟩

/-- The visit to the new model of a visit. -/
def Visit.rename (f : ModelId → ModelId) (v : Visit) : Visit :=
  ⟨f v.node, v.via.map (Edge.rename f)⟩

/-- The event at the new model of an event. -/
def Event.rename (f : ModelId → ModelId) : Event → Event
  | .enter v => .enter (v.rename f)
  | .again v o => .again (v.rename f) o
  | .leave v => .leave (v.rename f)

/-- The task at the new model of a task. -/
def Task.rename (f : ModelId → ModelId) : Task → Task
  | .visit v => .visit (v.rename f)
  | .close v => .close (v.rename f)

variable {f : ModelId → ModelId}

@[simp] lemma Visit.rename_node (v : Visit) : (v.rename f).node = f v.node := rfl

@[simp] lemma Edge.rename_visit (e : Edge) : (e.rename f).visit = e.visit.rename f := rfl

lemma rename_visits (edges : List Edge) :
    (visits edges).map (Task.rename f) = visits (edges.map (Edge.rename f)) := by
  simp [visits, Task.rename]

variable {out out' : ModelId → List Edge} {size size' : Nat} {root : ModelId}

/-- Setting the progress of a model and of its new model keeps the two in step. -/
lemma setIfInBounds_rename {reached : ModelId → Prop} {progress progress' : Array Progress}
    (hinj : ∀ a b, reached a → reached b → f a = f b → a = b)
    (hprogress : ∀ n, reached n → progress'[f n]? = progress[n]?)
    {m n : ModelId} (hm : reached m) (hn : reached n) (p : Progress) :
    (progress'.setIfInBounds (f m) p)[f n]? = (progress.setIfInBounds m p)[n]? := by
  rw [Array.getElem?_setIfInBounds, Array.getElem?_setIfInBounds]
  by_cases hmn : m = n
  · subst hmn
    have hlt : f m < progress'.size ↔ m < progress.size := by
      have h := hprogress m hm
      constructor
      · intro hlt
        by_contra hge
        rw [Array.getElem?_eq_none (Nat.not_lt.1 hge), Array.getElem?_eq_none_iff] at h
        exact absurd hlt (Nat.not_lt.2 h)
      · intro hlt
        by_contra hge
        rw [Array.getElem?_eq_none (Nat.not_lt.1 hge)] at h
        exact absurd hlt (Nat.not_lt.2 (Array.getElem?_eq_none_iff.1 h.symm))
    simp [hlt]
  · have hfmn : f m ≠ f n := fun h => hmn (hinj m n hm hn h)
    simp [hmn, hfmn, hprogress n hn]

/-- From states that are in step the two walks stay in step. -/
lemma walkFrom_rename (reached : ModelId → Prop) {progress progress' : Array Progress}
    (tasks : List Task)
    (hclosed : ∀ n, reached n → ∀ e ∈ out n, reached e.target)
    (hinj : ∀ a b, reached a → reached b → f a = f b → a = b)
    (hout : ∀ n, reached n → out' (f n) = (out n).map (Edge.rename f))
    (htasks : ∀ task ∈ tasks, reached task.about.node)
    (hprogress : ∀ n, reached n → progress'[f n]? = progress[n]?) :
    walkFrom out' progress' (tasks.map (Task.rename f)) =
      (walkFrom out progress tasks).map (Event.rename f) := by
  fun_induction walkFrom out progress tasks generalizing progress' with
  | case1 progress => simp [walkFrom]
  | case2 progress v rest ih =>
    have hv : reached v.node := htasks (.close v) (by simp)
    have hrest : ∀ task ∈ rest, reached task.about.node := fun t ht => htasks t (by simp [ht])
    rw [List.map_cons, Task.rename, walkFrom, List.map_cons]
    exact congrArg _ (ih hrest fun n hn => setIfInBounds_rename hinj hprogress hv hn _)
  | case3 progress v rest fresh ih =>
    have hv : reached v.node := htasks (.visit v) (by simp)
    -- the new tasks follow edges, which do not lead out of the reached models
    have htasks' : ∀ task ∈ visits (out v.node) ++ .close v :: rest,
        reached task.about.node := by
      intro task htask
      rcases List.mem_append.1 htask with htask | htask
      · obtain ⟨e, he, rfl⟩ := List.mem_map.1 htask
        exact hclosed _ hv e he
      · rcases List.mem_cons.1 htask with rfl | htask
        · exact hv
        · exact htasks task (by simp [htask])
    have hrec : walkFrom out' (progress'.setIfInBounds (f v.node) .inside)
        ((visits (out v.node) ++ .close v :: rest).map (Task.rename f)) = _ :=
      ih htasks' fun n hn => setIfInBounds_rename hinj hprogress hv hn .inside
    rw [List.map_append, rename_visits, List.map_cons] at hrec
    rw [List.map_cons, Task.rename, walkFrom, Visit.rename_node, hprogress _ hv, if_pos fresh,
      List.map_cons, hout _ hv]
    exact congrArg _ hrec
  | case4 progress v rest seen ih =>
    have hv : reached v.node := htasks (.visit v) (by simp)
    have hrest : ∀ task ∈ rest, reached task.about.node := fun t ht => htasks t (by simp [ht])
    rw [List.map_cons, Task.rename, walkFrom, Visit.rename_node, hprogress _ hv, if_neg seen,
      List.map_cons, ih hrest hprogress]
    rfl

/-- A renaming of the models below the root takes walks to walks. -/
theorem walk_rename (hrange : ∀ n, Reaches out root n → n < size)
    (hrange' : ∀ n, Reaches out root n → f n < size')
    (hinj : ∀ a b, Reaches out root a → Reaches out root b → f a = f b → a = b)
    (hout : ∀ n, Reaches out root n → out' (f n) = (out n).map (Edge.rename f)) :
    walk out' size' (f root) = (walk out size root).map (Event.rename f) := by
  refine walkFrom_rename (Reaches out root) [.visit ⟨root, none⟩] ?_ hinj hout ?_ ?_
  · intro n hn e he
    exact hn.tail ⟨e, he, rfl⟩
  · intro task htask
    obtain rfl : task = .visit ⟨root, none⟩ := by simpa using htask
    exact .refl
  · intro n hn
    simp [hrange n hn, hrange' n hn]

end Modelsmith
