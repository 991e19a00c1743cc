/-
# The models that a walk meets

A walk meets a model whenever it follows an edge to it.  In the order in which they are first
met, the models are found depth-first: whoever goes to the ends of the edges of the root in
turn, each time to everything below before going on, finds them in this order.  The root is met
only if an edge leads back to it, and nothing is looked for below it a second time.
-/
import Mathlib.Data.List.Induction
import Modelsmith.Proofs.Walk.Order

namespace Modelsmith

/-! ## First occurrences -/

lemma eraseDups_concat {α : Type} [DecidableEq α] (xs : List α) (x : α) :
    (xs ++ [x]).eraseDups = if x ∈ xs then xs.eraseDups else xs.eraseDups ++ [x] := by
  rw [List.eraseDups_append]
  split
  · next hx => simp [List.removeAll, hx]
  · next hx => simp [List.removeAll, hx, List.eraseDups_cons]

/-- The first occurrences in a part of a list are those in the list that belong to the part. -/
lemma eraseDups_filter {α : Type} [DecidableEq α] (p : α → Bool) (xs : List α) :
    (xs.filter p).eraseDups = xs.eraseDups.filter p := by
  induction xs using List.reverseRecOn with
  | nil => rfl
  | append_singleton xs x ih =>
    rw [List.filter_append, eraseDups_concat]
    by_cases hp : p x = true
    · rw [List.filter_singleton, hp, cond_true, eraseDups_concat, ih]
      by_cases hx : x ∈ xs <;> simp [hx, hp]
    · by_cases hx : x ∈ xs <;> simp [hx, hp, ih]

/-! ## Depth-first search -/

namespace DepthFirst

variable {next : ModelId → List ModelId} {seen todo found : List ModelId}

/-- A search that goes to everything below a model, and not below it again when it comes back,
is the search from this model. -/
lemma of_beyond {root : ModelId}
    (h : DepthFirst (fun n => if n = root then [] else next n) seen todo found) :
    DepthFirst next (root :: seen.filter (· ≠ root)) todo (root :: found.filter (· ≠ root)) := by
  induction h with
  | done seen => exact .done _
  | @skip n seen todo found old _ ih =>
    refine .skip ?_ ih
    by_cases hn : n = root
    · simp [hn]
    · simp [hn, old]
  | @visit n seen todo below found new inner _ ihInner ihOthers =>
    by_cases hn : n = root
    · -- below the root nothing is found when the search comes back to it
      subst hn
      rw [if_pos rfl] at inner
      cases inner
      exact .skip (by simp) (by simpa using ihOthers)
    · refine .visit (by simp [hn, new]) ?_ ihOthers
      simpa [hn] using ihInner

end DepthFirst

/-! ## Meetings -/

/-- The models at the ends of the edges that leave a model. -/
def targets (out : ModelId → List Edge) (n : ModelId) : List ModelId := (out n).map (·.target)

/-- The models that a list of events meets, each once, in the order in which it first meets
them. -/
def met (events : List Event) : List ModelId := ((arrivals events).map (·.target)).eraseDups

lemma mem_met {events : List Event} {n : ModelId} :
    n ∈ met events ↔ ∃ e ∈ arrivals events, e.target = n := by
  rw [met, List.mem_eraseDups, List.mem_map]

lemma met_leave (events : List Event) (v : Visit) : met (events ++ [.leave v]) = met events := by
  simp [met]

/-- An arrival along an edge adds its end, unless this has been met. -/
lemma met_arrive {events : List Event} {event : Event} {e : Edge}
    (he : arrivals [event] = [e]) :
    met (events ++ [event]) =
      if e.target ∈ met events then met events else met events ++ [e.target] := by
  rw [met, arrivals_append, he, List.map_append, List.map_singleton, eraseDups_concat]
  simp only [met, List.mem_eraseDups]

variable {out : ModelId → List Edge} {size : Nat} {root : ModelId}

namespace WalkState

variable {past : List Event} {progress : Array Progress} {v : Visit} {tasks : List Task}
variable (h : WalkState out size root past progress tasks)
include h

/-- A model that is met is entered, or there is no such model. -/
lemma entered_of_met {n : ModelId} (hn : n ∈ met past) : n ∈ entered past ∨ size ≤ n := by
  obtain ⟨e, he, rfl⟩ := mem_met.1 hn
  obtain ⟨event, hevent, hedge⟩ := mem_arrivals.1 he
  obtain ⟨v, hv, hvia⟩ := Option.bind_eq_some_iff.1 hedge
  obtain ⟨rfl, -⟩ := h.arrival_edge hevent hv hvia
  exact h.arrived hevent hv

/-- The walk enters every model along an edge, but for the root. -/
lemma via_of_enter (hv : .enter v ∈ past) : v = ⟨root, none⟩ ∨ ∃ e : Edge, v = e.visit := by
  induction h with
  | start => simp at hv
  | leave _ ih => exact ih (by simpa using hv)
  | @enter past progress u rest before fresh ih =>
    simp only [List.mem_append, List.mem_singleton, Event.enter.injEq] at hv
    rcases hv with hv | rfl
    · exact ih hv
    · rcases before.due with ⟨-, hroot⟩ | ⟨_, _, e, -, -, -, he⟩
      · exact .inl hroot
      · exact .inr ⟨e, he⟩
  | again _ _ ih => exact ih (by simpa using hv)

/-- The walk meets every model that it enters, but for the root. -/
lemma met_of_entered {n : ModelId} (hn : n ∈ entered past) (hroot : n ≠ root) :
    n ∈ met past := by
  obtain ⟨v, hv, rfl⟩ := mem_entered.1 hn
  rcases h.via_of_enter hv with rfl | ⟨e, rfl⟩
  · exact absurd rfl hroot
  · exact mem_met.2 ⟨e, mem_arrivals.2 ⟨_, hv, rfl⟩, rfl⟩

/-- From every state in which the root has been entered, the walk searches depth-first for the
models that it has not met. -/
lemma meets (hout : ∀ n, size ≤ n → out n = []) (hroot : root ∈ entered past)
    (hvia : ∀ v, .visit v ∈ tasks → ∃ e : Edge, v = e.visit) :
    DepthFirst (fun n => if n = root then [] else targets out n) (met past) (goals tasks)
      (met (past ++ walkFrom out progress tasks)) := by
  fun_induction walkFrom out progress tasks generalizing past with
  | case1 progress => simpa using DepthFirst.done (met past)
  | case2 progress v rest ih =>
    have hrec := ih h.leave (by simpa using hroot) fun w hw => hvia w (by simp [hw])
    simpa [met_leave] using hrec
  | case3 progress v rest fresh ih =>
    obtain ⟨e, rfl⟩ := hvia v (by simp)
    obtain ⟨hlt, hnotEntered⟩ := (h.tracked.fresh_iff _).1 fresh
    have hnew : e.target ∉ met past := by
      intro hmet
      rcases h.entered_of_met hmet with hentered | hge
      · exact hnotEntered hentered
      · exact Nat.not_lt.2 hge hlt
    have hne : e.target ≠ root := by
      rintro rfl
      exact hnotEntered hroot
    have hrec : DepthFirst (fun n => if n = root then [] else targets out n)
        (met (past ++ [.enter e.visit]))
        (goals (visits (out e.visit.node) ++ .close e.visit :: rest)) _ :=
      ih (h.enter fresh) (by simp [hroot]) fun w hw => by
        simp only [List.mem_append, List.mem_map, List.mem_cons, Task.visit.injEq,
          reduceCtorEq, false_or] at hw
        rcases hw with ⟨e', -, rfl⟩ | hw
        · exact ⟨e', rfl⟩
        · exact hvia w (by simp [hw])
    -- the tasks on top are those below the model, so that the search splits after them
    rw [met_arrive (e := e) (by simp), if_neg hnew, goals_visits_append, goals_close] at hrec
    obtain ⟨below, hinner, hothers⟩ := hrec.of_append
    have hinner' : DepthFirst (fun n => if n = root then [] else targets out n)
        (met past ++ [e.target]) (if e.target = root then [] else targets out e.target) below := by
      simpa [hne, targets] using hinner
    simpa using DepthFirst.visit hnew hinner' hothers
  | case4 progress v rest seen ih =>
    obtain ⟨e, rfl⟩ := hvia v (by simp)
    have hrec := ih (h.again seen) (by simpa using hroot) fun w hw => hvia w (by simp [hw])
    rw [met_arrive (e := e) (by simp)] at hrec
    by_cases hmet : e.target ∈ met past
    · rw [if_pos hmet] at hrec
      simpa using DepthFirst.skip hmet (by simpa using hrec)
    · -- the root, or no model at all: there is nothing to look for below
      have hnone : (if e.target = root then [] else targets out e.target) = [] := by
        split
        · rfl
        · next hne =>
          rw [targets, hout, List.map_nil]
          by_contra hlt
          refine seen ((h.tracked.fresh_iff _).2 ⟨Nat.not_le.1 hlt, fun hentered => ?_⟩)
          exact hmet (h.met_of_entered hentered hne)
      rw [if_neg hmet] at hrec
      have hinner : DepthFirst (fun n => if n = root then [] else targets out n)
          (met past ++ [e.target]) (if e.target = root then [] else targets out e.target)
          (met past ++ [e.target]) := by
        rw [hnone]
        exact .done _
      simpa using DepthFirst.visit hmet hinner (by simpa using hrec)

end WalkState

section InRange

variable (hout : ∀ n, size ≤ n → out n = [])
include hout

/-- Whoever goes to the ends of the edges of the root in turn, each time to everything below
before going on, finds the models that a walk meets, in the order in which it meets them. -/
theorem walk_meets : DepthFirst (fun n => if n = root then [] else targets out n) []
    (targets out root) (met (walk out size root)) := by
  rcases Nat.lt_or_ge root size with hlt | hge
  · have hfresh : (Array.replicate size Progress.fresh)[root]? = some .fresh := by simp [hlt]
    have hstate : WalkState out size root _ _ _ := .enter .start hfresh
    have hmeets := hstate.meets hout (by simp) fun v hv => by
      simp only [visits, List.mem_append, List.mem_map, List.mem_cons, Task.visit.injEq,
        reduceCtorEq, List.not_mem_nil, or_false] at hv
      obtain ⟨e, -, rfl⟩ := hv
      exact ⟨e, rfl⟩
    rw [hstate.past_append, goals_visits_append, goals_close, goals_nil, List.append_nil] at hmeets
    exact hmeets
  · have hfresh : (Array.replicate size Progress.fresh)[root]? ≠ some .fresh := by simp [hge]
    have hstate : WalkState out size root _ _ _ := .again .start hfresh
    rw [← hstate.eq_walk, targets, hout root hge]
    exact .done []

/-- A walk follows edges to the models that can be reached by at least one edge. -/
lemma mem_targets_walkEdges_iff {n : ModelId} :
    n ∈ (walkEdges out size root).map (·.target) ↔ Relation.TransGen (Leads out) root n := by
  rw [List.mem_map, Relation.TransGen.tail'_iff]
  constructor
  · rintro ⟨e, he, rfl⟩
    obtain ⟨m, hm, he⟩ := List.mem_flatMap.1 (walkEdges_perm.subset he)
    exact ⟨m, ((mem_walkOrder_iff_of_lt hout).1 hm).1, e, he, rfl⟩
  · rintro ⟨m, hm, e, he, rfl⟩
    have hlt : m < size := by
      by_contra hge
      simp [hout m (Nat.not_lt.1 hge)] at he
    have hmem := (mem_walkOrder_iff_of_lt hout).2 ⟨hm, hlt⟩
    exact ⟨e, walkEdges_perm.symm.subset (List.mem_flatMap.2 ⟨m, hmem, he⟩), rfl⟩

lemma mem_met_walk_iff {n : ModelId} :
    n ∈ met (walk out size root) ↔ Relation.TransGen (Leads out) root n := by
  rw [met, List.mem_eraseDups, ← walkEdges_eq_arrivals, mem_targets_walkEdges_iff hout]

end InRange

end Modelsmith
