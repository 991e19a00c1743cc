/-
# The order of a depth-first walk

A walk enters exactly the models that are reachable from its root, each once and in
depth-first order, and it follows every edge that leaves one of them exactly once.
Depth-first order is described by the relation `DepthFirst`, which recurs on the models to go
to and knows nothing of tasks and progress.
-/
import Modelsmith.Proofs.Walk.State

namespace Modelsmith

/-- Whether an edge leads from one model to another. -/
def Leads (out : ModelId → List Edge) (a b : ModelId) : Prop := ∃ e ∈ out a, e.target = b

/-- Whether a chain of edges leads from one model to another. -/
def Reaches (out : ModelId → List Edge) : ModelId → ModelId → Prop :=
  Relation.ReflTransGen (Leads out)

/-- Depth-first search: `DepthFirst next seen todo found` says that whoever has found the
models `seen` and goes to the models `todo` in turn, each time to everything below before
going on, has found the models `found` in the end, in the order of finding them. -/
inductive DepthFirst (next : ModelId → List ModelId) :
    List ModelId → List ModelId → List ModelId → Prop
  | done (seen : List ModelId) : DepthFirst next seen [] seen
  /-- A model that has been found is passed over. -/
  | skip {n : ModelId} {seen todo found : List ModelId} (old : n ∈ seen)
      (others : DepthFirst next seen todo found) : DepthFirst next seen (n :: todo) found
  /-- A new model is found, then the models below it. -/
  | visit {n : ModelId} {seen todo below found : List ModelId} (new : n ∉ seen)
      (inner : DepthFirst next (seen ++ [n]) (next n) below)
      (others : DepthFirst next below todo found) : DepthFirst next seen (n :: todo) found

namespace DepthFirst

variable {next : ModelId → List ModelId} {seen todo found : List ModelId}

lemma of_append {first last : List ModelId} (h : DepthFirst next seen (first ++ last) found) :
    ∃ between, DepthFirst next seen first between ∧ DepthFirst next between last found := by
  generalize htodo : first ++ last = todo at h
  induction h generalizing first with
  | done seen =>
    obtain ⟨rfl, rfl⟩ := List.append_eq_nil_iff.1 htodo
    exact ⟨seen, .done seen, .done seen⟩
  | @skip n seen todo found old others ih =>
    cases first with
    | nil =>
      simp only [List.nil_append] at htodo
      exact ⟨seen, .done seen, htodo ▸ .skip old others⟩
    | cons m first =>
      simp only [List.cons_append, List.cons.injEq] at htodo
      obtain ⟨rfl, htodo⟩ := htodo
      obtain ⟨between, hfirst, hlast⟩ := ih htodo
      exact ⟨between, .skip old hfirst, hlast⟩
  | @visit n seen todo below found new inner others _ ih =>
    cases first with
    | nil =>
      simp only [List.nil_append] at htodo
      exact ⟨seen, .done seen, htodo ▸ .visit new inner others⟩
    | cons m first =>
      simp only [List.cons_append, List.cons.injEq] at htodo
      obtain ⟨rfl, htodo⟩ := htodo
      obtain ⟨between, hfirst, hlast⟩ := ih htodo
      exact ⟨between, .visit new inner hfirst, hlast⟩

lemma seen_prefix (h : DepthFirst next seen todo found) : seen <+: found := by
  induction h with
  | done seen => exact List.prefix_rfl
  | skip _ _ ih => exact ih
  | visit _ _ _ ihInner ihOthers =>
    exact ((List.prefix_append _ _).trans ihInner).trans ihOthers

end DepthFirst

variable {out : ModelId → List Edge} {size : Nat} {root : ModelId}

namespace WalkState

variable {past : List Event} {progress : Array Progress} {v : Visit} {tasks rest : List Task}

/-- The walk enters only models that can be reached. -/
lemma reaches_of_enter (h : WalkState out size root past progress tasks)
    (hv : .enter v ∈ past) : Reaches out root v.node := by
  induction h generalizing v with
  | start => simp at hv
  | leave _ ih => exact ih (by simpa using hv)
  | @enter past progress u rest before fresh ih =>
    simp only [List.mem_append, List.mem_singleton, Event.enter.injEq] at hv
    rcases hv with hv | rfl
    · exact ih hv
    · rcases before.due with ⟨-, rfl⟩ | ⟨w, opens, e, -, hw, he, rfl⟩
      · exact .refl
      · exact (ih hw).tail ⟨e, he, rfl⟩
  | again _ _ ih => exact ih (by simpa using hv)

/-- A visit that is due goes to a model that can be reached. -/
lemma reaches_of_due (h : WalkState out size root past progress (.visit v :: rest)) :
    Reaches out root v.node := by
  rcases h.due with ⟨-, rfl⟩ | ⟨w, opens, e, -, hw, he, rfl⟩
  · exact .refl
  · exact (h.reaches_of_enter hw).tail ⟨e, he, rfl⟩

/-- Whatever arrives by an edge arrives at its end, and the edge leaves an entered model. -/
lemma arrival_edge (h : WalkState out size root past progress tasks) {event : Event} {e : Edge}
    (hevent : event ∈ past) (hv : event.arrival? = some v) (he : v.via = some e) :
    v = e.visit ∧ ∃ n ∈ entered past, e ∈ out n := by
  have hdue : ∀ {past progress rest}, WalkState out size root past progress (.visit v :: rest) →
      v = e.visit ∧ ∃ n ∈ entered past, e ∈ out n := by
    intro past progress rest before
    rcases before.due with ⟨-, rfl⟩ | ⟨w, opens, e', -, hw, he', rfl⟩
    · simp at he
    · obtain rfl : e' = e := by simpa using he
      exact ⟨rfl, w.node, mem_entered.2 ⟨w, hw, rfl⟩, he'⟩
  induction h with
  | start => simp at hevent
  | @leave past progress u rest before ih =>
    simp only [List.mem_append, List.mem_singleton] at hevent
    rcases hevent with hevent | rfl
    · simpa using ih hevent
    · simp [Event.arrival?] at hv
  | @enter past progress u rest before fresh ih =>
    simp only [List.mem_append, List.mem_singleton] at hevent
    rcases hevent with hevent | rfl
    · obtain ⟨hvisit, n, hn, hen⟩ := ih hevent
      exact ⟨hvisit, n, by simp [hn], hen⟩
    · obtain rfl : u = v := by simpa [Event.arrival?] using hv
      obtain ⟨hvisit, n, hn, hen⟩ := hdue before
      exact ⟨hvisit, n, by simp [hn], hen⟩
  | @again past progress u rest before seen ih =>
    simp only [List.mem_append, List.mem_singleton] at hevent
    rcases hevent with hevent | rfl
    · simpa using ih hevent
    · obtain rfl : u = v := by simpa [Event.arrival?] using hv
      simpa using hdue before

/-- A walk that comes to a model again and is still inside of it comes there by an edge. -/
lemma again_open (h : WalkState out size root past progress tasks) (hv : .again v true ∈ past) :
    v.node < size ∧ ∃ n, ∃ e ∈ out n, v = e.visit := by
  induction h with
  | start => simp at hv
  | leave _ ih => exact ih (by simpa using hv)
  | enter _ _ ih => exact ih (by simpa using hv)
  | @again past progress u rest before seen ih =>
    simp only [List.mem_append, List.mem_singleton, Event.again.injEq] at hv
    rcases hv with hv | ⟨rfl, hopen⟩
    · exact ih hv
    · have hinside : progress[v.node]? = some .inside := beq_iff_eq.1 hopen.symm
      refine ⟨before.tracked.size_eq ▸ (Array.getElem?_eq_some_iff.1 hinside).1, ?_⟩
      rcases before.due with ⟨hnone, -⟩ | ⟨w, opens, e, -, -, he, hvisit⟩
      · obtain ⟨w, hw, -⟩ := (before.tracked.inside_iff _).1 hinside
        rw [openVisits_visit, hnone] at hw
        simp at hw
      · exact ⟨w.node, e, he, hvisit⟩

/-- From every state the walk searches depth-first through the models that it has to go to. -/
lemma depthFirst (h : WalkState out size root past progress tasks)
    (hrange : ∀ n, Reaches out root n → n < size) :
    DepthFirst (fun n => (out n).map (·.target)) (entered past) (goals tasks)
      (entered (past ++ walkFrom out progress tasks)) := by
  fun_induction walkFrom out progress tasks generalizing past with
  | case1 progress => simpa using DepthFirst.done (entered past)
  | case2 progress v rest ih => simpa using ih h.leave
  | case3 progress v rest fresh ih =>
    have hnew : v.node ∉ entered past := ((h.tracked.fresh_iff _).1 fresh).2
    have hrec : DepthFirst (fun n => (out n).map (·.target)) (entered (past ++ [.enter v]))
        (goals (visits (out v.node) ++ .close v :: rest)) _ := ih (h.enter fresh)
    -- the tasks on top are those below the model, so that the search splits after them
    rw [goals_visits_append, goals_close, entered_append, entered_enter] at hrec
    obtain ⟨below, hinner, hothers⟩ := hrec.of_append
    simpa using DepthFirst.visit hnew hinner hothers
  | case4 progress v rest seen ih =>
    -- a model that is neither fresh nor entered would be out of range
    have hold : v.node ∈ entered past := by
      by_contra hnew
      exact seen ((h.tracked.fresh_iff _).2 ⟨hrange _ h.reaches_of_due, hnew⟩)
    have hrec := ih (h.again seen)
    simpa using DepthFirst.skip hold (by simpa using hrec)

end WalkState

/-! ## The whole walk -/

lemma walkOrder_eq_entered : walkOrder out size root = entered (walk out size root) := rfl

lemma walkEdges_eq_arrivals : walkEdges out size root = arrivals (walk out size root) := rfl

/-- A walk enters no model twice. -/
theorem walkOrder_nodup : (walkOrder out size root).Nodup :=
  let ⟨_, h⟩ := walkState_walk out size root
  h.entered_nodup

lemma lt_size_of_mem_walkOrder {n : ModelId} (hn : n ∈ walkOrder out size root) : n < size :=
  let ⟨_, h⟩ := walkState_walk out size root
  h.tracked.entered_lt n hn

/-- A walk follows every edge that leaves an entered model once, and no other edge. -/
theorem walkEdges_perm :
    (walkEdges out size root).Perm ((walkOrder out size root).flatMap out) := by
  obtain ⟨progress, h⟩ := walkState_walk out size root
  rw [walkEdges_eq_arrivals, walkOrder_eq_entered]
  simpa using h.arrivals_perm

/-- A walk arrives at the end of every edge that leaves an entered model. -/
lemma exists_arrival {n : ModelId} {e : Edge} (hn : n ∈ walkOrder out size root)
    (he : e ∈ out n) : ∃ event ∈ walk out size root, event.arrival? = some e.visit := by
  obtain ⟨progress, h⟩ := walkState_walk out size root
  have hmem : e ∈ arrivals (walk out size root) :=
    walkEdges_perm.symm.subset (List.mem_flatMap.2 ⟨n, hn, he⟩)
  obtain ⟨event, hevent, hedge⟩ := mem_arrivals.1 hmem
  obtain ⟨v, hv, hvia⟩ := Option.bind_eq_some_iff.1 hedge
  obtain ⟨rfl, -⟩ := h.arrival_edge hevent hv hvia
  exact ⟨event, hevent, hv⟩

/-- An edge that leaves an entered model leads to an entered model, or to none at all. -/
lemma walkOrder_closed {n : ModelId} {e : Edge} (hn : n ∈ walkOrder out size root)
    (he : e ∈ out n) : e.target ∈ walkOrder out size root ∨ size ≤ e.target := by
  obtain ⟨progress, h⟩ := walkState_walk out size root
  obtain ⟨event, hevent, hv⟩ := exists_arrival hn he
  exact h.arrived hevent hv

/-- A walk enters its root first if there is such a model. -/
lemma walkOrder_eq_cons_of_lt (out : ModelId → List Edge) (hroot : root < size) :
    ∃ rest, walkOrder out size root = root :: rest := by
  rw [walkOrder, walk, walkFrom, if_pos (by simp [hroot])]
  simp [Event.entered?]

/-- If edges leave only models in range, a walk enters exactly the models in range that can be
reached. -/
lemma mem_walkOrder_iff_of_lt (hout : ∀ n, size ≤ n → out n = []) {n : ModelId} :
    n ∈ walkOrder out size root ↔ Reaches out root n ∧ n < size := by
  constructor
  · intro hn
    obtain ⟨progress, h⟩ := walkState_walk out size root
    obtain ⟨v, hv, rfl⟩ := mem_entered.1 hn
    exact ⟨h.reaches_of_enter hv, lt_size_of_mem_walkOrder hn⟩
  · rintro ⟨hreaches, hlt⟩
    induction hreaches with
    | refl =>
      obtain ⟨rest, hrest⟩ := walkOrder_eq_cons_of_lt out hlt
      simp [hrest]
    | @tail a c _ hlead ih =>
      obtain ⟨e, he, rfl⟩ := hlead
      have ha : a < size := by
        by_contra hge
        simp [hout a (Nat.not_lt.1 hge)] at he
      rcases walkOrder_closed (ih ha) he with hmem | hge
      · exact hmem
      · exact absurd hlt (Nat.not_lt.2 hge)

section InRange

variable (hrange : ∀ n, Reaches out root n → n < size)
include hrange

/-- A walk finds the models below its root depth-first. -/
theorem walkOrder_depthFirst :
    DepthFirst (fun n => (out n).map (·.target)) [] [root] (walkOrder out size root) :=
  WalkState.start.depthFirst hrange

/-- A walk enters its root first. -/
lemma walkOrder_eq_cons : ∃ rest, walkOrder out size root = root :: rest := by
  generalize hfound : walkOrder out size root = found
  have h := hfound ▸ walkOrder_depthFirst hrange
  cases h with
  | skip old => simp at old
  | visit new inner others =>
    obtain ⟨rest, hrest⟩ := inner.seen_prefix.trans others.seen_prefix
    exact ⟨rest, by simpa using hrest.symm⟩

/-- A walk enters exactly the models that can be reached. -/
theorem mem_walkOrder_iff {n : ModelId} :
    n ∈ walkOrder out size root ↔ Reaches out root n := by
  constructor
  · intro hn
    obtain ⟨progress, h⟩ := walkState_walk out size root
    obtain ⟨v, hv, rfl⟩ := mem_entered.1 hn
    exact h.reaches_of_enter hv
  · intro hn
    induction hn with
    | refl =>
      obtain ⟨rest, hrest⟩ := walkOrder_eq_cons hrange
      simp [hrest]
    | @tail a b hroot hlead ih =>
      have hb : b < size := hrange b (hroot.tail hlead)
      obtain ⟨e, he, rfl⟩ := hlead
      rcases walkOrder_closed ih he with hmem | hout
      · exact hmem
      · exact absurd hb (Nat.not_lt.2 hout)

end InRange

end Modelsmith
