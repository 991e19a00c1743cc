/-
# Splitting in place

Splitting can be done on the way: whenever the walk comes to a slot that is to be cut, the slot
gets its reference at once, and the walk goes on through the schema as it is by then.  This
makes no difference.  The walk reads the slots of a model when it enters the model, and no slot
of a model is cut before; so it is the walk through the schema as it was in the beginning.  The
models that become independent are found in depth-first order.
-/
import Modelsmith.Proofs.Split.Several
import Modelsmith.Proofs.Walk.Meeting

namespace Modelsmith

lemma Shape.setSlot_mapSlots {ι ρ : Type} {f : Nat → ModelId → ModelId} (shape : Shape ι ρ)
    (i : Nat) (id : ModelId) : (shape.mapSlots f).setSlot i id =
      shape.mapSlots fun j old => if j = i then id else f j old := by
  cases shape <;> simp [setSlot, mapSlots, Function.comp_def]

namespace Schema

variable {s s' : Schema} {policy : SplitPolicy} {root id : ModelId} {cuts : List Edge} {e : Edge}

/-- Schemas with the same models are equal. -/
lemma ext_model (hsize : s.size = s'.size) (hmodel : ∀ id < s.size, s.model id = s'.model id) :
    s = s' := by
  obtain ⟨models⟩ := s
  obtain ⟨models'⟩ := s'
  have hmodels : models = models' := by
    apply Array.ext hsize
    intro id hid hid'
    simpa [model, hid, hid'] using hmodel id hid
  rw [hmodels]

/-! ## One slot -/

/-- Put a new reference into the slot where an edge starts, to the model where it ends. -/
def cutSlot (s : Schema) (e : Edge) : Schema :=
  (s.insert (s.referenceTo (s.model e.target).name e.target)).modify e.source fun m =>
    { m with shape := m.shape.setSlot (slotNumber e) s.size }

lemma size_cutSlot : (s.cutSlot e).size = s.size + 1 := by
  simp [cutSlot, insert, modify, size]

lemma model_cutSlot_source (h : e.source < s.size) : (s.cutSlot e).model e.source =
    { s.model e.source with
      shape := (s.model e.source).shape.setSlot (slotNumber e) s.size } := by
  have hlt : e.source < s.models.size := h
  simp [cutSlot, insert, modify, model, Array.getElem?_modify, Array.getElem?_push,
    Nat.ne_of_lt hlt, hlt]

lemma model_cutSlot_of_ne (h : id < s.size) (hne : id ≠ e.source) :
    (s.cutSlot e).model id = s.model id := by
  have hlt : id < s.models.size := h
  simp [cutSlot, insert, modify, model, Array.getElem?_modify, Array.getElem?_push,
    Nat.ne_of_lt hlt, Ne.symm hne]

lemma model_cutSlot_size (h : e.source < s.size) :
    (s.cutSlot e).model s.size = s.referenceTo (s.model e.target).name e.target := by
  have hlt : e.source < s.models.size := h
  simp [cutSlot, insert, modify, model, size, Array.getElem_modify, Nat.ne_of_lt hlt]

/-! ## Several slots -/

/-- The schema with a new reference in the slot of every cut. -/
def cutSlots (s : Schema) (cuts : List Edge) : Schema :=
  ⟨s.models.mapIdx (fun id m => { m with shape := m.shape.mapSlots (s.slotAfter cuts id) }) ++
    (cuts.map fun e => s.referenceTo (s.model e.target).name e.target).toArray⟩

lemma size_cutSlots : (s.cutSlots cuts).size = s.size + cuts.length := by
  simp [cutSlots, size]

lemma model_cutSlots_of_lt (h : id < s.size) : (s.cutSlots cuts).model id =
    { s.model id with shape := (s.model id).shape.mapSlots (s.slotAfter cuts id) } := by
  have hlt : id < s.models.size := h
  simp [cutSlots, model, Array.getElem?_append, hlt]

lemma model_cutSlots_add {k : Nat} (h : cuts[k]? = some e) :
    (s.cutSlots cuts).model (s.size + k) =
      s.referenceTo (s.model e.target).name e.target := by
  simp [cutSlots, model, size, Array.getElem?_append_right, h]

lemma cutSlots_nil : s.cutSlots [] = s := by
  refine ext_model (by simp [size_cutSlots]) fun id hid => ?_
  rw [size_cutSlots, List.length_nil, Nat.add_zero] at hid
  have hkept : s.slotAfter [] id = fun _ old => old := rfl
  rw [model_cutSlots_of_lt hid, hkept, Shape.mapSlots_self]

/-- A policy applies to the same models before and after cuts. -/
lemma applies_cutSlots : policy.applies ((s.cutSlots cuts).model id).variant =
    policy.applies (s.model id).variant := by
  rcases Nat.lt_or_ge id s.size with hlt | hge
  · rw [Model.variant, model_cutSlots_of_lt hlt, Shape.variant_mapSlots, Model.variant]
  · rw [model_of_le hge]
    rcases Nat.lt_or_ge (id - s.size) cuts.length with hk | hk
    · have hmodel := model_cutSlots_add (s := s) (List.getElem?_eq_getElem hk)
      rw [Nat.add_sub_of_le hge] at hmodel
      rw [hmodel]
      rfl
    · rw [model_of_le (by rw [size_cutSlots]; omega)]

/-- A model none of whose slots is cut has the edges that it had. -/
lemma slotEdges_cutSlots (h : id < s.size) (hcuts : ∀ e ∈ cuts, e.source ≠ id) :
    (s.cutSlots cuts).slotEdges id = s.slotEdges id := by
  have hkept : s.slotAfter cuts id = fun _ old => old := by
    funext i old
    have hnone : (cuts.findIdx? fun e => e.source = id ∧ e.link = .slot i) = none :=
      List.findIdx?_eq_none_iff.2 fun e he => by simp [hcuts e he]
    rw [slotAfter, hnone]
  rw [slotEdges, model_cutSlots_of_lt h, hkept, Shape.mapSlots_self, slotEdges]

/-- What a slot holds after one more cut. -/
lemma slotAfter_append (hnew : ∀ e' ∈ cuts, ¬ (e'.source = e.source ∧ e'.link = e.link))
    (id : ModelId) (i : Nat) (old : ModelId) : s.slotAfter (cuts ++ [e]) id i old =
      if e.source = id ∧ e.link = .slot i then s.size + cuts.length
      else s.slotAfter cuts id i old := by
  rw [slotAfter, List.findIdx?_append]
  by_cases hsame : e.source = id ∧ e.link = .slot i
  · obtain ⟨rfl, hlink⟩ := hsame
    have hnone : (cuts.findIdx? fun e' => e'.source = e.source ∧ e'.link = .slot i) = none :=
      List.findIdx?_eq_none_iff.2 fun e' he' => by simpa [hlink] using hnew e' he'
    rw [hnone]
    simp [hlink, List.findIdx?_cons]
  · rw [if_neg hsame, slotAfter]
    cases cuts.findIdx? fun e => e.source = id ∧ e.link = .slot i <;>
      simp [List.findIdx?_cons, hsame]

/-- Cutting the slots one after another is cutting them all at once. -/
lemma cutSlots_append {i : Nat} (hlink : e.link = .slot i) (hsource : e.source < s.size)
    (htarget : e.target < s.size)
    (hnew : ∀ e' ∈ cuts, ¬ (e'.source = e.source ∧ e'.link = e.link)) :
    s.cutSlots (cuts ++ [e]) = (s.cutSlots cuts).cutSlot e := by
  have hle : s.size ≤ (s.cutSlots cuts).size := by
    rw [size_cutSlots]
    exact Nat.le_add_right _ _
  have hsource' := Nat.lt_of_lt_of_le hsource hle
  refine ext_model (by simp [size_cutSlot, size_cutSlots, Nat.add_assoc]) fun id hid => ?_
  rcases Nat.lt_or_ge id s.size with hlt | hge
  · rw [model_cutSlots_of_lt hlt]
    by_cases hid' : id = e.source
    · subst hid'
      have hslots : s.slotAfter (cuts ++ [e]) e.source = fun j old =>
          if j = i then s.size + cuts.length else s.slotAfter cuts e.source j old := by
        funext j old
        simp [slotAfter_append hnew, hlink, eq_comm]
      rw [model_cutSlot_source hsource', model_cutSlots_of_lt hlt, Shape.setSlot_mapSlots,
        size_cutSlots, slotNumber_eq hlink, hslots]
    · have hkept : s.slotAfter (cuts ++ [e]) id = s.slotAfter cuts id := by
        funext j old
        simp [slotAfter_append hnew, Ne.symm hid']
      rw [model_cutSlot_of_ne (Nat.lt_of_lt_of_le hlt hle) hid', model_cutSlots_of_lt hlt, hkept]
  · obtain ⟨k, rfl⟩ := Nat.exists_eq_add_of_le hge
    rw [size_cutSlots, Nat.add_lt_add_iff_left, List.length_append, List.length_singleton] at hid
    rcases Nat.lt_succ_iff_lt_or_eq.1 hid with hk | rfl
    · have hold := List.getElem?_eq_getElem hk
      have hne : s.size + k ≠ e.source :=
        Nat.ne_of_gt (Nat.lt_of_lt_of_le hsource (Nat.le_add_right _ _))
      rw [model_cutSlot_of_ne (by rw [size_cutSlots]; exact Nat.add_lt_add_left hk _) hne,
        model_cutSlots_add hold,
        model_cutSlots_add (by rw [List.getElem?_append_left hk]; exact hold)]
    · -- the new reference says of its target what the target says, cut or not
      rw [model_cutSlots_add (e := e) (by simp), ← size_cutSlots, model_cutSlot_size hsource',
        referenceTo, referenceTo, model_cutSlots_of_lt htarget]

/-! ## The walk that cuts on its way -/

/-- What happens at a slot on the way: if the policy applies to what it holds, the slot is cut,
and the model becomes independent unless it is already. -/
def meetSlot (policy : SplitPolicy) (acc : Schema × List ModelId) (e : Edge) :
    Schema × List ModelId :=
  if policy.applies (acc.1.model e.target).variant then
    (acc.1.cutSlot e, if e.target ∈ acc.2 then acc.2 else acc.2 ++ [e.target])
  else acc

/-- The schema and the independent models after a walk that cuts on its way.  The slots of a
model are read from the schema as it is when the walk enters the model. -/
def splitWalk (policy : SplitPolicy) (acc : Schema × List ModelId) (progress : Array Progress)
    (tasks : List Task) : Schema × List ModelId :=
  match tasks with
  | [] => acc
  | .close v :: rest => splitWalk policy acc (progress.setIfInBounds v.node .done) rest
  | .visit v :: rest =>
    let acc := v.via.elim acc (meetSlot policy acc)
    if progress[v.node]? = some .fresh then
      splitWalk policy acc (progress.setIfInBounds v.node .inside)
        (visits (acc.1.slotEdges v.node) ++ .close v :: rest)
    else splitWalk policy acc progress rest
termination_by (progress.count .fresh, tasks.length)
decreasing_by
  all_goals simp_wf
  · rcases Nat.lt_or_eq_of_le (count_fresh_leave progress v.node) with h | h
    · exact Prod.Lex.left _ _ h
    · rw [h]
      exact Prod.Lex.right _ (by simp)
  · rename_i h
    exact Prod.Lex.left _ _ (count_fresh_enter h)
  · exact Prod.Lex.right _ (by simp)

/-- Split from `root` on the way: the schema that is left, and the independent models. -/
def splitInPlace (s : Schema) (policy : SplitPolicy) (root : ModelId) :
    Schema × List ModelId :=
  splitWalk policy (s, [root]) (Array.replicate s.size .fresh) [.visit ⟨root, none⟩]

/-- The slots that a list of events comes to and that are to be cut, in order. -/
def cutsIn (s : Schema) (policy : SplitPolicy) (events : List Event) : List Edge :=
  (arrivals events).filter fun e => policy.applies (s.model e.target).variant

/-- What the walk should have made of a schema after some of its events. -/
def splitAfter (s : Schema) (policy : SplitPolicy) (root : ModelId) (events : List Event) :
    Schema × List ModelId :=
  (s.cutSlots (s.cutsIn policy events),
    (root :: (s.cutsIn policy events).map (·.target)).eraseDups)

lemma splitAfter_congr {events events' : List Event} (h : arrivals events = arrivals events') :
    s.splitAfter policy root events = s.splitAfter policy root events' := by
  rw [splitAfter, splitAfter, cutsIn, cutsIn, h]

section Walk

variable {past : List Event} {progress : Array Progress} {v : Visit} {tasks rest : List Task}

/-- The edges of a walk, followed or still to be followed, are slots of entered models. -/
lemma slot_of_followed (h : WalkState s.slotEdges s.size root past progress tasks)
    (he : e ∈ arrivals past ++ pendingEdges tasks) :
    e.source ∈ entered past ∧ e ∈ s.slotEdges e.source := by
  obtain ⟨n, hn, he⟩ := List.mem_flatMap.1 (h.arrivals_perm.subset he)
  obtain rfl := s.slotEdges_source n e he
  exact ⟨hn, he⟩

/-- A slot that the walk comes to has not been cut before. -/
lemma notMem_cutsIn (h : WalkState s.slotEdges s.size root past progress (.visit e.visit :: rest)) :
    ∀ e' ∈ s.cutsIn policy past, ¬ (e'.source = e.source ∧ e'.link = e.link) := by
  rintro e' he' ⟨hsource, hlink⟩
  have hmem : e' ∈ arrivals past := (List.mem_filter.1 he').1
  have hslot := (slot_of_followed h (List.mem_append_left _ hmem)).2
  have hslot' := (slot_of_followed h (e := e) (by simp)).2
  rw [hsource] at hslot
  obtain rfl := slotEdge_unique hslot hslot' hlink
  have hnodup := h.followed_nodup s.slotEdges_source fun n =>
    nodup_mapIdx_edge (fun i j hij => by simpa using hij) _
  exact (List.nodup_append.1 hnodup).2.2 _ hmem _ (by simp) rfl

/-- At a slot that the walk comes to, the cut of this slot is added. -/
lemma meetSlot_splitAfter
    (h : WalkState s.slotEdges s.size root past progress (.visit e.visit :: rest))
    {event : Event} (hevent : arrivals [event] = [e]) :
    meetSlot policy (s.splitAfter policy root past) e =
      s.splitAfter policy root (past ++ [event]) := by
  have hcuts : s.cutsIn policy (past ++ [event]) =
      s.cutsIn policy past ++ [e].filter fun e => policy.applies (s.model e.target).variant := by
    rw [cutsIn, arrivals_append, hevent, List.filter_append, cutsIn]
  have happlies : policy.applies ((s.splitAfter policy root past).1.model e.target).variant =
      policy.applies (s.model e.target).variant := applies_cutSlots
  rw [meetSlot, happlies, splitAfter, splitAfter, hcuts]
  by_cases hcut : policy.applies (s.model e.target).variant = true
  · obtain ⟨hentered, hslot⟩ := slot_of_followed h (e := e) (by simp)
    obtain ⟨-, i, hlink, -⟩ := mem_slotEdges.1 hslot
    rw [if_pos hcut, List.filter_singleton, hcut, cond_true,
      cutSlots_append hlink (h.tracked.entered_lt _ hentered) (lt_size_of_applies hcut)
        (notMem_cutsIn h), List.map_append, List.map_singleton, ← List.cons_append,
      eraseDups_concat]
    simp only [List.mem_eraseDups]
  · simp [hcut]

/-- Whatever the walk arrives by, the cuts so far are made. -/
lemma arrive_splitAfter (h : WalkState s.slotEdges s.size root past progress (.visit v :: rest))
    {event : Event} (hevent : arrivals [event] = v.via.toList) :
    v.via.elim (s.splitAfter policy root past)
        (meetSlot policy (s.splitAfter policy root past)) =
      s.splitAfter policy root (past ++ [event]) := by
  rcases h.due with ⟨-, rfl⟩ | ⟨u, opens, e, -, -, -, rfl⟩
  · exact splitAfter_congr (by simp [hevent])
  · exact meetSlot_splitAfter h hevent

/-- When the walk enters a model, no slot of the model has been cut. -/
lemma slotEdges_splitAfter
    (h : WalkState s.slotEdges s.size root past progress (.visit v :: rest))
    (fresh : progress[v.node]? = some .fresh) :
    (s.splitAfter policy root (past ++ [.enter v])).1.slotEdges v.node = s.slotEdges v.node := by
  obtain ⟨hlt, hnotEntered⟩ := (h.tracked.fresh_iff _).1 fresh
  refine slotEdges_cutSlots hlt fun e he hsource => ?_
  have hmem : e ∈ arrivals past ++ pendingEdges (.visit v :: rest) := by
    have harrival := (List.mem_filter.1 he).1
    rw [arrivals_append, arrivals_enter] at harrival
    rw [pendingEdges_visit, ← List.append_assoc]
    exact List.mem_append_left _ harrival
  exact hnotEntered (hsource ▸ (slot_of_followed h hmem).1)

/-- From every state, the walk that cuts on its way makes the cuts of the walk through the
schema of before. -/
lemma splitWalk_eq (h : WalkState s.slotEdges s.size root past progress tasks) :
    splitWalk policy (s.splitAfter policy root past) progress tasks =
      s.splitAfter policy root (past ++ walkFrom s.slotEdges progress tasks) := by
  fun_induction walkFrom s.slotEdges progress tasks generalizing past with
  | case1 progress => rw [splitWalk, List.append_nil]
  | case2 progress v rest ih =>
    have hsame : s.splitAfter policy root (past ++ [.leave v]) = s.splitAfter policy root past :=
      splitAfter_congr (by simp)
    rw [splitWalk, ← hsame, ih h.leave, List.append_assoc, List.singleton_append]
  | case3 progress v rest fresh ih =>
    have hrec := ih (h.enter fresh)
    rw [splitWalk, if_pos fresh, arrive_splitAfter h (arrivals_enter v),
      slotEdges_splitAfter h fresh]
    rw [List.append_assoc, List.singleton_append] at hrec
    exact hrec
  | case4 progress v rest seen ih =>
    have hrec := ih (h.again seen)
    rw [splitWalk, if_neg seen, arrive_splitAfter h (arrivals_again v _), hrec, List.append_assoc,
      List.singleton_append]

end Walk

/-- Splitting in place is splitting. -/
theorem splitInPlace_eq (s : Schema) (policy : SplitPolicy) (root : ModelId) :
    s.splitInPlace policy root = (s.split policy root, s.independent policy root) := by
  have hstart : s.splitAfter policy root [] = (s, [root]) := by
    rw [splitAfter, cutsIn, arrivals_nil, List.filter_nil, cutSlots_nil]
    rfl
  rw [splitInPlace, ← hstart, splitWalk_eq .start]
  rfl

/-! ## The order of the independent models -/

/-- The independent models, after the root, are those that a depth-first search finds and to
which the policy applies. -/
lemma independent_eq_filter (s : Schema) (policy : SplitPolicy) (root : ModelId) :
    s.independent policy root = root ::
      ((met (walk s.slotEdges s.size root)).filter (· ≠ root)).filter
        fun id => policy.applies (s.model id).variant := by
  have htargets : (s.cuts policy root).map (·.target) =
      ((walkEdges s.slotEdges s.size root).map (·.target)).filter
        fun id => policy.applies (s.model id).variant := by
    rw [cuts, List.filter_map]
    rfl
  have hother : (fun id => !id == root) = fun id : ModelId => decide (id ≠ root) := by
    funext id
    simp [beq_eq_decide]
  rw [independent, htargets, List.eraseDups_cons, eraseDups_filter, eraseDups_filter, hother,
    walkEdges_eq_arrivals, List.filter_comm]
  rfl

/-- Splitting, in place or not, makes independent the root and the models that the root reaches
through slots and to which the policy applies, each once and in the order in which a
depth-first search along the slots finds them. -/
theorem independent_depthFirst (s : Schema) (policy : SplitPolicy) (root : ModelId) :
    s.splitInPlace policy root = (s.split policy root, s.independent policy root) ∧
      (s.independent policy root).Nodup ∧
      (∀ id, id ∈ s.independent policy root ↔ id = root ∨
        (policy.applies (s.model id).variant = true ∧ Reaches s.slotEdges root id)) ∧
      ∃ found, DepthFirst (fun id => (s.model id).shape.slots) [] [root] (root :: found) ∧
        s.independent policy root =
          root :: found.filter fun id => policy.applies (s.model id).variant := by
  have hnext : targets s.slotEdges = fun id => (s.model id).shape.slots := by
    funext id
    apply List.ext_getElem <;> simp [targets, slotEdges, Modelsmith.slotEdges]
  have hmeets : DepthFirst _ [] _ (met (walk s.slotEdges s.size root)) :=
    walk_meets fun _ => s.slotEdges_of_le
  refine ⟨s.splitInPlace_eq policy root, nodup_eraseDups _, fun id => mem_independent_iff, _, ?_,
    s.independent_eq_filter policy root⟩
  rw [← hnext]
  exact .visit (by simp) hmeets.of_beyond (.done _)

end Schema

end Modelsmith
