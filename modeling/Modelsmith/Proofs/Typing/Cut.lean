/-
# Cut blueprints

Typing changes the shape of a blueprint only where it cuts a cycle.  The cuts are known from
the walk alone, so that the bare blueprint after any part of the walk is a function of the
blueprint before: the part of the `k`-th cut has the number `size + k`, and the links that are
cut lead there.
-/
import Modelsmith.Proofs.Edges
import Modelsmith.Proofs.Typing.Step

namespace Modelsmith

variable {ι ρ : Type}

/-! ## Links of a shape -/

/-- Change the number at every link of a shape. -/
def Shape.relink (f : Link → ModelId → ModelId) : Shape ι ρ → Shape ι ρ
  | .reference target => .reference (f .target target)
  | shape => shape.mapSlots fun i => f (.slot i)

namespace Shape

variable {f : Link → ModelId → ModelId} {shape : Shape ι ρ}

@[simp] lemma variant_relink : (shape.relink f).variant = shape.variant := by
  cases shape <;> rfl

lemma slots_relink : (shape.relink f).slots = shape.slots.mapIdx fun i => f (.slot i) := by
  cases shape with
  | object properties => apply List.ext_getElem <;> simp [relink, mapSlots, slots]
  | tuple positions => apply List.ext_getElem <;> simp [relink, mapSlots, slots]
  | _ => rfl

lemma target?_relink : (shape.relink f).target? = shape.target?.map (f .target) := by
  cases shape <;> rfl

lemma relink_self : shape.relink (fun _ old => old) = shape := by
  cases shape with
  | object properties => exact congrArg object (by apply List.ext_getElem <;> simp)
  | tuple positions => exact congrArg tuple (by apply List.ext_getElem <;> simp)
  | union members => exact congrArg union (by apply List.ext_getElem <;> simp)
  | _ => rfl

lemma relink_congr {g : Link → ModelId → ModelId} (hslot : ∀ i, f (.slot i) = g (.slot i))
    (htarget : f .target = g .target) : shape.relink f = shape.relink g := by
  cases shape <;> simp [relink, mapSlots, hslot, htarget]

end Shape

/-- Leading a link to a part changes the number at this link. -/
lemma Link.lead_relink {f : Link → ModelId → ModelId} {shape : Shape String Member}
    (link : Link) (id : ModelId) (h : link = .target → shape.target?.isSome) :
    link.lead id (shape.relink f) = shape.relink fun l old => if l = link then id else f l old := by
  cases link with
  | slot i =>
    cases shape <;>
      simp [Link.lead, Shape.setSlot, Shape.relink, Shape.mapSlots, Function.comp_def]
  | target =>
    cases shape with
    | reference target => simp [Link.lead, Shape.relink]
    | _ => simp [Shape.target?] at h
  | parent i => exact Shape.relink_congr (by simp) (by simp)

/-! ## Cuts -/

/-- The number of the cut of a link, if it is cut. -/
def cutAt (cuts : List Visit) (source : ModelId) (link : Link) : Option Nat :=
  cuts.findIdx? fun v => v.via.any fun e => e.source = source ∧ e.link = link

namespace Blueprint

/-- Where a link leads to after cuts. -/
def endAfter (b : Blueprint) (cuts : List Visit) (source : ModelId) (link : Link)
    (old : ModelId) : ModelId :=
  match cutAt cuts source link with
  | some k => b.size + k
  | none => old

/-- Visits that can be cut one after another: they follow different edges of the blueprint. -/
structure AreCuts (b : Blueprint) (cuts : List Visit) : Prop where
  nodup : cuts.Nodup
  edge : ∀ v ∈ cuts, v.node < b.size ∧ ∃ e, v = e.visit ∧ e ∈ b.edges e.source

/-- The blueprint `b` with the given cuts. -/
structure IsCut (b : Blueprint) (cuts : List Visit) (b' : Blueprint) : Prop where
  size_eq : b'.size = b.size + cuts.length
  root_eq : b'.root = b.root
  kept : ∀ id < b.size,
    b'.part id = { b.part id with shape := (b.part id).shape.relink (b.endAfter cuts id) }
  stand : ∀ k v, cuts[k]? = some v →
    b'.part (b.size + k) = { b.part v.node with type := "", shape := .any }

variable {b b' : Blueprint} {cuts : List Visit} {v : Visit}

lemma AreCuts.of_append {more : List Visit} (h : b.AreCuts (cuts ++ more)) : b.AreCuts cuts :=
  ⟨(List.nodup_append.1 h.nodup).1, fun v hv => h.edge v (List.mem_append_left _ hv)⟩

/-- The last cut is the only one of its link. -/
lemma AreCuts.cutAt_last {e : Edge} (h : b.AreCuts (cuts ++ [e.visit])) :
    cutAt cuts e.source e.link = none := by
  rw [cutAt, List.findIdx?_eq_none_iff]
  intro w hw
  obtain ⟨-, e', rfl, he'⟩ := h.edge w (by simp [hw])
  obtain ⟨-, e'', heq, he⟩ := h.edge e.visit (by simp)
  obtain rfl := Edge.visit_inj.1 heq
  by_contra hsame
  have hsame' : e'.source = e.source ∧ e'.link = e.link := by simpa using hsame
  rw [hsame'.1] at he'
  obtain rfl : e' = e := edge_unique he' he hsame'.2
  exact (List.nodup_append.1 h.nodup).2.2 _ hw _ (by simp) rfl

lemma IsCut.nil : b.IsCut [] b where
  size_eq := rfl
  root_eq := rfl
  kept id _ := by
    have h : b.endAfter [] id = fun _ old => old := rfl
    rw [h, Shape.relink_self]
  stand := by simp

lemma cutAt_append (e : Edge) (source : ModelId) (link : Link) :
    cutAt (cuts ++ [e.visit]) source link =
      (cutAt cuts source link).or
        (if e.source = source ∧ e.link = link then some cuts.length else none) := by
  rw [cutAt, List.findIdx?_append, ← cutAt]
  by_cases hsame : e.source = source ∧ e.link = link
  · simp [List.findIdx?_cons, hsame]
  · simp [List.findIdx?_cons, hsame]

/-- The links after one more cut. -/
lemma endAfter_append {e : Edge} (hlast : cutAt cuts e.source e.link = none) (source : ModelId)
    (link : Link) (old : ModelId) :
    b.endAfter (cuts ++ [e.visit]) source link old =
      if e.source = source ∧ e.link = link then b.size + cuts.length
      else b.endAfter cuts source link old := by
  rw [endAfter, cutAt_append]
  by_cases hsame : e.source = source ∧ e.link = link
  · obtain ⟨rfl, rfl⟩ := hsame
    simp [hlast]
  · simp [hsame, endAfter]

lemma lt_size_of_mem_edges {id : ModelId} {e : Edge} (he : e ∈ b.edges id) : id < b.size := by
  by_contra hid
  have hpart : b.part id = { name := "", shape := .any, source := 0 } := by
    simp [part, show ¬ id < b.parts.size from hid]
  obtain ⟨-, hend⟩ := mem_edges.1 he
  rw [hpart] at hend
  cases hlink : e.link <;> simp [hlink, Link.end?, Shape.slots, Shape.target?] at hend

/-- One more cut. -/
lemma IsCut.cut (h : b.IsCut cuts b') (hcuts : b.AreCuts (cuts ++ [v])) :
    b.IsCut (cuts ++ [v]) (b'.cut v) := by
  obtain ⟨hnode, e, rfl, he⟩ := hcuts.edge v (by simp)
  have hlast := hcuts.cutAt_last
  have hsize := h.size_eq
  have hsource : e.source < b.size := lt_size_of_mem_edges he
  refine ⟨?_, ?_, fun id hid => ?_, fun k w hk => ?_⟩
  · rw [size_cut, hsize, List.length_append, List.length_singleton, Nat.add_assoc]
  · rw [root_cut, h.root_eq]
  · by_cases hids : id = e.source
    · subst hids
      have htarget : e.link = .target → (b.part e.source).shape.target?.isSome := by
        intro hlink
        obtain ⟨-, hend⟩ := mem_edges.1 he
        rw [hlink] at hend
        exact Option.isSome_iff_exists.2 ⟨_, hend⟩
      have hlink : (fun link old => if link = e.link then b.size + cuts.length
          else b.endAfter cuts e.source link old) = b.endAfter (cuts ++ [e.visit]) e.source := by
        funext link old
        rw [endAfter_append hlast]
        simp [eq_comm]
      rw [part_cut_source (by lia), h.kept _ hid]
      simp only [Link.lead_relink _ _ htarget, hsize, hlink]
    · have hlink : b.endAfter cuts id = b.endAfter (cuts ++ [e.visit]) id := by
        funext link old
        rw [endAfter_append hlast]
        simp [Ne.symm hids]
      rw [part_cut_of_ne (by lia) hids, h.kept _ hid, hlink]
  · -- the new part is the last one
    by_cases hkl : k < cuts.length
    · rw [List.getElem?_append_left hkl] at hk
      rw [part_cut_of_ne (by lia) (by lia), h.stand k w hk]
    · rw [List.getElem?_append_right (Nat.not_lt.1 hkl)] at hk
      obtain ⟨hk', hw⟩ := List.getElem?_eq_some_iff.1 hk
      obtain rfl : k = cuts.length := by
        simp only [List.length_singleton] at hk'
        lia
      obtain rfl : e.visit = w := by simpa using hw
      rw [Edge.visit_node] at hnode
      rw [← hsize, part_cut_size (by lia), h.kept _ hnode, Edge.visit_node]

/-- Further cuts, one after another. -/
lemma IsCut.cutAll (h : b.IsCut cuts b') (more : List Visit) (hcuts : b.AreCuts (cuts ++ more)) :
    b.IsCut (cuts ++ more) (more.foldl Blueprint.cut b') := by
  induction more generalizing cuts b' with
  | nil => simpa using h
  | cons v more ih =>
    have hmore : b.AreCuts ((cuts ++ [v]) ++ more) := by simpa using hcuts
    simpa using ih (h.cut hmore.of_append) hmore

lemma IsCut.size_of_bare (h : b.IsCut cuts b'.bare) : b'.size = b.size + cuts.length := by
  rw [← size_bare, h.size_eq]

lemma IsCut.part_kept (h : b.IsCut cuts b'.bare) {id : ModelId} (hid : id < b.size) :
    (b'.part id).bare =
      { b.part id with shape := (b.part id).shape.relink (b.endAfter cuts id) } := by
  rw [← part_bare, h.kept id hid]

lemma IsCut.shape_kept (h : b.IsCut cuts b'.bare) {id : ModelId} (hid : id < b.size) :
    (b'.part id).shape = (b.part id).shape.relink (b.endAfter cuts id) := by
  rw [← Part.shape_bare, h.part_kept hid]

lemma IsCut.part_stand (h : b.IsCut cuts b'.bare) {k : Nat} (hk : cuts[k]? = some v) :
    (b'.part (b.size + k)).bare = { b.part v.node with type := "", shape := .any } := by
  rw [← part_bare, h.stand k v hk]

/-- Every part is one of before, up to where its links lead, or stands for one. -/
lemma IsCut.part_cases (h : b.IsCut cuts b'.bare) {id : ModelId} (hid : id < b'.size) :
    (id < b.size ∧ (b'.part id).bare =
        { b.part id with shape := (b.part id).shape.relink (b.endAfter cuts id) }) ∨
      ∃ v ∈ cuts, b.size ≤ id ∧
        (b'.part id).bare = { b.part v.node with type := "", shape := .any } := by
  have hsize := h.size_of_bare
  rcases Nat.lt_or_ge id b.size with hlt | hge
  · exact .inl ⟨hlt, h.part_kept hlt⟩
  · have hk : id - b.size < cuts.length := by lia
    have hstand := h.part_stand (List.getElem?_eq_getElem hk)
    rw [Nat.add_sub_of_le hge] at hstand
    exact .inr ⟨_, List.getElem_mem hk, hge, hstand⟩

/-- Cuts change no variant. -/
lemma IsCut.variant_eq (h : b.IsCut cuts b'.bare) {id : ModelId} (hid : id < b.size) :
    (b'.part id).variant = (b.part id).variant := by
  rw [Part.variant, h.shape_kept hid, Shape.variant_relink, Part.variant]

/-- The cut of a link is the visit along its edge. -/
lemma AreCuts.getElem?_of_cutAt (h : b.AreCuts cuts) {e : Edge} (he : e ∈ b.edges e.source)
    {k : Nat} (hk : cutAt cuts e.source e.link = some k) : cuts[k]? = some e.visit := by
  obtain ⟨hlt, hsame, -⟩ := List.findIdx?_eq_some_iff_getElem.1 hk
  obtain ⟨-, e', hvisit, he'⟩ := h.edge cuts[k] (List.getElem_mem hlt)
  rw [hvisit] at hsame
  have hsame' : e'.source = e.source ∧ e'.link = e.link := by simpa using hsame
  rw [hsame'.1] at he'
  obtain rfl : e' = e := edge_unique he' he hsame'.2
  rw [List.getElem?_eq_getElem hlt, hvisit]

/-- An edge leads to the part of its cut if it is cut, and to its old end otherwise. -/
lemma AreCuts.endAfter_cases (h : b.AreCuts cuts) {e : Edge} (he : e ∈ b.edges e.source) :
    (∃ k, cuts[k]? = some e.visit ∧
        b.endAfter cuts e.source e.link e.target = b.size + k) ∨
      (e.visit ∉ cuts ∧ b.endAfter cuts e.source e.link e.target = e.target) := by
  unfold endAfter
  cases hcut : cutAt cuts e.source e.link with
  | some k => exact .inl ⟨k, h.getElem?_of_cutAt he hcut, rfl⟩
  | none =>
    refine .inr ⟨fun hmem => ?_, rfl⟩
    have hnot := List.findIdx?_eq_none_iff.1 hcut e.visit hmem
    simp at hnot

/-- Cutting leads an edge to a part with the same name and source. -/
lemma IsCut.end_eq (h : b.IsCut cuts b'.bare) (hcuts : b.AreCuts cuts) {e : Edge}
    (he : e ∈ b.edges e.source) (htarget : e.target < b.size) :
    b.endAfter cuts e.source e.link e.target < b'.size ∧
      (b'.part (b.endAfter cuts e.source e.link e.target)).name = (b.part e.target).name ∧
      (b'.part (b.endAfter cuts e.source e.link e.target)).source = (b.part e.target).source := by
  have hsize := h.size_of_bare
  rcases hcuts.endAfter_cases he with ⟨k, hk, hend⟩ | ⟨-, hend⟩
  · have hlt : k < cuts.length := (List.getElem?_eq_some_iff.1 hk).1
    have hstand := h.part_stand hk
    rw [hend]
    exact ⟨by lia, by rw [← Part.name_bare, hstand]; rfl, by rw [← Part.source_bare, hstand]; rfl⟩
  · have hkept := h.part_kept htarget
    rw [hend]
    exact ⟨by lia, by rw [← Part.name_bare, hkept], by rw [← Part.source_bare, hkept]⟩

/-- Where an edge leads to after cuts: the list of parents is never changed. -/
def newEnd (b : Blueprint) (cuts : List Visit) (e : Edge) : ModelId :=
  match e.link with
  | .parent _ => e.target
  | link => b.endAfter cuts e.source link e.target

/-- The edges of a part after cuts. -/
lemma IsCut.edges_eq (h : b.IsCut cuts b'.bare) {id : ModelId} (hid : id < b.size) :
    b'.edges id = (b.edges id).map fun e => { e with target := b.newEnd cuts e } := by
  have hparents : (b'.part id).options.parents = (b.part id).options.parents := by
    rw [← Part.parents_bare, h.part_kept hid]
  rw [b'.edges_eq, b.edges_eq, h.shape_kept hid, hparents, allEdges, allEdges, List.map_append,
    List.map_append]
  congr 1
  · congr 1
    · apply List.ext_getElem <;> simp [Modelsmith.slotEdges, Shape.slots_relink, newEnd]
    · cases htarget : (b.part id).shape.target? <;>
        simp [targetEdges, Shape.target?_relink, htarget, newEnd]
  · apply List.ext_getElem <;> simp [parentEdges, newEnd]

/-- Cutting leads the edges of a part to parts. -/
lemma IsCut.newEnd_lt (h : b.IsCut cuts b'.bare) (hcuts : b.AreCuts cuts) {e : Edge}
    (he : e ∈ b.edges e.source) (htarget : e.target < b.size) : b.newEnd cuts e < b'.size := by
  have hsize := h.size_of_bare
  unfold newEnd
  split
  · lia
  · exact (h.end_eq hcuts he htarget).1

/-! ## The cuts of a walk -/

/-- The visit that typing cuts at an event. -/
def cut? (table : TypeTable) (b : Blueprint) : Event → Option Visit
  | .again v true => if table.isSafe (b.part v.node).variant then none else some v
  | _ => none

/-- The visits that typing cuts. -/
def cutsOf (table : TypeTable) (b : Blueprint) (events : List Event) : List Visit :=
  events.filterMap (b.cut? table)

variable {table : TypeTable} {rules : NamingRules} {root : ModelId} {past : List Event}
  {progress : Array Progress} {tasks : List Task}

lemma mem_cutsOf {events : List Event} :
    v ∈ b.cutsOf table events ↔
      .again v true ∈ events ∧ table.isSafe (b.part v.node).variant = false := by
  simp only [cutsOf, List.mem_filterMap]
  constructor
  · rintro ⟨event, hevent, hcut⟩
    unfold cut? at hcut
    split at hcut
    · next w =>
      split at hcut
      · simp at hcut
      · next hother =>
        obtain rfl : w = v := by simpa using hcut
        exact ⟨hevent, by simpa using hother⟩
    · simp at hcut
  · rintro ⟨hevent, hother⟩
    exact ⟨_, hevent, by simp [cut?, hother]⟩

lemma cutsOf_append (events events' : List Event) :
    b.cutsOf table (events ++ events') = b.cutsOf table events ++ b.cutsOf table events' :=
  List.filterMap_append

@[simp] lemma cutsOf_enter : b.cutsOf table [.enter v] = [] := rfl

@[simp] lemma cutsOf_leave : b.cutsOf table [.leave v] = [] := rfl

lemma cutsOf_typed {o : Bool} (h : o = false ∨ table.isSafe (b.part v.node).variant = true) :
    b.cutsOf table [.again v o] = [] := by
  rcases h with rfl | hsafe
  · rfl
  · cases o <;> simp [cutsOf, List.filterMap_cons, cut?, hsafe]

lemma cutsOf_other (h : table.isSafe (b.part v.node).variant = false) :
    b.cutsOf table [.again v true] = [v] := by
  simp [cutsOf, cut?, h]

/-- The cut at an event depends on the variant of the visited part only. -/
lemma cutsOf_congr {event : Event} (h : ∀ v, event = .again v true →
    (b'.part v.node).variant = (b.part v.node).variant) :
    b'.cutsOf table [event] = b.cutsOf table [event] := by
  cases event with
  | again v o =>
    cases o with
    | false => rfl
    | true =>
      have hcut : b'.cut? table (.again v true) = b.cut? table (.again v true) := by
        simp only [cut?, h v rfl]
      simp only [cutsOf, List.filterMap_cons, hcut]
      rfl
  | _ => rfl

lemma edges_nodup (b : Blueprint) (n : ModelId) : (b.edges n).Nodup :=
  b.edges_eq n ▸ allEdges_nodup _ _ _

/-- The visits that a walk cuts follow different edges. -/
lemma areCuts_cutsOf (table : TypeTable) (h : WalkState b.edges b.size root past progress tasks) :
    b.AreCuts (b.cutsOf table past) := by
  refine ⟨?_, fun v hv => ?_⟩
  · induction h with
    | start => simp [cutsOf]
    | leave _ ih => simpa [cutsOf_append] using ih
    | enter _ _ ih => simpa [cutsOf_append] using ih
    | @again past progress u rest before seen ih =>
      have hafter := before.again seen
      rw [cutsOf_append]
      generalize (progress[u.node]? == some .inside) = o at hafter
      by_cases hcut : o = true ∧ table.isSafe (b.part u.node).variant = false
      · obtain ⟨rfl, hother⟩ := hcut
        rw [cutsOf_other hother]
        refine List.nodup_append.2 ⟨ih, by simp, fun v hv w hw heq => ?_⟩
        obtain rfl : w = u := by simpa using hw
        subst heq
        -- the edge of a visit that is cut twice would be followed twice
        obtain ⟨hmem, -⟩ := mem_cutsOf.1 hv
        obtain ⟨-, n, e, -, rfl⟩ := before.again_open hmem
        have hold : e ∈ arrivals past := mem_arrivals.2 ⟨_, hmem, rfl⟩
        have hnodup := hafter.arrivals_nodup b.edges_source b.edges_nodup
        rw [arrivals_append, arrivals_again] at hnodup
        exact (List.nodup_append.1 hnodup).2.2 e hold e (by simp) rfl
      · rw [cutsOf_typed (by cases o <;> simp_all), List.append_nil]
        exact ih
  · obtain ⟨hlt, n, e, he, rfl⟩ := h.again_open (mem_cutsOf.1 hv).1
    exact ⟨hlt, e, rfl, by rwa [b.edges_source n e he]⟩

lemma Gives.bare_eq {id : ModelId} (h : Gives table b id b') : b'.bare = b.bare := by
  obtain ⟨property, type, -, hkeeps⟩ := h
  rw [hkeeps.bare, bare_modify (g := fun p => p) rfl, modify_eq_self _ fun _ => rfl]

/-- A step changes the bare blueprint only where it cuts. -/
lemma TypeStep.bare_eq {event : Event} (h : TypeStep table b event b') :
    b'.bare = (b.cutsOf table [event]).foldl Blueprint.cut b.bare := by
  cases h with
  | enterSafe safe gives => exact gives.bare_eq
  | enterOther other => rfl
  | again typed => rw [cutsOf_typed typed, List.foldl_nil]
  | @cut v c other gives =>
    rw [cutsOf_other other, List.foldl_cons, List.foldl_nil, bare_lead, gives.bare_eq,
      bare_addStand, Blueprint.cut, size_bare]
  | leaveSafe safe keeps => exact keeps.bare
  | leaveOther other gives => exact gives.bare_eq

/-- A step after which the walk goes on makes the cut of its event and no other. -/
lemma IsCut.step {c : Blueprint} {event : Event} (h : b.IsCut (b.cutsOf table past) c.bare)
    (hafter : WalkState b.edges b.size root (past ++ [event]) progress tasks)
    (hstep : TypeStep table c event b') :
    b.IsCut (b.cutsOf table (past ++ [event])) b'.bare := by
  have hcuts := areCuts_cutsOf table hafter
  -- the visited part has the variant that it had before any cut
  have hsame : c.cutsOf table [event] = b.cutsOf table [event] := by
    refine cutsOf_congr fun v hv => h.variant_eq ?_
    exact (hafter.again_open (by simp [hv])).1
  rw [cutsOf_append] at hcuts ⊢
  rw [hstep.bare_eq, hsame]
  exact h.cutAll _ hcuts

/-- After any part of the walk, the bare blueprint is the one before with the cuts so far. -/
theorem isCut_of_run (h : WalkState b.edges b.size root past progress tasks)
    (hbare : b.bare = b) (hrun : past.foldlM (typeEvent table rules) b = .ok b') :
    b.IsCut (b.cutsOf table past) b'.bare := by
  induction h generalizing b' with
  | start =>
    obtain rfl := pure_eq_ok.1 hrun
    exact hbare.symm ▸ .nil
  | leave before ih =>
    obtain ⟨c, hc, hstep⟩ := run_append hrun
    exact (ih hc).step before.leave hstep
  | enter before fresh ih =>
    obtain ⟨c, hc, hstep⟩ := run_append hrun
    exact (ih hc).step (before.enter fresh) hstep
  | again before seen ih =>
    obtain ⟨c, hc, hstep⟩ := run_append hrun
    exact (ih hc).step (before.again seen) hstep

end Blueprint

namespace Schema

variable {s : Schema} {rules : NamingRules} {table : TypeTable} {root : ModelId} {b : Blueprint}

/-- A lowered blueprint is bare. -/
lemma lower_bare (h : s.lower rules root = .ok b) : b.bare = b := by
  refine Blueprint.ext_part Blueprint.size_bare rfl fun id hid => ?_
  rw [Blueprint.size_bare, lower_size h] at hid
  have hpart := lower_part h (List.getElem_mem hid)
  rw [placeOf_reached_getElem hid] at hpart
  rw [Blueprint.part_bare]
  obtain ⟨-, htype, -, hoptions, -, -⟩ := hpart
  generalize b.part id = p at htype hoptions
  obtain ⟨name, type, input, options, shape, source⟩ := p
  obtain rfl : type = "" := htype
  obtain rfl : options = _ := hoptions
  simp [Part.bare, lowerOptions, Function.comp_def]

/-- The blueprint of a root is the lowered one with the cuts of the walk, up to what typing
adds to the parts. -/
theorem blueprint_isCut (h : s.blueprint table rules root = .ok b) :
    ∃ b₀, s.lower rules root = .ok b₀ ∧
      b₀.AreCuts (b₀.cutsOf table (walk b₀.edges b₀.size b₀.root)) ∧
      b₀.IsCut (b₀.cutsOf table (walk b₀.edges b₀.size b₀.root)) b.bare := by
  obtain ⟨b₀, hlower, htypes⟩ := bind_eq_ok.1 h
  obtain ⟨progress, hwalk⟩ :=
    walkState_walk b₀.edges b₀.size b₀.root
  exact ⟨b₀, hlower, Blueprint.areCuts_cutsOf table hwalk,
    Blueprint.isCut_of_run hwalk (lower_bare hlower) htypes⟩

/-- A part has the variant, the name and the source of its model. -/
lemma blueprint_variant (h : s.blueprint table rules root = .ok b) {id : ModelId}
    (hid : id ∈ s.reached root) :
    (b.part (s.placeOf root id)).variant = (s.model id).variant := by
  obtain ⟨b₀, hlower, -, hcut⟩ := blueprint_isCut h
  rw [hcut.variant_eq (lower_size hlower ▸ placeOf_lt_length hid)]
  exact (lowerShape_mirrors (lower_part hlower hid).shape).variant_eq

lemma blueprint_modelName (h : s.blueprint table rules root = .ok b) {id : ModelId}
    (hid : id ∈ s.reached root) :
    rules.modelName s (s.model id) = .ok (b.part (s.placeOf root id)).name := by
  obtain ⟨b₀, hlower, -, hcut⟩ := blueprint_isCut h
  rw [← Part.name_bare, hcut.part_kept (lower_size hlower ▸ placeOf_lt_length hid)]
  exact (lower_part hlower hid).name

lemma blueprint_source (h : s.blueprint table rules root = .ok b) {id : ModelId}
    (hid : id ∈ s.reached root) : (b.part (s.placeOf root id)).source = id := by
  obtain ⟨b₀, hlower, -, hcut⟩ := blueprint_isCut h
  rw [← Part.source_bare, hcut.part_kept (lower_size hlower ▸ placeOf_lt_length hid)]
  exact (lower_part hlower hid).source

lemma blueprint_root (h : s.blueprint table rules root = .ok b) : b.root = 0 := by
  obtain ⟨b₀, hlower, -, hcut⟩ := blueprint_isCut h
  have hroot : b.root = b₀.root := hcut.root_eq
  rw [hroot, lower_root hlower]

end Schema

end Modelsmith
