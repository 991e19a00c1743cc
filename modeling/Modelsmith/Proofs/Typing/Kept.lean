/-
# What typing gives once

Types and discriminators are given once.  A part has no type until the walk is far enough with
it, and from then on its type stays.  The type of a discriminator is found at the moment when
the walk leaves the union: from the types that are known by then.
-/
import Modelsmith.Proofs.TypeConsistency
import Modelsmith.Proofs.Walk.Leave

namespace Modelsmith

namespace Blueprint

variable {table : TypeTable} {rules : NamingRules} {b c c' : Blueprint} {id root : ModelId}
  {past : List Event} {event : Event} {progress : Array Progress} {tasks rest : List Task}
  {v : Visit} {property : Option (Property String)}

/-! ## Types -/

lemma TypeStep.size_le (h : TypeStep table c event c') : c.size ≤ c'.size := by
  have hsize : ∀ (cuts : List Visit) (d : Blueprint),
      d.size ≤ (cuts.foldl Blueprint.cut d).size := by
    intro cuts
    induction cuts with
    | nil => exact fun d => Nat.le_refl _
    | cons v cuts ih => exact fun d => Nat.le_trans (by simp) (ih (d.cut v))
  have hle := hsize (c.cutsOf table [event]) c.bare
  rw [← h.bare_eq, size_bare, size_bare] at hle
  exact hle

/-- Entering a part changes the type of no part that has one. -/
lemma TypeStep.type_enter (h : TypeStep table c (.enter v) c')
    (fresh : progress[v.node]? = some .fresh) (hsize : progress.size = b.size)
    (hid : id < c.size) (htype : b.HasType table progress id) :
    (c'.part id).type = (c.part id).type := by
  refine h.type_eq hid (fun w hw => ?_) (by simp)
  obtain rfl : v = w := by simpa using hw
  rintro rfl
  exact htype.not_fresh (hsize ▸ (Array.getElem?_eq_some_iff.1 fresh).1) fresh

/-- Leaving a part changes the type of no part that has one. -/
lemma TypeStep.type_leave (h : TypeStep table c (.leave v) c')
    (hinside : progress[v.node]? = some .inside) (hsize : progress.size = b.size)
    (hvariant : (c.part v.node).variant = (b.part v.node).variant) (hid : id < c.size)
    (htype : b.HasType table progress id) : (c'.part id).type = (c.part id).type := by
  refine h.type_eq hid (by simp) fun w hw hother => ?_
  obtain rfl : v = w := by simpa using hw
  rintro rfl
  have hnode : v.node < b.size := hsize ▸ (Array.getElem?_eq_some_iff.1 hinside).1
  rw [hvariant, htype.isSafe_of_inside hnode hinside] at hother
  cases hother

/-- A run that starts with an event is one step and a run. -/
lemma run_cons {events : List Event} :
    (event :: events).foldlM (typeEvent table rules) c = .ok c' ↔
      ∃ d, typeEvent table rules c event = .ok d ∧
        events.foldlM (typeEvent table rules) d = .ok c' := by
  rw [List.foldlM_cons, bind_eq_ok]

/-- A run and one more step. -/
lemma run_concat {d : Blueprint} (hrun : past.foldlM (typeEvent table rules) b = .ok c)
    (hevent : typeEvent table rules c event = .ok d) :
    (past ++ [event]).foldlM (typeEvent table rules) b = .ok d := by
  rw [List.foldlM_append, bind_eq_ok]
  exact ⟨c, hrun, run_cons.2 ⟨d, hevent, rfl⟩⟩

/-- From any state of the walk to its end, the types that are known stay. -/
theorem type_kept (hbare : b.bare = b) (h : WalkState b.edges b.size root past progress tasks)
    (hrun : past.foldlM (typeEvent table rules) b = .ok c)
    (hrest : (walkFrom b.edges progress tasks).foldlM (typeEvent table rules) c = .ok c')
    (hid : id < c.size) (htype : b.HasType table progress id) :
    (c'.part id).type = (c.part id).type := by
  fun_induction walkFrom b.edges progress tasks generalizing past c with
  | case1 progress =>
    obtain rfl := pure_eq_ok.1 hrest
    rfl
  | case2 progress v rest ih =>
    obtain ⟨d, hd, hrest⟩ := run_cons.1 hrest
    have hstep := typeEvent_step hd
    have hid' := Nat.lt_of_lt_of_le hid hstep.size_le
    have hinside := (h.tracked.inside_iff v.node).2 ⟨v, by simp, rfl⟩
    have hnode : v.node < b.size := h.tracked.size_eq ▸ (Array.getElem?_eq_some_iff.1 hinside).1
    have hvariant := (isCut_of_run h hbare hrun).variant_eq hnode
    rw [ih h.leave (run_concat hrun hd) hrest hid' htype.leave]
    exact hstep.type_leave hinside h.tracked.size_eq hvariant hid htype
  | case3 progress v rest fresh ih =>
    obtain ⟨d, hd, hrest⟩ := run_cons.1 hrest
    have hstep := typeEvent_step hd
    have hid' := Nat.lt_of_lt_of_le hid hstep.size_le
    rw [ih (h.enter fresh) (run_concat hrun hd) hrest hid' (htype.enter fresh)]
    exact hstep.type_enter fresh h.tracked.size_eq hid htype
  | case4 progress v rest seen ih =>
    obtain ⟨d, hd, hrest⟩ := run_cons.1 hrest
    have hstep := typeEvent_step hd
    have hid' := Nat.lt_of_lt_of_le hid hstep.size_le
    rw [ih (h.again seen) (run_concat hrun hd) hrest hid' htype]
    exact hstep.type_eq hid (by simp) (by simp)

lemma IsCut.lt_size {cuts : List Visit} (h : b.IsCut cuts c.bare) (hid : id < b.size) :
    id < c.size := by
  rw [h.size_of_bare]
  exact Nat.lt_add_right _ hid

lemma IsCut.lt_size_of_unknown {cuts : List Visit} (h : b.IsCut cuts c.bare)
    (htype : ¬ b.HasType table progress id) : id < c.size :=
  h.lt_size (Nat.lt_of_not_le fun hge => htype (hasType_of_le hge))

/-- A part whose type is not known yet has the empty type. -/
theorem type_unknown (hbare : b.bare = b) (h : WalkState b.edges b.size root past progress tasks)
    (hrun : past.foldlM (typeEvent table rules) b = .ok c)
    (htype : ¬ b.HasType table progress id) : (c.part id).type = "" := by
  induction h generalizing c with
  | start =>
    obtain rfl := pure_eq_ok.1 hrun
    rw [← hbare, part_bare]
    rfl
  | @leave past progress v rest before ih =>
    obtain ⟨d, hd, hstep⟩ := run_append hrun
    have hold : ¬ b.HasType table progress id := fun hold => htype hold.leave
    have hinside := (before.tracked.inside_iff v.node).2 ⟨v, by simp, rfl⟩
    have hne : id ≠ v.node := by
      rintro rfl
      exact htype (hasType_done (Array.getElem?_eq_some_iff.1 hinside).1)
    have hid := (isCut_of_run before hbare hd).lt_size_of_unknown hold
    rw [hstep.type_eq hid (by simp) fun w hw _ => ?_, ih hd hold]
    obtain rfl : v = w := by simpa using hw
    exact hne
  | @enter past progress v rest before fresh ih =>
    obtain ⟨d, hd, hstep⟩ := run_append hrun
    have hold : ¬ b.HasType table progress id := fun hold => htype (hold.enter fresh)
    have hcut := isCut_of_run before hbare hd
    have hid := hcut.lt_size_of_unknown hold
    have hlt := (Array.getElem?_eq_some_iff.1 fresh).1
    by_cases hsame : id = v.node
    · -- a part of an unsafe variant gets no type on the way in
      subst hsame
      have hnode : v.node < b.size := before.tracked.size_eq ▸ hlt
      have hother : table.isSafe (b.part v.node).variant = false := by
        by_contra hsafe
        exact htype (.inr (.inr ⟨by simp [hlt], by simpa using hsafe⟩))
      cases hstep with
      | enterSafe safe _ => simp [hcut.variant_eq hnode, hother] at safe
      | enterOther _ => exact ih hd hold
    · rw [hstep.type_eq hid (fun w hw => ?_) (by simp), ih hd hold]
      obtain rfl : v = w := by simpa using hw
      exact hsame
  | @again past progress v rest before seen ih =>
    obtain ⟨d, hd, hstep⟩ := run_append hrun
    have hid := (isCut_of_run before hbare hd).lt_size_of_unknown htype
    rw [hstep.type_eq hid (by simp) (by simp), ih hd htype]

/-- A part gets its name as its type if the table writes the name for it: it has the variant and
the name that it had in the beginning. -/
lemma Gives.type_eq_name {cuts : List Visit} (hgives : Gives table c id c')
    (hcut : b.IsCut cuts c.bare) (hid : id < b.size)
    (hwrite : ∀ ctx, ctx.part.variant = (b.part id).variant →
      table.typeOf ctx = .ok ctx.part.name) : (c'.part id).type = (b.part id).name := by
  obtain ⟨property, hwritten⟩ := hgives.type_eq (hcut.lt_size hid)
  rw [hwrite ⟨c, id, property⟩ (hcut.variant_eq hid), Except.ok.injEq] at hwritten
  rw [← hwritten, TypeContext.part, ← Part.name_bare, hcut.part_kept hid]

/-- If the table writes its name for a part, the part has its name as its type once the type is
known. -/
theorem type_eq_name (hbare : b.bare = b)
    (h : WalkState b.edges b.size root past progress tasks)
    (hrun : past.foldlM (typeEvent table rules) b = .ok c) (hid : id < b.size)
    (hwrite : ∀ ctx, ctx.part.variant = (b.part id).variant →
      table.typeOf ctx = .ok ctx.part.name)
    (htype : b.HasType table progress id) : (c.part id).type = (b.part id).name := by
  induction h generalizing c with
  | start =>
    rcases htype with hge | hdone | ⟨hinside, -⟩
    · exact absurd hid (Nat.not_lt.2 hge)
    · simp [Array.getElem?_replicate] at hdone
    · simp [Array.getElem?_replicate] at hinside
  | @leave past progress v rest before ih =>
    obtain ⟨d, hd, hstep⟩ := run_append hrun
    have hcut := isCut_of_run before hbare hd
    have hinside := (before.tracked.inside_iff v.node).2 ⟨v, by simp, rfl⟩
    by_cases hold : b.HasType table progress id
    · have hnode : v.node < b.size :=
        before.tracked.size_eq ▸ (Array.getElem?_eq_some_iff.1 hinside).1
      rw [hstep.type_leave hinside before.tracked.size_eq (hcut.variant_eq hnode)
        (hcut.lt_size hid) hold]
      exact ih hd hold
    · obtain rfl : v.node = id := by
        by_contra hsame
        exact hold (by simpa [HasType, Array.getElem?_setIfInBounds_ne hsame] using htype)
      cases hstep with
      | leaveSafe safe _ =>
        rw [hcut.variant_eq hid] at safe
        exact absurd (.inr (.inr ⟨hinside, safe⟩)) hold
      | leaveOther _ gives => exact gives.type_eq_name hcut hid hwrite
  | @enter past progress v rest before fresh ih =>
    obtain ⟨d, hd, hstep⟩ := run_append hrun
    have hcut := isCut_of_run before hbare hd
    have hlt := (Array.getElem?_eq_some_iff.1 fresh).1
    by_cases hsame : v.node = id
    · subst hsame
      have hsafe := htype.isSafe_of_inside hid (by simp [hlt])
      cases hstep with
      | enterSafe _ gives => exact gives.type_eq_name hcut hid hwrite
      | enterOther other => simp [hcut.variant_eq hid, hsafe] at other
    · have hold : b.HasType table progress id := by
        simpa [HasType, Array.getElem?_setIfInBounds_ne hsame] using htype
      rw [hstep.type_enter fresh before.tracked.size_eq (hcut.lt_size hid) hold]
      exact ih hd hold
  | @again past progress v rest before seen ih =>
    obtain ⟨d, hd, hstep⟩ := run_append hrun
    have hcut := isCut_of_run before hbare hd
    rw [hstep.type_eq (hcut.lt_size hid) (by simp) (by simp)]
    exact ih hd htype

/-- A part has its type exactly if the walk has left it, or has entered it and it is of a safe
variant. -/
lemma hasType_iff (h : WalkState b.edges b.size root past progress tasks) (hid : id < b.size) :
    b.HasType table progress id ↔
      (id ∈ entered past ∧ table.isSafe (b.part id).variant = true) ∨ id ∈ left past := by
  have hinside : progress[id]? = some .inside → id ∈ entered past := by
    intro hinside
    obtain ⟨w, hw, rfl⟩ := (h.tracked.inside_iff _).1 hinside
    exact mem_entered.2 ⟨w, h.tracked.open_entered w hw, rfl⟩
  rw [HasType, h.done_iff]
  constructor
  · rintro (hge | hdone | ⟨hopen, hsafe⟩)
    · exact absurd hid (Nat.not_lt.2 hge)
    · exact .inr hdone
    · exact .inl ⟨hinside hopen, hsafe⟩
  · rintro (⟨hentered, hsafe⟩ | hdone)
    · -- a model that has been entered is open or has been left
      rw [← h.left_perm.mem_iff, List.mem_append] at hentered
      rcases hentered with hdone | hopen
      · exact .inr (.inl hdone)
      · obtain ⟨w, hw, rfl⟩ := List.mem_map.1 hopen
        exact .inr (.inr ⟨(h.tracked.inside_iff _).2 ⟨w, hw, rfl⟩, hsafe⟩)
    · exact .inr (.inl hdone)

/-- One more event leaves a link that leads to a part with a type as it is. -/
lemma endAfter_again {o : Bool} {e : Edge}
    (after : WalkState b.edges b.size root (past ++ [.again v o]) progress tasks)
    (hopen : o = true → progress[v.node]? = some .inside) (he : e ∈ b.edges e.source)
    (htype : b.HasType table progress
      (b.endAfter (b.cutsOf table past) e.source e.link e.target)) :
    b.endAfter (b.cutsOf table (past ++ [.again v o])) e.source e.link e.target =
      b.endAfter (b.cutsOf table past) e.source e.link e.target := by
  have hcuts := areCuts_cutsOf table after
  rw [cutsOf_append] at hcuts ⊢
  by_cases hcut : o = true ∧ table.isSafe (b.part v.node).variant = false
  · obtain ⟨rfl, hother⟩ := hcut
    rw [cutsOf_other hother] at hcuts ⊢
    obtain ⟨hlt, e', rfl, he'⟩ := hcuts.edge v (by simp)
    rw [endAfter_append hcuts.cutAt_last]
    by_cases hsame : e'.source = e.source ∧ e'.link = e.link
    · -- the end of the edge that is cut has no type
      rw [hsame.1] at he'
      obtain rfl : e' = e := edge_unique he' he hsame.2
      rw [endAfter, hcuts.cutAt_last] at htype
      have hsafe := htype.isSafe_of_inside hlt (hopen rfl)
      rw [Edge.visit_node] at hother
      simp [hsafe] at hother
    · rw [if_neg hsame]
  · rw [cutsOf_typed (by cases o <;> simp_all), List.append_nil]

/-- From any state of the walk to its end, the links that lead to parts with types stay. -/
theorem endAfter_kept (h : WalkState b.edges b.size root past progress tasks) {e : Edge}
    (he : e ∈ b.edges e.source)
    (htype : b.HasType table progress
      (b.endAfter (b.cutsOf table past) e.source e.link e.target)) :
    b.endAfter (b.cutsOf table (walk b.edges b.size root)) e.source e.link e.target =
      b.endAfter (b.cutsOf table past) e.source e.link e.target := by
  rw [← h.past_append]
  fun_induction walkFrom b.edges progress tasks generalizing past with
  | case1 progress => rw [List.append_nil]
  | case2 progress v rest ih =>
    have hcuts : b.cutsOf table (past ++ [.leave v]) = b.cutsOf table past := by
      rw [cutsOf_append, cutsOf_leave, List.append_nil]
    rw [List.append_cons, ih h.leave (by rw [hcuts]; exact htype.leave), hcuts]
  | case3 progress v rest fresh ih =>
    have hcuts : b.cutsOf table (past ++ [.enter v]) = b.cutsOf table past := by
      rw [cutsOf_append, cutsOf_enter, List.append_nil]
    rw [List.append_cons, ih (h.enter fresh) (by rw [hcuts]; exact htype.enter fresh), hcuts]
  | case4 progress v rest seen ih =>
    have hend := endAfter_again (h.again seen) (by simp) he htype
    rw [List.append_cons, ih (h.again seen) (by rwa [hend]), hend]

/-! ## Discriminators -/

/-- A change that keeps something of every part keeps it of the blueprint. -/
lemma view_modify {α : Type} (view : Part → α) {f : Part → Part} {j : ModelId}
    (hf : ∀ p, view (f p) = view p) : view ((c.modify j f).part id) = view (c.part id) := by
  by_cases hid : id = j
  · subst hid
    by_cases hlt : id < c.size
    · rw [part_modify_self f hlt, hf]
    · simp [part, modify, show ¬ id < c.parts.size from hlt]
  · rw [part_modify_of_ne f hid]

lemma discriminator_assignType {j : ModelId} (h : c.assignType table j property = .ok c') :
    (c'.part id).options.discriminator = (c.part id).options.discriminator := by
  simp only [assignType, bind_eq_ok, pure_eq_ok] at h
  obtain ⟨type, -, rfl⟩ := h
  exact view_modify (·.options.discriminator) fun _ => rfl

lemma discriminator_assignConstant {j : ModelId} (h : c.assignConstant rules j = .ok c') :
    (c'.part id).options.discriminator = (c.part id).options.discriminator := by
  simp only [assignConstant] at h
  split at h
  · obtain rfl := pure_eq_ok.1 h
    rfl
  · simp only [bind_eq_ok, pure_eq_ok] at h
    obtain ⟨text, -, rfl⟩ := h
    exact view_modify (·.options.discriminator) fun _ => rfl

lemma discriminator_lead {j : ModelId} :
    ((c.lead v j).part id).options.discriminator = (c.part id).options.discriminator := by
  unfold lead
  split
  · rw [redirect_eq]
    exact view_modify (·.options.discriminator) fun _ => rfl
  · rfl

lemma discriminator_cutCycle (h : c.cutCycle table rules v = .ok c') (hid : id < c.size) :
    (c'.part id).options.discriminator = (c.part id).options.discriminator := by
  simp only [cutCycle, bind_eq_ok, pure_eq_ok] at h
  obtain ⟨d, hd, d', hd', rfl⟩ := h
  calc ((d'.lead v c.size).part id).options.discriminator
      = (d'.part id).options.discriminator := discriminator_lead
    _ = (d.part id).options.discriminator := discriminator_assignConstant hd'
    _ = ((c.addStand v).part id).options.discriminator := discriminator_assignType hd
    _ = (c.part id).options.discriminator := by rw [part_addStand_of_lt v hid]

lemma discriminator_resolve_of_ne {j : ModelId} (hne : j ≠ id) :
    ((c.resolveDiscriminator j).part id).options.discriminator =
      (c.part id).options.discriminator := by
  simp only [resolveDiscriminator]
  split
  · split
    · rw [part_modify_of_ne _ (Ne.symm hne)]
    · rfl
  · rfl

/-- Leaving a part changes no discriminator before the end: if the part is a union, its own is
resolved then. -/
lemma leave_eq_ok (h : typeEvent table rules c (.leave v) = .ok c') :
    ∃ d : Blueprint, d.bare = c.bare ∧
      (∀ id, (d.part id).options.discriminator = (c.part id).options.discriminator) ∧
      (((c.part v.node).variant = .reference ∧ d.assignConstant rules v.node = .ok c') ∨
        ((c.part v.node).variant = .union ∧ d.resolveDiscriminator v.node = c') ∨
        ((c.part v.node).variant ≠ .reference ∧ (c.part v.node).variant ≠ .union ∧ d = c')) := by
  obtain ⟨d, hfirst, hlast⟩ := leave_cases h
  rcases hfirst with ⟨-, rfl⟩ | ⟨-, d', hd', hd⟩
  · exact ⟨d, rfl, fun _ => rfl, hlast⟩
  · refine ⟨d, (assignConstant_keeps hd).bare.trans (assignType_gives hd').bare_eq, fun _ => ?_,
      hlast⟩
    exact (discriminator_assignConstant hd).trans (discriminator_assignType hd')

/-- An event changes the discriminator of no part but the one that is left. -/
lemma discriminator_step (h : typeEvent table rules c event = .ok c') (hid : id < c.size)
    (hleave : id ∉ left [event]) :
    (c'.part id).options.discriminator = (c.part id).options.discriminator := by
  cases event with
  | enter v =>
    simp only [typeEvent] at h
    split at h
    · obtain rfl := pure_eq_ok.1 h
      rfl
    · simp only [bind_eq_ok] at h
      obtain ⟨d, hd, h⟩ := h
      split at h
      · obtain rfl := pure_eq_ok.1 h
        exact discriminator_assignType hd
      · exact (discriminator_assignConstant h).trans (discriminator_assignType hd)
  | again v o =>
    simp only [typeEvent] at h
    split at h
    · exact discriminator_cutCycle h hid
    · obtain rfl := pure_eq_ok.1 h
      rfl
  | leave v =>
    have hne : v.node ≠ id := by simpa [eq_comm] using hleave
    obtain ⟨d, -, hd, hlast⟩ := leave_eq_ok h
    rw [← hd]
    rcases hlast with ⟨-, hconstant⟩ | ⟨-, rfl⟩ | ⟨-, -, rfl⟩
    · exact discriminator_assignConstant hconstant
    · exact discriminator_resolve_of_ne hne
    · rfl

/-- A run that does not leave a part keeps its discriminator. -/
lemma discriminator_kept {events : List Event}
    (hrun : events.foldlM (typeEvent table rules) c = .ok c') (hid : id < c.size)
    (hleave : id ∉ left events) :
    (c'.part id).options.discriminator = (c.part id).options.discriminator := by
  induction events generalizing c with
  | nil =>
    obtain rfl := pure_eq_ok.1 hrun
    rfl
  | cons event events ih =>
    obtain ⟨d, hd, hrun⟩ := run_cons.1 hrun
    rw [← List.singleton_append, left_append, List.mem_append, not_or] at hleave
    rw [ih hrun (Nat.lt_of_lt_of_le hid (typeEvent_step hd).size_le) hleave.2,
      discriminator_step hd hid hleave.1]

/-- The types of a property over the members of a union that refer directly to an object with
such a property. -/
def tagTypes (b : Blueprint) (id : ModelId) (property : String) : Set String :=
  {t | ∃ x ∈ (b.part id).shape.slots, ∃ o p, (b.part x).shape.target? = some o ∧
    (b.part o).shape.properties.find? (·.name == property) = some p ∧
    (b.part p.model).type = t}

lemma mem_discriminatorTypes {name t : String} {members : List ModelId} :
    t ∈ b.discriminatorTypes name members ↔ ∃ x ∈ members, ∃ o p,
      (b.part x).shape.target? = some o ∧
      (b.part o).shape.properties.find? (·.name == name) = some p ∧ (b.part p.model).type = t := by
  simp only [discriminatorTypes, List.mem_eraseDups, List.mem_filterMap, Option.bind_eq_bind,
    Option.bind_eq_some_iff, Option.pure_def, Option.some.injEq]
  grind

lemma Keeps.shape_eq (h : Keeps c c') (id : ModelId) : (c'.part id).shape = (c.part id).shape := by
  rw [← Part.shape_bare, ← part_bare, h.bare, part_bare, Part.shape_bare]

lemma Keeps.tagTypes_eq (h : Keeps c c') (name : String) :
    c'.tagTypes id name = c.tagTypes id name := by
  simp only [tagTypes, h.shape_eq, h.type]

/-- A list without its repetitions is a single text exactly if the text is all that it holds. -/
lemma eraseDups_eq_singleton {texts : List String} {t : String} :
    texts.eraseDups = [t] ↔ {u | u ∈ texts} = {t} := by
  constructor
  · intro h
    ext u
    rw [Set.mem_singleton_iff, ← List.mem_singleton, ← h, List.mem_eraseDups]
    rfl
  · intro h
    have hmem : ∀ u, u ∈ texts ↔ u = t := fun u => Set.ext_iff.1 h u
    cases texts with
    | nil => simp at hmem
    | cons first rest =>
      obtain rfl : first = t := (hmem first).1 (by simp)
      have hrest : rest.filter (fun u => !u == first) = [] := by
        refine List.filter_eq_nil_iff.2 fun u hu => ?_
        simp [(hmem u).1 (by simp [hu])]
      rw [List.eraseDups_cons, hrest, List.eraseDups_nil]

/-- The members of a union agree on a type if they have no other. -/
lemma discriminatorTypes_eq_singleton {name t : String} :
    b.discriminatorTypes name (b.part id).shape.slots = [t] ↔ b.tagTypes id name = {t} := by
  have htypes : {u | u ∈ b.discriminatorTypes name (b.part id).shape.slots} =
      b.tagTypes id name := by
    ext u
    exact mem_discriminatorTypes
  rw [← htypes, discriminatorTypes, eraseDups_eq_singleton]
  simp

/-- The type of the discriminator of a union is the one type of the discriminating property over
its members, if there is one. -/
lemma exists_discriminator_resolve (hid : id < c.size) (hvariant : (c.part id).variant = .union)
    {name : String} (hd : (c.part id).options.discriminator = some { property := name }) :
    ∃ type, ((c.resolveDiscriminator id).part id).options.discriminator = some ⟨name, type⟩ ∧
      ∀ t, type = some t ↔ (c.resolveDiscriminator id).tagTypes id name = {t} := by
  cases hshape : (c.part id).shape with
  | union members =>
    have hkeeps : Keeps c (c.resolveDiscriminator id) := resolveDiscriminator_keeps
    simp only [hkeeps.tagTypes_eq, ← discriminatorTypes_eq_singleton]
    simp only [resolveDiscriminator, hd, hshape, Shape.slots]
    split
    · next t ht =>
      refine ⟨some t, ?_, by simp [ht]⟩
      rw [part_modify_self _ hid]
    · next hnone =>
      refine ⟨none, hd, fun t => ⟨by simp, fun ht => absurd ht (hnone t)⟩⟩
  | _ => simp [Part.variant, hshape, Shape.variant] at hvariant

/-- In the end the type of the discriminator of a union is the one on which its members agreed
when the walk left the union. -/
theorem exists_discriminator (hbare : b.bare = b)
    (h : WalkState b.edges b.size root past progress (.close v :: rest))
    (hrun : (walk b.edges b.size root).foldlM (typeEvent table rules) b = .ok c')
    (hvariant : (b.part v.node).variant = .union) {name : String}
    (hd : (b.part v.node).options.discriminator = some { property := name }) :
    ∃ c, (past ++ [Event.leave v]).foldlM (typeEvent table rules) b = .ok c ∧
      (walkFrom b.edges (progress.setIfInBounds v.node .done) rest).foldlM
        (typeEvent table rules) c = .ok c' ∧
      ∃ type, (c'.part v.node).options.discriminator = some ⟨name, type⟩ ∧
        ∀ t, type = some t ↔ c.tagTypes v.node name = {t} := by
  have hinside := (h.tracked.inside_iff v.node).2 ⟨v, by simp, rfl⟩
  have hlt : v.node < b.size := h.tracked.size_eq ▸ (Array.getElem?_eq_some_iff.1 hinside).1
  rw [← h.leave_append, List.foldlM_append, bind_eq_ok] at hrun
  obtain ⟨c₀, hrun₀, hrun⟩ := hrun
  obtain ⟨c, hleave, hrest⟩ := run_cons.1 hrun
  have hcut := isCut_of_run h hbare hrun₀
  have hlt₀ : v.node < c₀.size := hcut.lt_size hlt
  have hlt' : v.node < c.size := Nat.lt_of_lt_of_le hlt₀ (typeEvent_step hleave).size_le
  have hvariant₀ : (c₀.part v.node).variant = .union := (hcut.variant_eq hlt).trans hvariant
  have hd₀ : (c₀.part v.node).options.discriminator = some { property := name } := by
    rw [discriminator_kept hrun₀ hlt h.notMem_left_of_close.1, hd]
  refine ⟨c, run_concat hrun₀ hleave, hrest, ?_⟩
  rw [discriminator_kept hrest hlt' h.notMem_left_of_close.2]
  obtain ⟨d, hbare', hdisc, hlast⟩ := leave_eq_ok hleave
  obtain rfl : d.resolveDiscriminator v.node = c := by simpa [hvariant₀] using hlast
  have hpart : (d.part v.node).variant = .union := by
    rw [Part.variant, ← Part.shape_bare, ← part_bare, hbare', part_bare, Part.shape_bare]
    exact hvariant₀
  exact exists_discriminator_resolve (size_eq_of_bare hbare' ▸ hlt₀) hpart ((hdisc _).trans hd₀)

end Blueprint

end Modelsmith
