/-
# Consistency of types

Typing gives every part its type once, in the middle of a walk that still cuts links, adds
parts and gives types to others.  Nothing that a type was written from changes afterwards: a
part is settled when the table writes the type that it has, and settled parts stay settled.
-/
import Modelsmith.Proofs.Evaluation
import Modelsmith.Proofs.Typing.Agreement
import Modelsmith.Proofs.Typing.Progress
import Modelsmith.Target.Rust
import Modelsmith.Target.TypeScript

namespace Modelsmith

namespace Blueprint

variable {table : TypeTable} {rules : NamingRules} {b c c' : Blueprint} {id root : ModelId}
  {past : List Event} {event : Event} {progress progress' : Array Progress}
  {tasks tasks' rest : List Task} {v : Visit}

/-- A part is settled if its type is what the table writes for it. -/
def Settled (table : TypeTable) (c : Blueprint) (id : ModelId) : Prop :=
  ∀ property, table.typeOf { blueprint := c, id, property } = .ok (c.part id).type

/-- A part whose type stays and whose surroundings agree stays settled. -/
lemma Settled.of_agrees (hlocal : table.IsLocal) (h : Settled table c id)
    (htype : (c'.part id).type = (c.part id).type)
    (hagrees : ∀ p p', TypeContext.Agrees { blueprint := c, id, property := p }
      { blueprint := c', id, property := p' }) : Settled table c' id := by
  intro property
  rw [hlocal.typeOf _ _ (hagrees property property), htype]
  exact h property

/-! ## Types that a step gives and keeps -/

lemma Gives.type_of_ne (h : Gives table c id c') {j : ModelId} (hj : j ≠ id) :
    (c'.part j).type = (c.part j).type := by
  obtain ⟨property, type, -, hkeeps⟩ := h
  rw [hkeeps.type, part_modify_of_ne _ hj]

lemma Gives.type_eq (h : Gives table c id c') (hid : id < c.size) :
    ∃ property, table.typeOf { blueprint := c, id, property } = .ok (c'.part id).type := by
  obtain ⟨property, type, htype, hkeeps⟩ := h
  refine ⟨property, ?_⟩
  rw [hkeeps.type, part_modify_self _ hid, htype]

/-- A part that gets its type is settled, if what the type was written from stays. -/
lemma Gives.settled {d : Blueprint} (hlocal : table.IsLocal) (h : Gives table c id c')
    (hid : id < c.size) (htype : (d.part id).type = (c'.part id).type)
    (hagrees : ∀ p p', TypeContext.Agrees { blueprint := c, id, property := p }
      { blueprint := d, id, property := p' }) : Settled table d id := by
  intro property
  obtain ⟨property', hwritten⟩ := h.type_eq hid
  rw [hlocal.typeOf _ _ (hagrees property' property), hwritten, htype]

/-- A step changes the type of no part but the one that is entered or left. -/
lemma TypeStep.type_eq (h : TypeStep table c event c') {j : ModelId} (hj : j < c.size)
    (henter : ∀ v, event = .enter v → j ≠ v.node)
    (hleave : ∀ v, event = .leave v → table.isSafe (c.part v.node).variant = false →
      j ≠ v.node) : (c'.part j).type = (c.part j).type := by
  cases h with
  | enterSafe _ gives => exact gives.type_of_ne (henter _ rfl)
  | enterOther _ => rfl
  | again _ => rfl
  | cut _ gives => rw [type_lead, gives.type_of_ne (Nat.ne_of_lt hj), part_addStand_of_lt _ hj]
  | leaveSafe _ keeps => exact keeps.type j
  | leaveOther other gives => exact gives.type_of_ne (hleave _ rfl other)

/-! ## Settled parts stay settled -/

section Step

variable (hb : b.IsReady table) (before : WalkState b.edges b.size root past progress tasks)
  (after : WalkState b.edges b.size root (past ++ [event]) progress' tasks')
  (hrun : past.foldlM (typeEvent table rules) b = .ok c)
  (hrun' : (past ++ [event]).foldlM (typeEvent table rules) b = .ok c')
include hb before after hrun hrun'

/-- A step keeps what the type of a part may depend on, if it cuts no link of a part of an
unsafe variant and keeps the types in its slots. -/
lemma agrees_of_run (hid : id < c.size)
    (hsource : (c.part id).variant.isSelfContained = false →
      ∀ v ∈ b.cutsOf table [event], ∀ e, v.via = some e → e.source ≠ id)
    (htypes : (c.part id).variant.isSelfContained = false →
      ∀ j ∈ (c.part id).shape.slots, (c'.part j).type = (c.part j).type)
    (p p' : Option (Property String)) :
    TypeContext.Agrees { blueprint := c, id, property := p }
      { blueprint := c', id, property := p' } := by
  have hcut := isCut_of_run before hb.isBare hrun
  have hcut' := isCut_of_run after hb.isBare hrun'
  have hcuts := areCuts_cutsOf table after
  have hend : ∀ v ∈ b.cutsOf table (past ++ [event]), (b.part v.node).variant ≠ .reference :=
    fun v hv => hb.cut_ne_reference hv
  rw [cutsOf_append] at hcut' hcuts hend
  exact hcut.agrees hb hcut' hcuts hend hid hsource htypes p p'

/-- A step that keeps all types given so far and cuts no link of a part that has been left
keeps a part settled. -/
lemma settled_of_step
    (hkeep : ∀ j < c.size, b.HasType table progress j → (c'.part j).type = (c.part j).type)
    (hsource : progress[id]? = some .done →
      ∀ v ∈ b.cutsOf table [event], ∀ e, v.via = some e → e.source ≠ id)
    (hid : id < c.size) (htype : b.HasType table progress id) (hsettled : Settled table c id) :
    Settled table c' id := by
  have hcut := isCut_of_run before hb.isBare hrun
  -- a part of an unsafe variant has its type only if it has been left
  have hdone : (c.part id).variant.isSelfContained = false →
      id < b.size ∧ progress[id]? = some .done := by
    intro hother
    have hlt := hcut.lt_of_not_isSelfContained hid hother
    refine ⟨hlt, ?_⟩
    rcases htype with hge | hdone | ⟨-, hsafe⟩
    · exact absurd hlt (Nat.not_lt.2 hge)
    · exact hdone
    · rw [hb.isLocal.isSafe, ← hcut.variant_eq hlt, hother] at hsafe
      simp at hsafe
  refine hsettled.of_agrees hb.isLocal (hkeep id hid htype) ?_
  refine agrees_of_run hb before after hrun hrun' hid (fun hother => hsource (hdone hother).2) ?_
  intro hother j hj
  obtain ⟨hlt, hleft⟩ := hdone hother
  obtain ⟨e, he, rfl, hend⟩ :=
    hcut.exists_edge_of_slot (areCuts_cutsOf table before) hb.isClosed hlt hj
  exact hkeep _ hend (done_hasType table before hleft e he)

end Step

/-- The part that stands for another is settled when its cycle has been cut. -/
lemma settled_stand (hb : b.IsReady table)
    (after : WalkState b.edges b.size root (past ++ [.again v true]) progress' tasks')
    (before : WalkState b.edges b.size root past progress tasks)
    (hrun : past.foldlM (typeEvent table rules) b = .ok c)
    (hrun' : (past ++ [Event.again v true]).foldlM (typeEvent table rules) b =
      .ok (c'.lead v c.size))
    (hother : table.isSafe (c.part v.node).variant = false)
    (hgives : Gives table (c.addStand v) c.size c') :
    Settled table (c'.lead v c.size) c.size := by
  have hnode : v.node < b.size := (after.again_open (by simp)).1
  have hcut := isCut_of_run before hb.isBare hrun
  have hcut' := isCut_of_run after hb.isBare hrun'
  rw [hcut.variant_eq hnode] at hother
  rw [cutsOf_append, cutsOf_other hother] at hcut'
  have hkept := hcut.part_kept hnode
  have hstand := hcut'.part_stand List.getElem?_concat_length
  rw [← hcut.size_of_bare] at hstand
  have hshape : ((c'.lead v c.size).part c.size).shape = .any := by
    rw [← Part.shape_bare, hstand]
  have hshape₀ : ((c.addStand v).part c.size).shape = .any := by rw [part_addStand_size]
  have hvariant : ((c.addStand v).part c.size).variant = .any := by
    rw [Part.variant, hshape₀]
    rfl
  -- the name and the format are those of the visited part, before the cut and after it
  refine hgives.settled hb.isLocal (by simp) (by simp) fun p p' => ⟨?_, ?_, ?_, ?_, ?_, ?_⟩
  · show ((c'.lead v c.size).part c.size).name = ((c.addStand v).part c.size).name
    rw [← Part.name_bare, hstand, part_addStand_size, ← Part.name_bare (c.part v.node), hkept]
  · show ((c'.lead v c.size).part c.size).options.format =
      ((c.addStand v).part c.size).options.format
    rw [← Part.format_bare, hstand, part_addStand_size, ← Part.format_bare (c.part v.node), hkept]
  · exact congrArg Shape.variant (hshape.trans hshape₀.symm)
  · intro href
    exact absurd (hvariant.symm.trans href) (by decide)
  · intro _
    exact hshape.trans hshape₀.symm
  · intro hother
    exact absurd ((congrArg Variant.isSelfContained hvariant).symm.trans hother) (by decide)

/-! ## The whole run -/

section Event

variable (hb : b.IsReady table) (hrun : past.foldlM (typeEvent table rules) b = .ok c)
  (ih : ∀ id < c.size, b.HasType table progress id → Settled table c id)
include hb hrun ih

lemma settled_enter (before : WalkState b.edges b.size root past progress (.visit v :: rest))
    (fresh : progress[v.node]? = some .fresh)
    (hrun' : (past ++ [Event.enter v]).foldlM (typeEvent table rules) b = .ok c')
    (hstep : TypeStep table c (.enter v) c') :
    ∀ id < c'.size, b.HasType table (progress.setIfInBounds v.node .inside) id →
      Settled table c' id := by
  have after := before.enter fresh
  have hcut := isCut_of_run before hb.isBare hrun
  have hsize : c'.size = c.size := size_eq_of_bare (by simpa using hstep.bare_eq)
  have hlt : v.node < progress.size := (Array.getElem?_eq_some_iff.1 fresh).1
  have hnode : v.node < b.size := before.tracked.size_eq ▸ hlt
  intro id hid htype
  rw [hsize] at hid
  by_cases hsame : v.node = id
  · subst hsame
    have hsafe := htype.isSafe_of_inside hnode (by simp [hlt])
    rw [← hcut.variant_eq hnode] at hsafe
    -- a part that gets its type on the way in is of a safe variant and needs no slots
    cases hstep with
    | enterSafe safe gives =>
      have hself : (c.part v.node).variant.isSelfContained = true := hb.isLocal.isSafe ▸ hsafe
      refine gives.settled hb.isLocal hid rfl ?_
      exact agrees_of_run hb before after hrun hrun' hid (by simp [hself]) (by simp [hself])
    | enterOther other => simp [hsafe] at other
  · have htype₀ : b.HasType table progress id := by
      simpa [HasType, Array.getElem?_setIfInBounds_ne hsame] using htype
    refine settled_of_step hb before after hrun hrun' (fun j hj hjtype => ?_) (by simp) hid htype₀
      (ih id hid htype₀)
    refine hstep.type_eq hj (fun w hw => ?_) (by simp)
    obtain rfl : v = w := by simpa using hw
    rintro rfl
    exact hjtype.not_fresh hnode fresh

lemma settled_leave (before : WalkState b.edges b.size root past progress (.close v :: rest))
    (hrun' : (past ++ [Event.leave v]).foldlM (typeEvent table rules) b = .ok c')
    (hstep : TypeStep table c (.leave v) c') :
    ∀ id < c'.size, b.HasType table (progress.setIfInBounds v.node .done) id →
      Settled table c' id := by
  have after := before.leave
  have hcut := isCut_of_run before hb.isBare hrun
  have hsize : c'.size = c.size := size_eq_of_bare (by simpa using hstep.bare_eq)
  have hinside : progress[v.node]? = some .inside :=
    (before.tracked.inside_iff _).2 ⟨v, by simp, rfl⟩
  have hnode : v.node < b.size :=
    before.tracked.size_eq ▸ (Array.getElem?_eq_some_iff.1 hinside).1
  have hvariant := hcut.variant_eq hnode
  have hkeep : ∀ j < c.size, b.HasType table progress j →
      (c'.part j).type = (c.part j).type := by
    intro j hj hjtype
    refine hstep.type_eq hj (by simp) fun w hw hother => ?_
    obtain rfl : v = w := by simpa using hw
    rintro rfl
    have hsafe := hjtype.isSafe_of_inside hnode hinside
    simp [hvariant, hsafe] at hother
  intro id hid htype
  rw [hsize] at hid
  by_cases htype₀ : b.HasType table progress id
  · exact settled_of_step hb before after hrun hrun' hkeep (by simp) hid htype₀ (ih id hid htype₀)
  · -- the part that is left gets its type now
    obtain rfl : v.node = id := by
      by_contra hsame
      exact htype₀ (by simpa [HasType, Array.getElem?_setIfInBounds_ne hsame] using htype)
    cases hstep with
    | leaveSafe safe keeps =>
      rw [hvariant] at safe
      exact absurd (.inr (.inr ⟨hinside, safe⟩)) htype₀
    | leaveOther other gives =>
      refine gives.settled hb.isLocal hid rfl ?_
      refine agrees_of_run hb before after hrun hrun' hid (by simp) fun _ j hj => ?_
      obtain ⟨e, he, rfl, hend⟩ :=
        hcut.exists_edge_of_slot (areCuts_cutsOf table before) hb.isClosed hnode hj
      exact hkeep _ hend (close_hasType table before e he)

lemma settled_again {o : Bool}
    (before : WalkState b.edges b.size root past progress (.visit v :: rest))
    (after : WalkState b.edges b.size root (past ++ [.again v o]) progress rest)
    (hrun' : (past ++ [Event.again v o]).foldlM (typeEvent table rules) b = .ok c')
    (hstep : TypeStep table c (.again v o) c') :
    ∀ id < c'.size, b.HasType table progress id → Settled table c' id := by
  intro id hid htype
  cases hstep with
  | again typed => exact ih id hid htype
  | @cut _ c' other gives =>
    have hstep : TypeStep table c (.again v true) (c'.lead v c.size) := .cut other gives
    have hsize : c'.size = c.size + 1 := by rw [size_eq_of_bare gives.bare_eq, size_addStand]
    rw [size_lead, hsize] at hid
    rcases Nat.lt_succ_iff_lt_or_eq.1 hid with hlt | rfl
    · refine settled_of_step hb before after hrun hrun'
        (fun j hj _ => hstep.type_eq hj (by simp) (by simp)) (fun hdone w hw e he => ?_) hlt htype
        (ih id hlt htype)
      -- the walk is still inside of the part whose link is cut
      have hagain : .again w true ∈ [Event.again v true] := (mem_cutsOf.1 hw).1
      obtain rfl : w = v := by simpa using hagain
      rintro rfl
      rcases before.due with ⟨-, rfl⟩ | ⟨u, opens, e', hopen, -, he', rfl⟩
      · simp at he
      · obtain rfl : e' = e := by simpa using he
        have hinside := (before.tracked.inside_iff u.node).2 ⟨u, by simp [hopen], rfl⟩
        rw [← b.edges_source _ e' he', hdone] at hinside
        simp at hinside
    · exact settled_stand hb after before hrun hrun' other gives

end Event

/-- After any part of the walk, all parts that have their types are settled. -/
theorem settled_of_run (hb : b.IsReady table)
    (h : WalkState b.edges b.size root past progress tasks)
    (hrun : past.foldlM (typeEvent table rules) b = .ok c) :
    ∀ id < c.size, b.HasType table progress id → Settled table c id := by
  induction h generalizing c with
  | start =>
    obtain rfl := pure_eq_ok.1 hrun
    rintro id hid (hge | hdone | ⟨hinside, -⟩)
    · exact absurd hid (Nat.not_lt.2 hge)
    · simp [Array.getElem?_replicate] at hdone
    · simp [Array.getElem?_replicate] at hinside
  | enter before fresh ih =>
    obtain ⟨c₀, hrun₀, hstep⟩ := run_append hrun
    exact settled_enter hb hrun₀ (ih hrun₀) before fresh hrun hstep
  | leave before ih =>
    obtain ⟨c₀, hrun₀, hstep⟩ := run_append hrun
    exact settled_leave hb hrun₀ (ih hrun₀) before hrun hstep
  | again before seen ih =>
    obtain ⟨c₀, hrun₀, hstep⟩ := run_append hrun
    exact settled_again hb hrun₀ (ih hrun₀) before (before.again seen) hrun hstep

end Blueprint

namespace Schema

variable {s : Schema} {table : TypeTable} {rules : NamingRules} {root : ModelId} {b : Blueprint}

/-- A schema without a cycle that consists of references only. -/
def HasNoReferenceCycle (s : Schema) : Prop :=
  ∀ id, ¬ Relation.TransGen (fun m t => (s.model m).shape.target? = some t) id id

/-- It is enough that no reference refers to a reference. -/
lemma hasNoReferenceCycle_of_targets (htargets : ∀ id < s.size,
    ∀ t ∈ (s.model id).shape.target?, (s.model t).shape.target? = none) :
    s.HasNoReferenceCycle := by
  intro id hid
  obtain ⟨t, hfirst, -⟩ := Relation.TransGen.head'_iff.1 hid
  obtain ⟨m, -, hlast⟩ := Relation.TransGen.tail'_iff.1 hid
  have hm : m < s.size := by
    refine Nat.lt_of_not_le fun hle => ?_
    rw [model_of_le hle] at hlast
    cases hlast
  rw [htargets m hm id hlast] at hfirst
  cases hfirst

/-- A lowered reference refers to the part of the model that its model refers to. -/
lemma lower_target? (hclosed : s.IsClosed root) (h : s.lower rules root = .ok b)
    {i j : ModelId} (htarget : b.target? i = some j) :
    (s.model (b.part i).source).shape.target? = some (b.part j).source := by
  have hlt : i < (s.reached root).length := by
    rw [← lower_size h]
    exact Blueprint.lt_size_of_mem_edges (Blueprint.edge_of_target? htarget)
  have hmem := List.getElem_mem hlt
  have hpart := lower_part h hmem
  rw [placeOf_reached_getElem hlt] at hpart
  rw [Blueprint.target?, (lowerShape_mirrors hpart.shape).target?_eq] at htarget
  obtain ⟨t, ht, rfl⟩ := Option.map_eq_some_iff.1 htarget
  have ht' : t ∈ s.reached root := mem_reached_of_end hclosed .target hmem ht
  rw [hpart.source, (lower_part h ht').source, ht]

/-- Lowering makes no cycles of references. -/
lemma lower_trail (hclosed : s.IsClosed root) (hcycle : s.HasNoReferenceCycle)
    (h : s.lower rules root = .ok b) {id : ModelId} (hid : id < b.size) :
    ∃ path last, Trail b.target? id path last := by
  refine exists_trail b.size ?_ ?_ hid
  · intro i hi
    exact hcycle (b.part i).source
      (hi.lift (fun i => (b.part i).source) fun _ _ => lower_target? hclosed h)
  · intro i j htarget hi
    exact lower_isClosed hclosed h i hi _ (Blueprint.edge_of_target? htarget)

lemma lower_isReady (hlocal : table.IsLocal) (hclosed : s.IsClosed root)
    (hcycle : s.HasNoReferenceCycle) (h : s.lower rules root = .ok b) : b.IsReady table where
  isLocal := hlocal
  isBare := lower_bare h
  isClosed := lower_isClosed hclosed h
  trail _ hid := lower_trail hclosed hcycle h hid

/-- Every part of a blueprint is lowered from a model that the walk enters and leaves. -/
lemma lower_entered (hclosed : s.IsClosed root) (h : s.lower rules root = .ok b) {id : ModelId}
    (hid : id < b.size) : id ∈ entered (walk b.edges b.size b.root) := by
  rw [lower_size h] at hid
  obtain ⟨v, hv, hnode⟩ := mem_entered.1 (List.getElem_mem hid)
  rw [lower_walk hclosed h, mem_entered]
  refine ⟨v.rename (s.placeOf root), List.mem_map.2 ⟨_, hv, rfl⟩, ?_⟩
  rw [Visit.rename_node, hnode, placeOf_reached_getElem hid]

/-- For the three targets, any naming rules and every schema without a cycle of references,
each part of the blueprint has the type that the table writes for it in this blueprint. -/
theorem blueprint_typeOf (htable : table = Rust.types ∨ table = TypeScript.types ∨
    table = Sketch.types) (hclosed : s.IsClosed root) (hcycle : s.HasNoReferenceCycle)
    (h : s.blueprint table rules root = .ok b) :
    ∀ id < b.size, ∀ property,
      table.typeOf { blueprint := b, id, property } = .ok (b.part id).type := by
  have hlocal : table.IsLocal := by
    rcases htable with rfl | rfl | rfl
    · exact Rust.types_isLocal
    · exact TypeScript.types_isLocal
    · exact Sketch.types_isLocal
  obtain ⟨b₀, hlower, hrun⟩ := bind_eq_ok.1 h
  obtain ⟨progress, hwalk⟩ := walkState_walk b₀.edges b₀.size b₀.root
  have hready := lower_isReady hlocal hclosed hcycle hlower
  intro id hid
  refine Blueprint.settled_of_run hready hwalk hrun id hid ?_
  rcases Nat.lt_or_ge id b₀.size with hlt | hge
  · exact .inr (.inl (hwalk.done_of_entered (lower_entered hclosed hlower hlt)))
  · exact .inl hge

/-- A cart with lists, tuples, a dictionary and a union: a label is a text, a list of labels or a
cart. -/
def cartSample : Schema :=
  ⟨#[plain "cart" (.object [⟨"lines", 1, true, 0, ()⟩, ⟨"labels", 5, true, 0, ()⟩]),
    plain "lines" (.array 2), plain "line" (.tuple [⟨0, 3⟩, ⟨1, 4⟩]), plain "article" .string,
    { plain "amount" .integer with options := { format := some "int64" } },
    plain "labels" (.dictionary 3 6 .nested), plain "label" (.union [3, 7, 8]),
    plain "more" (.array 6), plain "whole" (.reference 0)]⟩

/-- In both targets the types of the cart are made from each other, and the list of labels, which
closes a cycle, is a list of anything. -/
theorem blueprint_typeOf_cartSample :
    (∃ b, cartSample.blueprint Rust.types (Rust.rules {}) 0 = .ok b ∧
      b.parts.toList.map (·.type) = ["Cart", "Vec<Line>", "Line", "String", "i64",
        "std::collections::HashMap<String, Label>", "Label", "Vec<serde_json::Value>", "Cart",
        "serde_json::Value"] ∧
      ∀ id < b.size, ∀ property,
        Rust.types.typeOf { blueprint := b, id, property } = .ok (b.part id).type) ∧
    ∃ b, cartSample.blueprint TypeScript.types (TypeScript.rules {}) 0 = .ok b ∧
      b.parts.toList.map (·.type) = ["Cart", "[string, number][]", "[string, number]", "string",
        "number", "Map<string, string | any[] | Cart>", "string | any[] | Cart", "any[]", "Cart",
        "any"] ∧
      ∀ id < b.size, ∀ property,
        TypeScript.types.typeOf { blueprint := b, id, property } = .ok (b.part id).type := by
  have hclosed : cartSample.IsClosed 0 := isClosed_of_range (by decide) (by decide)
  have hcycle : cartSample.HasNoReferenceCycle := hasNoReferenceCycle_of_targets (by decide)
  have hrust : (cartSample.blueprintWithin Rust.types (Rust.rules {}) 0 24).any
      (fun b => b.parts.toList.map (·.type) = ["Cart", "Vec<Line>", "Line", "String", "i64",
        "std::collections::HashMap<String, Label>", "Label", "Vec<serde_json::Value>", "Cart",
        "serde_json::Value"]) = true := by
    decide +kernel
  have htypeScript : (cartSample.blueprintWithin TypeScript.types (TypeScript.rules {}) 0 24).any
      (fun b => b.parts.toList.map (·.type) = ["Cart", "[string, number][]", "[string, number]",
        "string", "number", "Map<string, string | any[] | Cart>", "string | any[] | Cart",
        "any[]", "Cart", "any"]) = true := by
    decide +kernel
  obtain ⟨b, hb, htypes⟩ := blueprint_of_within hrust
  obtain ⟨b', hb', htypes'⟩ := blueprint_of_within htypeScript
  exact ⟨⟨b, hb, of_decide_eq_true htypes, blueprint_typeOf (.inl rfl) hclosed hcycle hb⟩,
    b', hb', of_decide_eq_true htypes', blueprint_typeOf (.inr (.inl rfl)) hclosed hcycle hb'⟩

end Schema

end Modelsmith
