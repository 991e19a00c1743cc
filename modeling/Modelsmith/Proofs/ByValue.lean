/-
# Types that hold each other by value

A definition that holds another by value has a size only if the other has one.  Fields box the
references that they hold, so that structs and tuple structs hold no other model by value.  The
variants of a union hold what its members resolve to without a box.  So the outputs of a batch
hold each other in a cycle exactly if unions of the schema do, through members that refer to the
next union and do not lead back.
-/
import Modelsmith.Proofs.Imports.Sufficient
import Modelsmith.Proofs.Typing.Kept

namespace Modelsmith

/-! ## Members that refer to models -/

namespace Schema

variable {s : Schema} {rules : NamingRules} {table : TypeTable} {root c n r : ModelId}
  {b : Blueprint}

/-- Whether a model is a reference to another. -/
def RefersTo (s : Schema) (r n : ModelId) : Prop := (s.model r).shape = .reference n

/-- A member of the union `m` leads through references to `n`, and the last of them does not
lead back. -/
structure Embeds (s : Schema) (m n : ModelId) : Prop where
  union : (s.model m).variant = .union
  member : ∃ c ∈ (s.model m).shape.slots, ∃ r, Relation.ReflTransGen s.RefersTo c r ∧
    s.RefersTo r n ∧ ¬ s.LeadsBack m r n

lemma RefersTo.variant (h : s.RefersTo r n) : (s.model r).variant = .reference := by
  rw [Model.variant, h]
  rfl

lemma RefersTo.mem_reached (h : s.RefersTo r n) (hclosed : s.IsClosed root)
    (hr : r ∈ s.reached root) : n ∈ s.reached root :=
  mem_reached_of_end hclosed .target hr (by rw [h]; rfl)

lemma mem_reached_of_refersTo (hclosed : s.IsClosed root) (hc : c ∈ s.reached root)
    (h : Relation.ReflTransGen s.RefersTo c r) : r ∈ s.reached root := by
  induction h with
  | refl => exact hc
  | tail _ hlast ih => exact hlast.mem_reached hclosed ih

/-- A reference is never led back to. -/
lemma not_leadsBack_of_refersTo {m : ModelId} (h : s.RefersTo r n) : ¬ s.LeadsBack root m r := by
  rintro ⟨hother, -⟩
  rw [h.variant] at hother
  cases hother

section Resolve

variable (hsafe : table.isSafe = Variant.isSelfContained) (hclosed : s.IsClosed root)
  (h : s.blueprint table rules root = .ok b)
include hsafe hclosed h

/-- Whoever follows references from the part of a model stays there, comes to the part of a
model through a reference that does not lead back, or to a part of any value. -/
lemma follow_cases (steps : Nat) (hc : c ∈ s.reached root) :
    follow b.target? steps (s.placeOf root c) = s.placeOf root c ∨
      (∃ r n, Relation.ReflTransGen s.RefersTo c r ∧ s.RefersTo r n ∧ ¬ s.LeadsBack root r n ∧
        follow b.target? steps (s.placeOf root c) = s.placeOf root n) ∨
      (b.part (follow b.target? steps (s.placeOf root c))).shape = .any := by
  induction steps generalizing c with
  | zero => exact .inl rfl
  | succ steps ih =>
    rw [follow]
    cases hnext : b.target? (s.placeOf root c) with
    | none => exact .inl rfl
    | some j =>
      obtain ⟨m, hm, hplace, t, hshape⟩ :=
        exists_reference h (Blueprint.variant_eq_reference_iff.2 ⟨j, hnext⟩)
      obtain rfl : c = m := placeOf_inj hc hm hplace
      obtain ⟨j', hj', hend⟩ := exists_target hsafe hclosed h hc hshape
      obtain rfl : j = j' := Option.some.inj (hnext.symm.trans hj')
      right
      rcases hend with ⟨-, hstand⟩ | ⟨hnot, rfl⟩
      · -- a part that stands for another refers to nothing
        have hstop : b.target? j = none := by
          rw [Blueprint.target?, hstand.shape]
          rfl
        have hstay : follow b.target? steps j = j := by cases steps <;> simp [follow, hstop]
        right
        show (b.part (follow b.target? steps j)).shape = .any
        rw [hstay, hstand.shape]
      · have ht : s.RefersTo c t := hshape
        rcases ih (ht.mem_reached hclosed hc) with hstay | ⟨r, n, hr, hn, hback, heq⟩ | hany
        · exact .inl ⟨c, t, .refl, ht, hnot, hstay⟩
        · exact .inl ⟨r, n, .head ht hr, hn, hback, heq⟩
        · exact .inr hany

/-- The part of a model at the start of a chain of references resolves to the part of the model
at its end, if the last reference does not lead back. -/
lemma resolve_eq_placeOf (hc : c ∈ s.reached root) (hr : Relation.ReflTransGen s.RefersTo c r)
    (hn : s.RefersTo r n) (hback : ¬ s.LeadsBack root r n)
    (hstop : (s.model n).variant ≠ .reference) :
    b.resolve (s.placeOf root c) = s.placeOf root n := by
  have hstep : ∀ {m t}, m ∈ s.reached root → s.RefersTo m t → ¬ s.LeadsBack root m t →
      b.target? (s.placeOf root m) = some (s.placeOf root t) := by
    intro m t hm ht hnot
    obtain ⟨j, hj, ⟨hback, -⟩ | ⟨-, rfl⟩⟩ := exists_target hsafe hclosed h hm ht
    · exact absurd hback hnot
    · exact hj
  have hlast := mem_reached_of_refersTo hclosed hc hr
  have hend : b.target? (s.placeOf root n) = none := by
    by_contra hsome
    rw [← blueprint_variant h (hn.mem_reached hclosed hlast)] at hstop
    exact hstop (Blueprint.variant_eq_reference_iff.2 (Option.ne_none_iff_exists'.1 hsome))
  -- every reference on the way leads to a reference, which is never led back to
  have htrail : ∃ path, Trail b.target? (s.placeOf root c) path (s.placeOf root n) := by
    induction hr using Relation.ReflTransGen.head_induction_on with
    | refl => exact ⟨_, .step (hstep hlast hn hback) (.last hend)⟩
    | @head c d hd hrest ih =>
      obtain ⟨path, htrail⟩ := ih (hd.mem_reached hclosed hc)
      have hnot : ¬ s.LeadsBack root c d := by
        rcases Relation.ReflTransGen.cases_head hrest with rfl | ⟨e, he, -⟩
        · exact not_leadsBack_of_refersTo hn
        · exact not_leadsBack_of_refersTo he
      exact ⟨_, .step (hstep hc hd hnot) htrail⟩
  obtain ⟨path, htrail⟩ := htrail
  refine htrail.follow_size (fun i j hij hi => ?_) (placeOf_lt_size h hc)
  exact (blueprint_corresponds hclosed h).inRange.edges i hi _ (Blueprint.edge_of_target? hij)

omit hsafe in
/-- A part has its name as its type if the table writes the name for its variant. -/
lemma type_eq_name_of_write (hn : n ∈ s.reached root)
    (hwrite : ∀ ctx, ctx.part.variant = (s.model n).variant →
      table.typeOf ctx = .ok ctx.part.name) :
    (b.part (s.placeOf root n)).type = (b.part (s.placeOf root n)).name := by
  obtain ⟨b₀, hlower, hrun⟩ := bind_eq_ok.1 h
  obtain ⟨progress, hwalk⟩ := walkState_walk b₀.edges b₀.size b₀.root
  have hcut := Blueprint.isCut_of_run hwalk (lower_bare hlower) hrun
  have hlt : s.placeOf root n < b₀.size := lower_size hlower ▸ placeOf_lt_length hn
  have hvariant : (b₀.part (s.placeOf root n)).variant = (s.model n).variant :=
    (lowerShape_mirrors (lower_part hlower hn).shape).variant_eq
  have hdone := hwalk.done_of_entered (lower_entered hclosed hlower hlt)
  rw [← Part.name_bare, hcut.part_kept hlt]
  exact Blueprint.type_eq_name (lower_bare hlower) hwalk hrun hlt
    (fun ctx hctx => hwrite ctx (hctx.trans hvariant)) (.inr (.inl hdone))

end Resolve

end Schema

/-! ## Outputs that hold others -/

/-- The model that an output was rendered for. -/
def Output.model (o : Output) : ModelId := (o.blueprint.map (·.main.source)).getD 0

lemma Output.model_eq {o : Output} {b : Blueprint} (hb : o.blueprint = some b) :
    o.model = b.main.source := by
  rw [model, hb]
  rfl

namespace Rust

variable {settings : Settings} {input : Input} {b b' : Blueprint} {o o' : Output}

/-- The parts whose types stand as they are in the definition of the root of a blueprint: those
that its members resolve to if it is a union, and those in its fields that are not boxed. -/
def inlineParts (b : Blueprint) : List ModelId :=
  match b.main.shape with
  | .union members => members.map b.resolve
  | shape => (shape.slots.filter fun id => slotType b id true = (b.part id).type).map b.resolve

/-- An output holds another by value if some type in its definition, outside of any other type,
is the name of the other and belongs to a part of the model of the other. -/
def HoldsByValue (o o' : Output) : Prop :=
  ∃ b b', o.blueprint = some b ∧ o'.blueprint = some b' ∧ ∃ k ∈ inlineParts b,
    form (b.part k).variant ≠ none ∧ (b.part k).source = b'.main.source ∧
      (b.part k).type = o'.name

/-- A field does not box exactly what is no reference. -/
lemma slotType_eq_type_iff {id : ModelId} :
    slotType b id true = (b.part id).type ↔ (b.part id).variant ≠ .reference := by
  simp only [slotType, if_true]
  split
  · next href =>
    refine iff_of_false (fun heq => ?_) (not_not.2 href)
    have hlength := congrArg String.length heq
    simp only [String.length_append] at hlength
    have hbox : "Box<".length = 4 := rfl
    omega
  · next href => exact iff_of_true rfl href

lemma mem_inlineParts_iff {k : ModelId} : k ∈ inlineParts b ↔ ∃ id ∈ b.main.shape.slots,
    (b.main.variant = .union ∨ (b.part id).variant ≠ .reference) ∧ b.resolve id = k := by
  unfold inlineParts Part.variant
  cases b.main.shape <;>
    simp [Shape.slots, Shape.variant, slotType_eq_type_iff, and_assoc, Part.variant]

lemma policy_applies_of_form {v : Variant} (h : form v ≠ none) : policy.applies v = true := by
  revert h
  cases v <;> decide

lemma typeOf_eq_name {ctx : TypeContext} (h : form ctx.part.variant ≠ none) :
    types.typeOf ctx = .ok ctx.part.name := by
  unfold TypeTable.typeOf
  revert h
  cases ctx.part.variant <;> simp [form, types] <;> rfl

section Renders

variable (hin : input.InRange) (h : (target settings).Renders input b o)
include hin h

lemma root_eq : b.root =
    ((target settings).splitSchema input).placeOf b.main.source b.main.source := by
  rw [Schema.placeOf_root (Target.isClosed_of_independent hin h.independent),
    Schema.blueprint_root h.blueprint]

lemma source_mem_reached :
    b.main.source ∈ ((target settings).splitSchema input).reached b.main.source :=
  (Schema.mem_reached_iff (Target.isClosed_of_independent hin h.independent)).2 .refl

lemma main_variant : b.main.variant =
    (((target settings).splitSchema input).model b.main.source).variant :=
  (Schema.blueprint_main (Target.lt_size_splitSchema hin.roots h.independent) h.blueprint).2.1

/-- A slot that resolves to a part with a definition of its own holds a reference: what is in a
slot has no definition of its own. -/
lemma reference_of_form {e : Edge} (he : e ∈ b.slotEdges b.root)
    (hform : form (b.part (b.resolve e.target)).variant ≠ none) :
    b.resolve e.target ≠ e.target ∧ (b.part e.target).variant = .reference := by
  have hother : b.resolve e.target ≠ e.target := by
    intro hstay
    rw [hstay] at hform
    have hnot : policy.applies (b.part e.target).variant = false :=
      h.applies_of_slots hin rfl (.single ⟨_, he, rfl⟩)
    rw [policy_applies_of_form hform] at hnot
    cases hnot
  refine ⟨hother, ?_⟩
  by_contra hvariant
  have hstop : b.target? e.target = none := by
    rw [Option.eq_none_iff_forall_ne_some]
    exact fun t ht => hvariant (Blueprint.variant_eq_reference_iff.2 ⟨t, ht⟩)
  refine hother ?_
  show follow b.target? b.size e.target = e.target
  cases b.size <;> simp [follow, hstop]

/-- What stands in the definition of a model as it is and has a definition of its own is what a
member of a union refers to. -/
lemma embeds_of_inline {k : ModelId} (hk : k ∈ inlineParts b)
    (hform : form (b.part k).variant ≠ none) :
    ((target settings).splitSchema input).Embeds b.main.source (b.part k).source := by
  obtain ⟨id, hslot, hinline, rfl⟩ := mem_inlineParts_iff.1 hk
  have hclosed := Target.isClosed_of_independent hin h.independent
  obtain ⟨i, hi⟩ := List.mem_iff_getElem?.1 hslot
  have he : (⟨b.root, .slot i, id⟩ : Edge) ∈ b.slotEdges b.root :=
    mem_mapIdx_edge.2 ⟨rfl, i, rfl, hi⟩
  obtain ⟨hother, hreference⟩ := reference_of_form hin h he hform
  have hunion := hinline.resolve_right (not_not.2 hreference)
  rw [main_variant hin h] at hunion
  obtain ⟨hcontent, -⟩ := mem_slotEdges_iff_content.1 he
  rw [root_eq hin h] at hcontent
  obtain ⟨c, hc, ⟨-, hstand⟩ | ⟨-, rfl⟩⟩ := Schema.exists_model_edge rfl hclosed h.blueprint
    (source_mem_reached hin h) hcontent
  · rw [Part.variant, hstand.shape] at hreference
    cases hreference
  · have hmem : c ∈ ((target settings).splitSchema input).reached b.main.source :=
      Schema.mem_reached_of_contents hclosed (.single ⟨_, hc, rfl⟩)
    have hslot : c ∈ (((target settings).splitSchema input).model b.main.source).shape.slots := by
      obtain ⟨-, hend⟩ := Schema.mem_edges.1 (Schema.mem_contentEdges.1 hc).1
      exact List.mem_of_getElem? hend
    rcases Schema.follow_cases rfl hclosed h.blueprint b.size hmem with
      hstay | ⟨r, n, hr, hn, hback, hresolve⟩ | hany
    · exact absurd hstay hother
    · have hlast := hn.mem_reached hclosed (Schema.mem_reached_of_refersTo hclosed hmem hr)
      have hsource : (b.part (b.resolve _)).source = n :=
        (congrArg (fun k => (b.part k).source) hresolve).trans
          (Schema.blueprint_source h.blueprint hlast)
      rw [hsource]
      exact ⟨hunion, c, hslot, r, hr, hn, hback⟩
    · rw [Part.variant, show (b.part (b.resolve _)).shape = .any from hany] at hform
      exact absurd rfl hform

/-- The part of a model with an output has the name of the output as its type. -/
lemma type_eq_output_name (h' : (target settings).Renders input b' o')
    (hreached : b'.main.source ∈ ((target settings).splitSchema input).reached b.main.source) :
    (b.part (((target settings).splitSchema input).placeOf b.main.source b'.main.source)).type =
      o'.name := by
  have hclosed := Target.isClosed_of_independent hin h.independent
  rw [Schema.type_eq_name_of_write hclosed h.blueprint hreached fun ctx hctx =>
    typeOf_eq_name (hctx ▸ main_variant hin h' ▸ h'.form), h'.name]
  -- both names are the final name of the model
  have hname := Schema.blueprint_modelName h.blueprint hreached
  have hname' := (Schema.blueprint_main
    (Target.lt_size_splitSchema hin.roots h'.independent) h'.blueprint).2.2
  exact Except.ok.inj (hname.symm.trans hname')

/-- What a member of a union refers to stands in its definition under its own name. -/
lemma inline_of_embeds (h' : (target settings).Renders input b' o')
    (hembeds : ((target settings).splitSchema input).Embeds b.main.source b'.main.source) :
    ∃ k ∈ inlineParts b, form (b.part k).variant ≠ none ∧
      (b.part k).source = b'.main.source ∧ (b.part k).type = o'.name := by
  obtain ⟨hunion, c, hslot, r, hr, hn, hback⟩ := hembeds
  have hclosed := Target.isClosed_of_independent hin h.independent
  obtain ⟨i, hi⟩ := List.mem_iff_getElem?.1 hslot
  have he : (⟨b.main.source, .slot i, c⟩ : Edge) ∈
      ((target settings).splitSchema input).contentEdges b.main.source :=
    Schema.mem_contentEdges.2 ⟨Schema.mem_edges.2 ⟨rfl, hi⟩, by simp⟩
  have hc : c ∈ ((target settings).splitSchema input).reached b.main.source :=
    Schema.mem_reached_of_contents hclosed (.single ⟨_, he, rfl⟩)
  have hlast := hn.mem_reached hclosed (Schema.mem_reached_of_refersTo hclosed hc hr)
  have hvariant := Schema.blueprint_variant h.blueprint hlast
  have hform : form (((target settings).splitSchema input).model b'.main.source).variant ≠ none :=
    main_variant hin h' ▸ h'.form
  have hstop : (((target settings).splitSchema input).model b'.main.source).variant ≠
      .reference := by
    intro href
    rw [href] at hform
    exact absurd rfl hform
  have hresolve := Schema.resolve_eq_placeOf rfl hclosed h.blueprint hc hr hn hback hstop
  have hnot : ¬ ((target settings).splitSchema input).LeadsBack b.main.source b.main.source c := by
    rcases Relation.ReflTransGen.cases_head hr with rfl | ⟨d, hd, -⟩
    · exact Schema.not_leadsBack_of_refersTo hn
    · exact Schema.not_leadsBack_of_refersTo hd
  obtain ⟨j, hj, ⟨hback, -⟩ | ⟨-, rfl⟩⟩ := Schema.exists_part_edge rfl hclosed h.blueprint
    (source_mem_reached hin h) he
  · exact absurd hback hnot
  · rw [← root_eq hin h] at hj
    obtain ⟨-, hend⟩ := Blueprint.mem_edges.1 (Blueprint.mem_contentEdges.1 hj).1
    refine ⟨_, mem_inlineParts_iff.2 ⟨_, List.mem_of_getElem? hend, .inl ?_, hresolve⟩, ?_, ?_, ?_⟩
    · rw [main_variant hin h, hunion]
    · rw [hvariant]
      exact hform
    · exact Schema.blueprint_source h.blueprint hlast
    · exact type_eq_output_name hin h h' hlast

end Renders

/-- Rendered outputs hold each other by value exactly if the model of the one is a union with a
member that refers to the model of the other. -/
lemma holdsByValue_iff (hin : input.InRange) (h : (target settings).Renders input b o)
    (h' : (target settings).Renders input b' o') (hb : o.blueprint = some b)
    (hb' : o'.blueprint = some b') :
    HoldsByValue o o' ↔
      ((target settings).splitSchema input).Embeds b.main.source b'.main.source := by
  constructor
  · rintro ⟨c, c', hc, hc', k, hk, hform, hsource, -⟩
    obtain rfl : b = c := Option.some.inj (hb.symm.trans hc)
    obtain rfl : b' = c' := Option.some.inj (hb'.symm.trans hc')
    exact hsource ▸ embeds_of_inline hin h hk hform
  · intro hembeds
    exact ⟨b, b', hb, hb', inline_of_embeds hin h h' hembeds⟩

/-- The relation of holding by value between the outputs of a batch. -/
def ByValue (outputs : List Output) (o o' : Output) : Prop :=
  o ∈ outputs ∧ o' ∈ outputs ∧ HoldsByValue o o'

/-- The relation between the models of a batch whose outputs hold each other by value. -/
def EmbedsIn (settings : Settings) (input : Input) (m n : ModelId) : Prop :=
  m ∈ (target settings).independent input ∧ n ∈ (target settings).independent input ∧
    ((target settings).splitSchema input).Embeds m n

section Batch

variable {outputs : List Output} (hin : input.InRange)
  (hgenerate : (target settings).generate input = .ok outputs)
include hin hgenerate

lemma holdsByValue_iff_of_mem (ho : o ∈ outputs) (ho' : o' ∈ outputs) (hb : o.blueprint = some b)
    (hb' : o'.blueprint = some b') : HoldsByValue o o' ↔
      ((target settings).splitSchema input).Embeds b.main.source b'.main.source :=
  holdsByValue_iff hin (Target.renders_of_blueprint hin.roots hgenerate ho hb)
    (Target.renders_of_blueprint hin.roots hgenerate ho' hb') hb hb'

/-- The model of an output that holds another holds the model of the other. -/
lemma ByValue.embedsIn (h : ByValue outputs o o') : EmbedsIn settings input o.model o'.model := by
  obtain ⟨ho, ho', hholds⟩ := h
  have ⟨b, b', hb, hb', _⟩ := hholds
  rw [Output.model_eq hb, Output.model_eq hb']
  exact ⟨(Target.renders_of_blueprint hin.roots hgenerate ho hb).independent,
    (Target.renders_of_blueprint hin.roots hgenerate ho' hb').independent,
    (holdsByValue_iff_of_mem hin hgenerate ho ho' hb hb').1 hholds⟩

/-- Every union of a batch has an output. -/
lemma exists_union_output (hpresets : settings.presets = []) {m : ModelId}
    (hm : m ∈ (target settings).independent input)
    (hunion : (((target settings).splitSchema input).model m).variant = .union) :
    ∃ o ∈ outputs, ∃ b, o.blueprint = some b ∧ b.main.source = m := by
  obtain ⟨outputs₁, hgenerate₁, hexists⟩ :=
    (Stock.rust.isPlain hpresets).exists_output hin.roots
  obtain rfl : outputs = outputs₁ := Except.ok.inj (hgenerate.symm.trans hgenerate₁)
  have hlt := Target.lt_size_of_independent hin.roots hm
  have hform : form (input.schema.model m).variant ≠ none := by
    rw [← ((target settings).splitSchema_isSplitFrom input).variant m hlt, hunion]
    decide
  obtain ⟨o, ho, -, -, b, hb, hsource, -⟩ := hexists m hm hform
  exact ⟨o, ho, b, hb, hsource⟩

/-- A chain of models that hold each other is one of their outputs: the start of each step is a
union, which has an output. -/
lemma byValue_of_embedsIn (hpresets : settings.presets = []) {m : ModelId} (ho' : o' ∈ outputs)
    (hb' : o'.blueprint = some b')
    (hchain : Relation.TransGen (EmbedsIn settings input) m b'.main.source) (ho : o ∈ outputs)
    (hb : o.blueprint = some b) (hm : b.main.source = m) :
    Relation.TransGen (ByValue outputs) o o' := by
  induction hchain using Relation.TransGen.head_induction_on generalizing o b with
  | single hstep =>
    obtain ⟨-, -, hembeds⟩ := hm ▸ hstep
    exact .single ⟨ho, ho', (holdsByValue_iff_of_mem hin hgenerate ho ho' hb hb').2 hembeds⟩
  | head hstep hrest ih =>
    obtain ⟨-, -, hembeds⟩ := hm ▸ hstep
    obtain ⟨n, ⟨hindependent, -, hnext⟩, -⟩ := Relation.TransGen.head'_iff.1 hrest
    obtain ⟨o₁, ho₁, b₁, hb₁, rfl⟩ :=
      exists_union_output hin hgenerate hpresets hindependent hnext.union
    exact .head ⟨ho, ho₁, (holdsByValue_iff_of_mem hin hgenerate ho ho₁ hb hb₁).2 hembeds⟩
      (ih ho₁ hb₁ rfl)

end Batch

/-- The outputs of a batch hold each other by value where unions have members that refer to other
models, through references the last of which does not lead back; and they do so in a cycle
exactly if the models do. -/
theorem holdsByValue_acyclic_iff (settings : Settings) (input : Input)
    (hpresets : settings.presets = []) (hin : input.InRange) :
    ∃ outputs, (target settings).generate input = .ok outputs ∧
      (∀ o ∈ outputs, ∀ o' ∈ outputs, ∀ b b', o.blueprint = some b → o'.blueprint = some b' →
        (HoldsByValue o o' ↔
          ((target settings).splitSchema input).Embeds b.main.source b'.main.source)) ∧
      ((∀ o, ¬ Relation.TransGen (ByValue outputs) o o) ↔
        ∀ m, ¬ Relation.TransGen (EmbedsIn settings input) m m) := by
  obtain ⟨outputs, hgenerate, -⟩ := (Stock.rust.isPlain hpresets).generate hin.roots
  refine ⟨outputs, hgenerate, fun o ho o' ho' b b' hb hb' =>
    holdsByValue_iff_of_mem hin hgenerate ho ho' hb hb', ?_⟩
  constructor
  · intro hacyclic m hcycle
    obtain ⟨n, ⟨hindependent, -, hembeds⟩, -⟩ := Relation.TransGen.head'_iff.1 hcycle
    obtain ⟨o, ho, b, hb, rfl⟩ :=
      exists_union_output hin hgenerate hpresets hindependent hembeds.union
    exact hacyclic o (byValue_of_embedsIn hin hgenerate hpresets ho hb hcycle ho hb rfl)
  · intro hacyclic o hcycle
    exact hacyclic o.model (hcycle.lift Output.model fun _ _ h => h.embedsIn hin hgenerate)

/-- Two unions, each with the other as its one member. -/
def mutualInput : Input where
  schema := ⟨#[Schema.plain "u" (.union [1]), Schema.plain "v" (.union [0])]⟩
  roots := [("u", 0)]

lemma mutualInput_inRange : mutualInput.InRange where
  roots := by decide
  links := (by decide : ∀ id < mutualInput.schema.size, ∀ e ∈ mutualInput.schema.edges id,
    e.target < mutualInput.schema.size)

/-- Each union has become a member of the other through a reference. -/
def mutualSplit : Schema :=
  ⟨#[Schema.plain "u" (.union [2]), Schema.plain "v" (.union [3]),
    Schema.plain "v" (.reference 1), Schema.plain "u" (.reference 0)]⟩

lemma mutualInput_splitSchema :
    (Stock.rust.target {}).splitSchema mutualInput = mutualSplit := by
  cbv

lemma mutualInput_independent : (target {}).independent mutualInput = [0, 1] := by
  cbv

/-- The outputs of the two unions, each with the other in its definition. -/
lemma mutualInput_outputs : ∃ outputs, (target {}).generate mutualInput = .ok outputs ∧
    ∃ o o', ByValue outputs o o' ∧ ByValue outputs o' o := by
  obtain ⟨outputs, hgenerate, hall⟩ := (Stock.rust.isPlain
    (rfl : ({} : Settings).presets = [])).exists_output mutualInput_inRange.roots
  have hmem : 0 ∈ (target {}).independent mutualInput ∧
      1 ∈ (target {}).independent mutualInput := by
    simp [mutualInput_independent]
  obtain ⟨o, ho, -, hname, b, hb, hsource, hblueprint⟩ := hall 0 hmem.1 (by decide)
  obtain ⟨o', ho', -, hname', b', hb', hsource', hblueprint'⟩ := hall 1 hmem.2 (by decide)
  rw [mutualInput_splitSchema] at hblueprint hblueprint'
  obtain ⟨hinline, hform, hpart, htype⟩ := Schema.holds_of_within hblueprint 12
    (P := fun b => 2 ∈ inlineParts b ∧ form (b.part 2).variant ≠ none ∧ (b.part 2).source = 1 ∧
      (b.part 2).type = "V") (by decide +kernel)
  obtain ⟨hinline', hform', hpart', htype'⟩ := Schema.holds_of_within hblueprint' 12
    (P := fun b => 2 ∈ inlineParts b ∧ form (b.part 2).variant ≠ none ∧ (b.part 2).source = 0 ∧
      (b.part 2).type = "U") (by decide +kernel)
  have hu : o.name = "U" := hname.trans (by decide +kernel)
  have hv : o'.name = "V" := hname'.trans (by decide +kernel)
  refine ⟨outputs, hgenerate, o, o', ⟨ho, ho', b, b', hb, hb', 2, hinline, hform, ?_, ?_⟩,
    ⟨ho', ho, b', b, hb', hb, 2, hinline', hform', ?_, ?_⟩⟩
  · rw [hpart, hsource']
  · rw [htype, hv]
  · rw [hpart', hsource]
  · rw [htype', hu]

/-- The two unions hold each other by value. -/
theorem holdsByValue_mutualInput : ¬ ∀ outputs, (target {}).generate mutualInput = .ok outputs →
    ∀ o, ¬ Relation.TransGen (ByValue outputs) o o := by
  intro hacyclic
  obtain ⟨outputs, hgenerate, o, o', hholds, hholds'⟩ := mutualInput_outputs
  exact hacyclic outputs hgenerate o (.head hholds (.single hholds'))

/-- The models of the two unions refer to each other in a cycle that does not lead back. -/
theorem mutualInput_embeds : ∃ m, Relation.TransGen (EmbedsIn {} mutualInput) m m := by
  obtain ⟨outputs, hgenerate, o, o', hholds, hholds'⟩ := mutualInput_outputs
  obtain ⟨outputs', hgenerate', -, hiff⟩ :=
    holdsByValue_acyclic_iff {} mutualInput rfl mutualInput_inRange
  obtain rfl : outputs = outputs' := Except.ok.inj (hgenerate.symm.trans hgenerate')
  by_contra hnone
  push Not at hnone
  exact hiff.2 hnone o (.head hholds (.single hholds'))

end Rust

end Modelsmith
