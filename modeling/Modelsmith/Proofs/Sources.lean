/-
# Sources of parts

A part records the model that it comes from.  Neither typing nor rendering ever looks at this
record: without it they do the same.  So blueprints that differ in the records only are typed
alike and rendered alike.
-/
import Modelsmith.Proofs.Generation
import Modelsmith.Proofs.TypeConsistency

namespace Modelsmith

/-! ## Parts and blueprints without sources -/

/-- A part without the record of where it comes from. -/
def Part.unsourced (p : Part) : Part := { p with source := 0 }

/-- A blueprint without the records of where its parts come from. -/
def Blueprint.unsourced (b : Blueprint) : Blueprint :=
  { b with parts := b.parts.map Part.unsourced }

namespace Part

variable (p : Part)

@[simp] lemma name_unsourced : p.unsourced.name = p.name := rfl
@[simp] lemma type_unsourced : p.unsourced.type = p.type := rfl
@[simp] lemma options_unsourced : p.unsourced.options = p.options := rfl
@[simp] lemma shape_unsourced : p.unsourced.shape = p.shape := rfl
@[simp] lemma variant_unsourced : p.unsourced.variant = p.variant := rfl

end Part

namespace Blueprint

variable {b : Blueprint} {id : ModelId}

@[simp] lemma size_unsourced : b.unsourced.size = b.size := by
  simp [unsourced, size]

@[simp] lemma root_unsourced : b.unsourced.root = b.root := rfl

@[simp] lemma part_unsourced : b.unsourced.part id = (b.part id).unsourced := by
  by_cases hid : id < b.parts.size
  · simp [unsourced, part, hid]
  · simp [unsourced, part, hid, Part.unsourced]

@[simp] lemma main_unsourced : b.unsourced.main = b.main.unsourced := part_unsourced

@[simp] lemma resolve_unsourced : b.unsourced.resolve id = b.resolve id := by
  simp [resolve]

@[simp] lemma slotEdges_unsourced : b.unsourced.slotEdges = b.slotEdges := by
  funext id
  simp [slotEdges]

@[simp] lemma contentEdges_unsourced : b.unsourced.contentEdges = b.contentEdges := by
  funext id
  simp [contentEdges]

@[simp] lemma edges_unsourced : b.unsourced.edges = b.edges := by
  funext id
  simp [edges]

lemma allAllow_unsourced (ids : List ModelId) : b.unsourced.allAllow ids = b.allAllow ids := by
  funext t
  simp [allAllow]

@[simp] lemma derives_unsourced : b.unsourced.derives id = b.derives id := by
  simp [derives, contents, allAllow_unsourced]

@[simp] lemma propertyOf_unsourced (v : Visit) : b.unsourced.propertyOf v = b.propertyOf v := by
  unfold propertyOf
  split <;> simp

/-- A change of a part that does not look at sources can be made without them. -/
lemma modify_unsourced {f : Part → Part} (hf : ∀ p, (f p).unsourced = f p.unsourced) :
    (b.modify id f).unsourced = b.unsourced.modify id f := by
  simp only [unsourced, modify, mk.injEq, and_true]
  apply Array.ext
  · simp
  · intro i hi hi'
    simp only [Array.getElem_map, Array.getElem_modify]
    split
    · exact hf _
    · rfl

/-- Adding a part and forgetting its source is adding the part without one. -/
lemma push_unsourced (p : Part) : ({ b with parts := b.parts.push p } : Blueprint).unsourced =
    { b.unsourced with parts := b.unsourced.parts.push p.unsourced } := by
  simp [unsourced]

lemma redirect_unsourced (e : Edge) :
    (b.redirect e id).unsourced = b.unsourced.redirect e id := by
  unfold redirect
  split
  · exact modify_unsourced fun _ => rfl
  · exact modify_unsourced fun _ => rfl
  · rfl

lemma resolveDiscriminator_unsourced :
    (b.resolveDiscriminator id).unsourced = b.unsourced.resolveDiscriminator id := by
  have htypes : ∀ name members, b.unsourced.discriminatorTypes name members =
      b.discriminatorTypes name members := by
    intro name members
    simp [discriminatorTypes]
  simp only [resolveDiscriminator, part_unsourced, Part.options_unsourced, Part.shape_unsourced,
    htypes]
  split
  · split
    · exact modify_unsourced fun _ => rfl
    · rfl
  · rfl

end Blueprint

/-! ## Typing -/

/-- Naming rules that write constants without looking at sources. -/
def NamingRules.IgnoresSources (rules : NamingRules) : Prop :=
  ∀ (b : Blueprint) (p : Part) (value : Json),
    rules.constant b.unsourced p.unsourced value = rules.constant b p value

lemma NamingRules.ofConvention_ignoresSources (c : Naming.Convention) (separator : String)
    (valueText : Json → String) : (ofConvention c separator valueText).IgnoresSources := by
  intro b p value
  have hmember : enumMember? separator b.unsourced p.unsourced value =
      enumMember? separator b p value := by
    simp only [enumMember?, Part.shape_unsourced, Blueprint.resolve_unsourced,
      Blueprint.part_unsourced]
    cases p.shape.target? <;> rfl
  simp only [ofConvention, hmember]

/-- A table that looks at no more than it may does not look at sources. -/
lemma TypeTable.IsLocal.typeOf_unsourced {table : TypeTable} (hlocal : table.IsLocal)
    (b : Blueprint) (id : ModelId) (property : Option (Property String)) :
    table.typeOf { blueprint := b.unsourced, id, property } =
      table.typeOf { blueprint := b, id, property } := by
  refine hlocal.typeOf _ _ ⟨?_, ?_, ?_, fun _ => ?_, fun _ => ?_, fun _ j _ => ?_⟩ <;>
    simp [TypeContext.part, TypeContext.resolvedName, TypeContext.typeOf]

/-- A step that commutes with a change commutes with it after any computation. -/
lemma map_bind_comm {ε α : Type} {u : α → α} {x x' : Except ε α} {f f' : α → Except ε α}
    (hx : u <$> x = x') (hf : ∀ a, u <$> f a = f' (u a)) : u <$> (x >>= f) = x' >>= f' := by
  subst hx
  cases x with
  | error e => rfl
  | ok a => exact hf a

/-- A run of steps that commute with a change commutes with it. -/
lemma map_foldlM_comm {ε α β : Type} {u : α → α} {f : α → β → Except ε α}
    (hf : ∀ a b, u <$> f a b = f (u a) b) (bs : List β) (a : α) :
    u <$> bs.foldlM f a = bs.foldlM f (u a) := by
  induction bs generalizing a with
  | nil => rfl
  | cons b bs ih =>
    rw [List.foldlM_cons, List.foldlM_cons]
    exact map_bind_comm (hf a b) ih

namespace Blueprint

variable {table : TypeTable} {rules : NamingRules} (b : Blueprint) (id : ModelId)

lemma assignType_unsourced (hlocal : table.IsLocal) (property : Option (Property String)) :
    unsourced <$> b.assignType table id property = b.unsourced.assignType table id property := by
  simp only [assignType, part_unsourced, Part.name_unsourced, hlocal.typeOf_unsourced]
  cases blame (b.part id).name (table.typeOf { blueprint := b, id, property }) with
  | error failure => rfl
  | ok type => exact congrArg Except.ok (modify_unsourced fun _ => rfl)

lemma assignConstant_unsourced (hrules : rules.IgnoresSources) :
    unsourced <$> b.assignConstant rules id = b.unsourced.assignConstant rules id := by
  simp only [assignConstant, part_unsourced, Part.name_unsourced, Part.options_unsourced]
  cases (b.part id).options.constant with
  | none => rfl
  | some c =>
    simp only [hrules b]
    cases blame (b.part id).name (rules.constant b (b.part id) c.value) with
    | error failure => rfl
    | ok text => exact congrArg Except.ok (modify_unsourced fun _ => rfl)

section Typing

variable (hlocal : table.IsLocal) (hrules : rules.IgnoresSources)
include hlocal hrules

lemma cutCycle_unsourced (v : Visit) :
    unsourced <$> b.cutCycle table rules v = b.unsourced.cutCycle table rules v := by
  have hpush : ({ b with
      parts := b.parts.push { b.part v.node with type := "", shape := .any } } :
        Blueprint).unsourced =
      { b.unsourced with
        parts := b.unsourced.parts.push
          { b.unsourced.part v.node with type := "", shape := .any } } := by
    rw [push_unsourced, part_unsourced]
    rfl
  unfold cutCycle
  simp only [← hpush, size_unsourced, propertyOf_unsourced]
  refine map_bind_comm (assignType_unsourced _ _ hlocal _) fun c => ?_
  refine map_bind_comm (assignConstant_unsourced _ _ hrules) fun c => ?_
  cases v.via with
  | none => rfl
  | some e => exact congrArg Except.ok (redirect_unsourced e)

omit hlocal in
/-- What is left to do when a part has its type is the same without sources. -/
lemma finish_unsourced {id : ModelId} (variant : Variant) :
    unsourced <$> (match variant with
      | .reference => b.assignConstant rules id
      | .union => pure (b.resolveDiscriminator id)
      | _ => pure b : Except Failure Blueprint) =
    match variant with
      | .reference => b.unsourced.assignConstant rules id
      | .union => pure (b.unsourced.resolveDiscriminator id)
      | _ => pure b.unsourced := by
  split
  · exact assignConstant_unsourced _ _ hrules
  · exact congrArg Except.ok resolveDiscriminator_unsourced
  · rfl

/-- An event does the same without sources. -/
lemma typeEvent_unsourced (event : Event) :
    unsourced <$> typeEvent table rules b event = typeEvent table rules b.unsourced event := by
  cases event with
  | enter v =>
    simp only [typeEvent, part_unsourced, Part.variant_unsourced, propertyOf_unsourced]
    split
    · rfl
    · refine map_bind_comm (assignType_unsourced _ _ hlocal _) fun c => ?_
      split
      · rfl
      · exact assignConstant_unsourced _ _ hrules
  | again v isOpen =>
    simp only [typeEvent, part_unsourced, Part.variant_unsourced]
    split
    · exact cutCycle_unsourced b hlocal hrules v
    · rfl
  | leave v =>
    simp only [typeEvent, part_unsourced, Part.variant_unsourced, propertyOf_unsourced]
    split
    · exact finish_unsourced b hrules _
    · refine map_bind_comm (assignType_unsourced _ _ hlocal _) fun c => ?_
      exact map_bind_comm (assignConstant_unsourced _ _ hrules) fun d => finish_unsourced d hrules _

/-- Blueprints that differ in sources only are typed alike. -/
theorem assignTypes_unsourced :
    unsourced <$> b.assignTypes table rules = b.unsourced.assignTypes table rules := by
  rw [assignTypes, assignTypes, edges_unsourced, size_unsourced, root_unsourced]
  exact map_foldlM_comm (fun c event => typeEvent_unsourced c hlocal hrules event) _ b

end Typing

end Blueprint

/-! ## Rendering -/

/-- A scene without sources. -/
def Scene.unsourced (scene : Scene) : Scene :=
  { scene with blueprint := scene.blueprint.unsourced }

namespace Scene

variable (scene : Scene)

@[simp] lemma blueprint_unsourced : scene.unsourced.blueprint = scene.blueprint.unsourced := rfl
@[simp] lemma id_unsourced : scene.unsourced.id = scene.id := rfl
@[simp] lemma form_unsourced : scene.unsourced.form = scene.form := rfl
@[simp] lemma indentation_unsourced : scene.unsourced.indentation = scene.indentation := rfl
@[simp] lemma part_unsourced : scene.unsourced.part = scene.part.unsourced :=
  Blueprint.part_unsourced

end Scene

/-- A hook that does not look at sources. -/
def Hook.IgnoresSources (f : Hook) : Prop := ∀ scene call, f scene.unsourced call = f scene call

/-- A preset whose hooks do not look at sources. -/
def Preset.IgnoresSources (p : Preset) : Prop :=
  ∀ group ∈ p.hooks, ∀ entry ∈ group.2, entry.2.IgnoresSources

lemma Preset.IgnoresSources.find? {p : Preset} (hp : p.IgnoresSources) {form hook : String}
    {f : Hook} (h : p.find? form hook = some f) : f.IgnoresSources := by
  obtain ⟨hooks, hform, hhook⟩ := Option.bind_eq_some_iff.1 h
  exact hp _ (mem_of_lookup hform) _ (mem_of_lookup hhook)

/-- Steps that do the same for the members of a list make the same run. -/
lemma foldlM_congr_mem {m : Type → Type} [Monad m] {α β : Type} {f g : β → α → m β}
    {xs : List α} (h : ∀ x ∈ xs, ∀ b, f b x = g b x) (b : β) : xs.foldlM f b = xs.foldlM g b := by
  induction xs generalizing b with
  | nil => rfl
  | cons x xs ih =>
    rw [List.foldlM_cons, List.foldlM_cons, h x (by simp)]
    exact congrArg _ (funext (ih fun y hy => h y (by simp [hy])))

/-- Hooks that do not look at sources do alike without them. -/
lemma Chain.script_unsourced {chain : Chain}
    (hchain : ∀ entry ∈ chain, entry.preset.IgnoresSources) (scene : Scene) :
    chain.script scene.unsourced = chain.script scene := by
  funext hook item
  refine foldlM_congr_mem (fun entry hentry content => ?_) ""
  rw [Configured.script, Configured.script, Scene.form_unsourced]
  cases hf : entry.preset.find? scene.form hook with
  | none => rfl
  | some f => exact (hchain entry hentry).find? hf scene _

/-- A target whose presets do not look at sources renders alike without them. -/
lemma Target.render_unsourced {t : Target}
    (hchain : ∀ entry ∈ t.chain, entry.preset.IgnoresSources) (b : Blueprint) :
    t.render b.unsourced = t.render b := by
  simp only [render, Blueprint.main_unsourced, Part.variant_unsourced, Part.name_unsourced]
  cases t.form b.main.variant with
  | none => rfl
  | some form =>
    have hscene : t.scene b.unsourced form = (t.scene b form).unsourced := rfl
    simp only [hscene, Scene.render, Chain.run, Chain.script_unsourced hchain,
      Scene.part_unsourced, Part.name_unsourced]

/-! ## The presets of the targets -/

lemma Sketch.preset_ignoresSources : Sketch.preset.IgnoresSources := by
  have hhooks : preset.hooks =
      [("class", [(HookName.whole, classHook), (HookName.property, propertyHook)])] := rfl
  simp only [Preset.IgnoresSources, hhooks, List.forall_mem_singleton, List.forall_mem_cons]
  refine ⟨fun scene call => ?_, fun scene call => ?_⟩
  · simp [classHook]
  · simp [propertyHook]

namespace TypeScript

variable {b : Blueprint}

@[simp] lemma constantText?_unsourced :
    constantText? b.unsourced = constantText? b := by
  funext p
  simp [constantText?]

@[simp] lemma propertyType_unsourced : propertyType b.unsourced = propertyType b := by
  funext p
  simp [propertyType]

@[simp] lemma signature_unsourced : signature b.unsourced = signature b := by
  funext p
  simp [signature]

@[simp] lemma definition_unsourced (scene : Scene) :
    definition scene.unsourced = definition scene := rfl

lemma preset_ignoresSources : preset.IgnoresSources := by
  simp only [Preset.IgnoresSources, preset, List.forall_mem_singleton, List.forall_mem_cons]
  refine ⟨⟨?_, ?_, ?_, ?_, ?_⟩, ⟨?_, ?_⟩, ⟨?_, ?_⟩, ?_⟩ <;> intro scene call
  · simp [classHook]
  · simp [fieldHook]
  · simp [creationHook]
  · simp [getterHook]
  · simp [setterHook]
  · simp [interfaceHook]
  · simp [propertyHook]
  · simp [enumHook]
  · rfl
  · simp [aliasHook]

end TypeScript

namespace Rust

variable {b : Blueprint}

@[simp] lemma slotType_unsourced : slotType b.unsourced = slotType b := by
  funext id required
  simp [slotType]

@[simp] lemma isFlat_unsourced : isFlat b.unsourced = isFlat b := by
  funext id
  simp [isFlat]

@[simp] lemma definition_unsourced (scene : Scene) :
    definition scene.unsourced = definition scene := rfl

@[simp] lemma deriveLine_unsourced (scene : Scene) :
    deriveLine scene.unsourced = deriveLine scene := by
  simp [deriveLine]

lemma preset_ignoresSources : preset.IgnoresSources := by
  simp only [Preset.IgnoresSources, preset, List.forall_mem_singleton, List.forall_mem_cons]
  refine ⟨⟨?_, ?_, ?_, ?_⟩, ⟨?_, ?_, ?_, ?_⟩, ⟨?_, ?_, ?_⟩, ⟨?_, ?_, ?_, ?_⟩⟩ <;> intro scene call
  · simp [structHook]
  · simp [deriveHook]
  · simp [fieldAttributesHook]
  · simp [fieldHook]
  · simp [enumHook]
  · simp [deriveHook]
  · rfl
  · rfl
  · simp [tupleHook]
  · simp [deriveHook]
  · simp [positionHook]
  · simp [unionHook]
  · simp [unionAttributesHook]
  · simp [memberAttributesHook]
  · simp [memberHook]

end Rust

end Modelsmith
