/-
# Generated outputs

Each of the three targets, without further presets, gives one output for every independent
model of an input.  The output of a model is skipped if the target has no form for models of
its variant, and has the final name of the model otherwise.
-/
import Modelsmith.Proofs.Names
import Modelsmith.Proofs.Rendering
import Modelsmith.Proofs.Split.Several
import Modelsmith.Target.Rust
import Modelsmith.Target.TypeScript

namespace Modelsmith

/-! ## The root of a blueprint -/

namespace Schema

variable {s : Schema} {table : TypeTable} {rules : NamingRules} {root : ModelId} {b : Blueprint}

/-- The part that a blueprint is for is the part of its root. -/
lemma blueprint_main (hroot : root < s.size) (h : s.blueprint table rules root = .ok b) :
    b.main.source = root ∧ b.main.variant = (s.model root).variant ∧
      rules.modelName s (s.model root) = .ok b.main.name := by
  obtain ⟨rest, hrest⟩ := walkOrder_eq_cons_of_lt s.edges hroot
  have hreached : root ∈ s.reached root := by simp [reached, hrest]
  have hmain : b.main = b.part (s.placeOf root root) := by
    rw [Blueprint.main, blueprint_root h, placeOf, reached, hrest, List.idxOf_cons_self]
  rw [hmain]
  exact ⟨blueprint_source h hreached, blueprint_variant h hreached, blueprint_modelName h hreached⟩

end Schema

/-! ## Targets that always render -/

/-- A target that names by a convention and neither refuses a type nor fails to render. -/
structure Target.IsPlain (t : Target) (c : Naming.Convention) : Prop where
  types : t.types.IsTotal
  rules : ∃ separator valueText, t.rules = .ofConvention c separator valueText
  sparesMark : c.SparesMark
  staged : ∀ entry ∈ t.chain, entry.preset.IsStaged

/-- What the output of a model is: it is skipped if the target has no form for the model, and
otherwise has the final name of the model, which is the name in the blueprint of the model. -/
structure Target.IsOutputOf (t : Target) (c : Naming.Convention) (s : Schema) (id : ModelId)
    (o : Output) : Prop where
  skipped : o.isSkipped = true ↔ t.form (s.model id).variant = none
  name : o.isSkipped = false → o.name = c.standalone .model (s.model id).name
  blueprint : o.isSkipped = false →
    ∃ b, o.blueprint = some b ∧ b.main.source = id ∧ b.main.name = o.name

namespace Target

variable {t : Target} {c : Naming.Convention}

/-- Rendering fails only where there is no form. -/
lemma IsPlain.render (ht : t.IsPlain c) (b : Blueprint) :
    (t.form b.main.variant = none ∧
        t.render b = .error (.failed (.unsupportedModel b.main.name b.main.variant))) ∨
      ∃ form r, t.form b.main.variant = some form ∧ t.render b = .ok r ∧
        r.name = b.main.name := by
  unfold Target.render
  cases hform : t.form b.main.variant with
  | none => exact .inl ⟨rfl, rfl⟩
  | some form =>
    obtain ⟨r, hr, hname⟩ := Scene.render_of_staged ht.staged (t.scene b form) b.main.name
    exact .inr ⟨form, r, rfl, hr, hname⟩

/-- Every model has its output. -/
lemma IsPlain.output (ht : t.IsPlain c) {s : Schema} {id : ModelId} (hid : id < s.size) :
    ∃ o, t.output s id = .ok o ∧ t.IsOutputOf c s id o := by
  obtain ⟨separator, valueText, hrules⟩ := ht.rules
  have htotal : t.rules.IsTotal := hrules ▸ NamingRules.ofConvention_isTotal _ _ _
  obtain ⟨b, hb⟩ := Schema.isOk_blueprint ht.types htotal s id
  obtain ⟨hsource, hvariant, hname⟩ := Schema.blueprint_main hid hb
  have hfinal : b.main.name = c.standalone .model (s.model id).name := by
    rw [hrules] at hname
    exact (pure_eq_ok.1 hname).symm
  have hne : b.main.name ≠ "" := by
    rw [hfinal]
    exact (Naming.Convention.isName_identifier .model [] ht.sparesMark _).ne_empty
  rcases ht.render b with ⟨hform, hrender⟩ | ⟨form, r, hform, hrender, hr⟩
  · refine ⟨{}, ?_, ⟨?_, ?_, ?_⟩⟩
    · refine bind_eq_ok.2 ⟨b, mapError_eq_ok.2 hb, ?_⟩
      rw [hrender]
      rfl
    · simp [Output.isSkipped, ← hvariant, hform]
    · simp [Output.isSkipped]
    · simp [Output.isSkipped]
  · refine ⟨{ name := r.name, text := r.text, dependencies := r.dependencies,
              blueprint := some b }, ?_, ⟨?_, ?_, ?_⟩⟩
    · refine bind_eq_ok.2 ⟨b, mapError_eq_ok.2 hb, ?_⟩
      rw [hrender]
      rfl
    · simp [Output.isSkipped, hr, hne, ← hvariant, hform]
    · exact fun _ => hr.trans hfinal
    · exact fun _ => ⟨b, rfl, hsource, hr.symm⟩

/-- Splitting changes neither the name nor the variant of a model, so that the output of a
model can be told from the schema as it was in the beginning. -/
lemma IsOutputOf.of_split {s s' : Schema} {policy : SplitPolicy} {roots : List ModelId}
    {id : ModelId} {o : Output} (hsplit : s.IsSplitFrom policy roots s') (hid : id < s.size)
    (h : t.IsOutputOf c s' id o) : t.IsOutputOf c s id o :=
  ⟨hsplit.variant id hid ▸ h.skipped, hsplit.name id hid ▸ h.name, h.blueprint⟩

/-- A plain target gives one output for every independent model. -/
lemma IsPlain.generate (ht : t.IsPlain c) {input : Input}
    (hroots : ∀ r ∈ input.roots, r.2 < input.schema.size) :
    ∃ outputs, t.generate input = .ok outputs ∧
      List.Forall₂ (t.IsOutputOf c input.schema)
        (input.schema.splitAll t.policy (input.roots.map (·.2))).2 outputs := by
  have hsplit := input.schema.splitFrom_isSplitFrom t.policy (input.roots.map (·.2))
  refine exists_mapM_eq_ok fun id hid => ?_
  have hlt : id < input.schema.size := by
    rcases Schema.mem_splitAll_iff.1 hid with hroot | ⟨happlies, -⟩
    · obtain ⟨r, hr, rfl⟩ := List.mem_map.1 hroot
      exact hroots r hr
    · exact Schema.lt_size_of_applies happlies
  obtain ⟨o, ho, houtput⟩ := ht.output (Nat.lt_of_lt_of_le hlt hsplit.size_le)
  exact ⟨o, ho, houtput.of_split hsplit hlt⟩

end Target

/-! ## The three targets -/

/-- The targets that come with the library. -/
inductive Stock where
  | rust
  | typeScript (o : TypeScript.Options)
  | sketch

namespace Stock

/-- The target, for the settings of the caller. -/
def target (s : Settings) : Stock → Target
  | rust => Rust.target s
  | typeScript o => TypeScript.target s o
  | sketch => Sketch.target s

/-- The naming convention of the target, without overrides. -/
def convention : Stock → Naming.Convention
  | rust => Naming.rust
  | typeScript _ => Naming.typeScript
  | sketch => Naming.sketch

/-- Whether the target renders models of a variant. -/
def renders : Stock → Variant → Bool
  | rust, v => v ∈ [.object, .enumeration, .tuple, .union]
  | typeScript _, _ => true
  | sketch, v => v = .object

lemma form_eq_none_iff (k : Stock) (settings : Settings) (v : Variant) :
    (k.target settings).form v = none ↔ k.renders v = false := by
  cases k with
  | rust => cases v <;> simp [target, Rust.target, Rust.form, renders]
  | sketch => cases v <;> simp [target, Sketch.target, renders]
  | typeScript o =>
    have hform : (TypeScript.form o v).isSome := by
      cases v with
      | object =>
        obtain ⟨objects, modules⟩ := o
        cases objects <;> rfl
      | _ => rfl
    simp [target, TypeScript.target, renders, Option.isSome_iff_ne_none.1 hform]

/-- Without further presets the three targets are plain. -/
lemma isPlain (k : Stock) {settings : Settings} (hpresets : settings.presets = []) :
    (k.target settings).IsPlain (k.convention.override settings.naming) := by
  have hspares : k.convention.SparesMark := by
    cases k <;> exact Schema.sparesMark_of_mem (by simp [convention])
  cases k with
  | rust =>
    refine ⟨Rust.types_isTotal, ⟨"::", literal, rfl⟩, hspares, ?_⟩
    simpa [target, Rust.target, hpresets] using Rust.preset_isStaged
  | typeScript o =>
    refine ⟨TypeScript.types_isTotal, ⟨".", TypeScript.entryLiteral, rfl⟩, hspares, ?_⟩
    simpa [target, TypeScript.target, hpresets] using TypeScript.preset_isStaged
  | sketch =>
    refine ⟨Sketch.types_isTotal, ⟨".", literal, rfl⟩, hspares, ?_⟩
    simpa [target, Sketch.target, hpresets] using Sketch.preset_isStaged

/-- What a target gives for a model: an output that is skipped if models of its variant are
not rendered, and that otherwise has the final name of the model, which is also its name in the
blueprint that was rendered. -/
def IsOutputOf (k : Stock) (settings : Settings) (s : Schema) (id : ModelId) (o : Output) :
    Prop :=
  if k.renders (s.model id).variant then
    o.isSkipped = false ∧
      o.name = (k.convention.override settings.naming).standalone .model (s.model id).name ∧
      ∃ b, o.blueprint = some b ∧ b.main.source = id ∧ b.main.name = o.name
  else o.isSkipped = true

/-- Generating succeeds and gives one output for every root and every model that some root
reaches through slots and that the target splits out, and no other output. -/
theorem generate_outputs (k : Stock) (settings : Settings) (input : Input)
    (hpresets : settings.presets = []) (hroots : ∀ r ∈ input.roots, r.2 < input.schema.size) :
    ∃ models outputs, (k.target settings).generate input = .ok outputs ∧
      List.Forall₂ (k.IsOutputOf settings input.schema) models outputs ∧ models.Nodup ∧
      ∀ id, id ∈ models ↔ id ∈ input.roots.map (·.2) ∨
        ((k.target settings).policy.applies (input.schema.model id).variant = true ∧
          ∃ root ∈ input.roots.map (·.2), Reaches input.schema.slotEdges root id) := by
  obtain ⟨outputs, hgenerate, houtputs⟩ := (k.isPlain hpresets).generate hroots
  refine ⟨_, outputs, hgenerate, houtputs.imp fun id o houtput => ?_, nodup_eraseDups _,
    fun id => Schema.mem_splitAll_iff⟩
  have hskipped := houtput.skipped.trans (k.form_eq_none_iff settings _)
  unfold IsOutputOf
  split
  · next hrenders =>
    have hnot : o.isSkipped = false := by
      rw [← Bool.not_eq_true, hskipped, hrenders]
      simp
    exact ⟨hnot, houtput.name hnot, houtput.blueprint hnot⟩
  · next hrenders => exact hskipped.2 (by simpa using hrenders)

/-- The address of a person is a root, too, and the status is split out: three outputs, of
which the one for the status is skipped. -/
theorem generate_outputs_personSample :
    ∃ models outputs,
      (sketch.target {}).generate ⟨.personSample, [("person", 0), ("address", 2)], .null⟩ =
        .ok outputs ∧
      List.Forall₂ (sketch.IsOutputOf {} .personSample) models outputs ∧
      models.Perm [0, 2, 6] := by
  obtain ⟨models, outputs, hgenerate, houtputs, hnodup, hmem⟩ := generate_outputs sketch {}
    ⟨.personSample, [("person", 0), ("address", 2)], .null⟩ rfl (by decide)
  refine ⟨models, outputs, hgenerate, houtputs, ?_⟩
  refine (List.perm_ext_iff_of_nodup hnodup (by decide)).2 fun id => (hmem id).trans ?_
  have happlies : ∀ id < Schema.personSample.size, Sketch.policy.applies
      (Schema.personSample.model id).variant = true → id ∈ [0, 2, 6] := by
    decide
  constructor
  · rintro (hroot | ⟨hid, -⟩)
    · exact (by decide : [0, 2] ⊆ [0, 2, 6]) hroot
    · exact happlies id (Schema.lt_size_of_applies hid) hid
  · intro hid
    simp only [List.mem_cons, List.not_mem_nil, or_false] at hid
    rcases hid with rfl | rfl | rfl
    · exact .inl (by decide)
    · exact .inl (by decide)
    · exact .inr ⟨by decide, 0, by decide, .single ⟨⟨0, .slot 3, 6⟩, by decide, rfl⟩⟩

end Stock

end Modelsmith
