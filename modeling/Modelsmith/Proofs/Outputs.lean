/-
# Outputs and their blueprints

An output that is not skipped was rendered from the blueprint of an independent model, in the
schema that splitting leaves; and every independent model for which the target has a form has
such an output.  Making outputs stand alone changes nothing but their texts.
-/
import Mathlib.Data.List.Permutation
import Modelsmith.Proofs.Generation
import Modelsmith.Proofs.Split.Batch

namespace Modelsmith

/-! ## Members of traversed lists -/

lemma exists_of_forall₂ {α β : Type} {R : α → β → Prop} {xs : List α} {ys : List β}
    (h : List.Forall₂ R xs ys) : ∀ y ∈ ys, ∃ x ∈ xs, R x y := by
  induction h with
  | nil => simp
  | cons hxy _ ih =>
    rintro y (_ | ⟨_, hy⟩)
    · exact ⟨_, by simp, hxy⟩
    · obtain ⟨x, hx, hR⟩ := ih y hy
      exact ⟨x, by simp [hx], hR⟩

/-! ## Inputs -/

/-- The roots of an input and all links of its schema lead to models of the schema. -/
structure Input.InRange (input : Input) : Prop where
  roots : ∀ r ∈ input.roots, r.2 < input.schema.size
  links : input.schema.InRange

namespace Target

variable {t : Target} {c : Naming.Convention} {input : Input} {id : ModelId} {o : Output}
  {b : Blueprint}

/-- The schema that a target works on: that of the input, split from all roots. -/
def splitSchema (t : Target) (input : Input) : Schema :=
  (input.schema.splitAll t.policy (input.roots.map (·.2))).1

/-- The models that a target gives outputs for. -/
def independent (t : Target) (input : Input) : List ModelId :=
  (input.schema.splitAll t.policy (input.roots.map (·.2))).2

lemma generate_eq :
    t.generate input = (t.independent input).mapM (t.output (t.splitSchema input)) := rfl

lemma splitSchema_isSplitFrom (t : Target) (input : Input) :
    input.schema.IsSplitFrom t.policy (input.roots.map (·.2)) (t.splitSchema input) :=
  input.schema.splitFrom_isSplitFrom t.policy _

lemma lt_size_of_independent (hroots : ∀ r ∈ input.roots, r.2 < input.schema.size)
    (hid : id ∈ t.independent input) : id < input.schema.size := by
  rcases Schema.mem_splitAll_iff.1 hid with hroot | ⟨happlies, -⟩
  · obtain ⟨r, hr, rfl⟩ := List.mem_map.1 hroot
    exact hroots r hr
  · exact Schema.lt_size_of_applies happlies

lemma lt_size_splitSchema (hroots : ∀ r ∈ input.roots, r.2 < input.schema.size)
    (hid : id ∈ t.independent input) : id < (t.splitSchema input).size :=
  Nat.lt_of_lt_of_le (lt_size_of_independent hroots hid) (t.splitSchema_isSplitFrom input).size_le

/-- No link that an independent model reaches leads out of the schema. -/
lemma isClosed_of_independent (hin : input.InRange) (hid : id ∈ t.independent input) :
    (t.splitSchema input).IsClosed id := by
  have hrange : (t.splitSchema input).InRange := hin.links.splitFrom t.policy _
  exact hrange.isClosed (lt_size_splitSchema hin.roots hid)

/-! ## What an output was rendered from -/

/-- The output `o` of an independent model was rendered from the blueprint `b`. -/
structure Renders (t : Target) (input : Input) (b : Blueprint) (o : Output) : Prop where
  independent : b.main.source ∈ t.independent input
  blueprint : t.blueprint (t.splitSchema input) b.main.source = .ok b
  name : o.name = b.main.name
  form : t.form b.main.variant ≠ none

lemma render_eq_ok {r : Rendered} (h : t.render b = .ok r) :
    r.name = b.main.name ∧ t.form b.main.variant ≠ none := by
  unfold Target.render Scene.render at h
  cases hform : t.form b.main.variant with
  | none => simp [hform] at h
  | some form =>
    simp only [hform] at h
    split at h
    · obtain rfl := Except.ok.inj h
      exact ⟨rfl, by simp⟩
    · cases h
    · cases h

/-- An output is the empty one of a skipped model, or it has the blueprint of its model. -/
lemma output_cases {s : Schema} (h : t.output s id = .ok o) :
    o = {} ∨ ∃ b, o.blueprint = some b ∧ t.blueprint s id = .ok b ∧ o.name = b.main.name ∧
      t.form b.main.variant ≠ none := by
  obtain ⟨b, hb, h⟩ := bind_eq_ok.1 h
  cases hrender : t.render b with
  | ok r =>
    rw [hrender] at h
    obtain rfl := pure_eq_ok.1 h
    obtain ⟨hname, hform⟩ := render_eq_ok hrender
    exact .inr ⟨b, rfl, mapError_eq_ok.1 hb, hname, hform⟩
  | error reason =>
    simp only [hrender] at h
    split at h
    · exact .inl (pure_eq_ok.1 h).symm
    · cases h

/-- An output that is not skipped has the blueprint of its model. -/
lemma output_eq_ok {s : Schema} (h : t.output s id = .ok o) (hskipped : o.isSkipped = false) :
    ∃ b, o.blueprint = some b ∧ t.blueprint s id = .ok b ∧ o.name = b.main.name ∧
      t.form b.main.variant ≠ none := by
  rcases output_cases h with rfl | hb
  · simp [Output.isSkipped] at hskipped
  · exact hb

/-- An output with a blueprint was rendered from it. -/
lemma renders_of_blueprint (hroots : ∀ r ∈ input.roots, r.2 < input.schema.size)
    {outputs : List Output} (h : t.generate input = .ok outputs) (ho : o ∈ outputs)
    (hb : o.blueprint = some b) : t.Renders input b o := by
  rw [generate_eq] at h
  obtain ⟨id, hid, hok⟩ := exists_of_forall₂ (mapM_eq_ok.1 h) o ho
  rcases output_cases hok with rfl | ⟨b', hb', hblueprint, hname, hform⟩
  · cases hb
  · obtain rfl : b = b' := Option.some.inj (hb.symm.trans hb')
    obtain ⟨rfl, -⟩ := Schema.blueprint_main (lt_size_splitSchema hroots hid) hblueprint
    exact ⟨hid, hblueprint, hname, hform⟩

/-- Every output that is not skipped was rendered from a blueprint. -/
lemma exists_renders (hroots : ∀ r ∈ input.roots, r.2 < input.schema.size)
    {outputs : List Output} (h : t.generate input = .ok outputs) (ho : o ∈ outputs)
    (hskipped : o.isSkipped = false) : ∃ b, o.blueprint = some b ∧ t.Renders input b o := by
  obtain ⟨id, -, hok⟩ := exists_of_forall₂ (mapM_eq_ok.1 (generate_eq ▸ h)) o ho
  obtain ⟨b, hb, -⟩ := output_eq_ok hok hskipped
  exact ⟨b, hb, renders_of_blueprint hroots h ho hb⟩

/-- A plain target gives an output for every independent model that it has a form for. -/
lemma IsPlain.exists_output (ht : t.IsPlain c)
    (hroots : ∀ r ∈ input.roots, r.2 < input.schema.size) :
    ∃ outputs, t.generate input = .ok outputs ∧
      ∀ id ∈ t.independent input, t.form (input.schema.model id).variant ≠ none →
        ∃ o ∈ outputs, o.isSkipped = false ∧
          o.name = c.standalone .model (input.schema.model id).name ∧
          ∃ b, o.blueprint = some b ∧ b.main.source = id ∧
            t.blueprint (t.splitSchema input) id = .ok b := by
  obtain ⟨outputs, hgenerate, houtputs⟩ := ht.generate hroots
  refine ⟨outputs, hgenerate, fun id hid hform => ?_⟩
  obtain ⟨o, ho, houtput⟩ := exists_of_forall₂ houtputs.flip id hid
  have hskipped : o.isSkipped = false := by
    rw [← Bool.not_eq_true, houtput.skipped]
    exact hform
  obtain ⟨b, hb, rfl, -⟩ := houtput.blueprint hskipped
  obtain ⟨b', hb', hrenders⟩ := exists_renders hroots hgenerate ho hskipped
  obtain rfl : b' = b := Option.some.inj (hb'.symm.trans hb)
  exact ⟨o, ho, hskipped, houtput.name hskipped, b', hb, rfl, hrenders.blueprint⟩

/-! ## Complete outputs -/

/-- Complete outputs are the outputs, with other texts if they are not skipped. -/
lemma generateComplete_eq {completion : Completion} (hcheck : completion.check = .ok ())
    {outputs : List Output} (h : t.generate input = .ok outputs) :
    t.generateComplete completion input = .ok (outputs.map fun o =>
      if o.isSkipped then o else { o with text := completion.complete o }) := by
  rw [generateComplete, hcheck, h]
  rfl

/-- A complete output that is not skipped has the completed text of an output that is the same
otherwise. -/
lemma exists_of_complete {completion : Completion} {outputs : List Output}
    (ho : o ∈ outputs.map fun o =>
      if o.isSkipped then o else { o with text := completion.complete o })
    (hskipped : o.isSkipped = false) :
    ∃ o₀ ∈ outputs, o = { o₀ with text := completion.complete o₀ } ∧ o₀.isSkipped = false := by
  obtain ⟨o₀, ho₀, rfl⟩ := List.mem_map.1 ho
  by_cases h : o₀.isSkipped
  · rw [if_pos h] at hskipped
    simp [h] at hskipped
  · exact ⟨o₀, ho₀, if_neg h, by simpa using h⟩

/-- A plain target with a form for every variant skips nothing. -/
lemma IsPlain.isSkipped_eq_false (ht : t.IsPlain c)
    (hroots : ∀ r ∈ input.roots, r.2 < input.schema.size) (hform : ∀ v, t.form v ≠ none)
    {completion : Completion} {outputs : List Output}
    (h : t.generateComplete completion input = .ok outputs) (ho : o ∈ outputs) :
    o.isSkipped = false := by
  obtain ⟨-, -, h⟩ := bind_eq_ok.1 h
  obtain ⟨outputs₀, hgenerate, h⟩ := bind_eq_ok.1 h
  obtain rfl := pure_eq_ok.1 h
  obtain ⟨o₀, ho₀, rfl⟩ := List.mem_map.1 ho
  obtain ⟨outputs', hgenerate', houtputs⟩ := ht.generate hroots
  obtain rfl : outputs₀ = outputs' := Except.ok.inj (hgenerate.symm.trans hgenerate')
  obtain ⟨id, -, houtput⟩ := exists_of_forall₂ houtputs o₀ ho₀
  have hskipped : o₀.isSkipped = false := by
    rw [← Bool.not_eq_true, houtput.skipped]
    exact hform _
  rw [if_neg (by simp [hskipped])]
  exact hskipped

end Target

end Modelsmith
