/-
# The order of the roots

The order in which the roots of an input stand decides which numbers the references get that
splitting adds, and in which order the outputs come.  Nothing that is rendered looks at these
numbers.  So two orders of the same roots lead to the same outputs, up to their own order.
-/
import Modelsmith.Proofs.Outputs
import Modelsmith.Proofs.Split.Wiring

namespace Modelsmith

/-- What an output says, apart from the blueprint that it was rendered from: the name that it
defines, its text and the lines that it depends on. -/
def Output.content (o : Output) : String × String × List String :=
  (o.name, o.text, o.dependencies)

lemma Input.InRange.perm {input : Input} (hin : input.InRange) {roots' : List (String × ModelId)}
    (hperm : input.roots.Perm roots') : Input.InRange { input with roots := roots' } where
  roots r hr := hin.roots r (hperm.mem_iff.2 hr)
  links := hin.links

/-- Results that `g` cannot tell apart for any argument, list by list. -/
lemma map_eq_of_forall₂ {α β γ : Type} {R R' : α → β → Prop} {g : β → γ} {xs : List α}
    {ys zs : List β} (h : List.Forall₂ R xs ys) (h' : List.Forall₂ R' xs zs)
    (hg : ∀ x ∈ xs, ∀ y z, R x y → R' x z → g y = g z) : ys.map g = zs.map g := by
  induction h generalizing zs with
  | nil =>
    cases h'
    rfl
  | cons hy _ ih =>
    obtain _ | ⟨hz, h'⟩ := h'
    rw [List.map_cons, List.map_cons, hg _ (by simp) _ _ hy hz,
      ih h' fun x hx => hg x (by simp [hx])]

namespace Target

variable {t : Target} {c : Naming.Convention} {input : Input} {roots' : List (String × ModelId)}

/-- A target whose type table and presets do not look at the numbers of models. -/
structure IgnoresSources (t : Target) : Prop where
  types : t.types.IsLocal
  presets : ∀ entry ∈ t.chain, entry.preset.IgnoresSources

/-- A model says the same in a renamed schema. -/
lemma IgnoresSources.content_eq (hignores : t.IgnoresSources) (ht : t.IsPlain c)
    {s s' : Schema} {root : ModelId} {f : ModelId → ModelId} (h : s.IsRenaming s' root f)
    (hclosed : s.IsClosed root) (hclosed' : s'.IsClosed (f root)) {o o' : Output}
    (ho : t.output s root = .ok o) (ho' : t.output s' (f root) = .ok o') :
    o.content = o'.content := by
  obtain ⟨separator, valueText, hrules⟩ := ht.rules
  obtain ⟨b, hb, ho⟩ := bind_eq_ok.1 ho
  obtain ⟨b', hb', ho'⟩ := bind_eq_ok.1 ho'
  rw [Target.blueprint, hrules, mapError_eq_ok] at hb hb'
  have hsame := Schema.blueprint_rename h hclosed hclosed' hignores.types hb hb'
  have hrender : t.render b' = t.render b := by
    rw [← t.render_unsourced hignores.presets b', hsame, render_unsourced hignores.presets]
  rw [hrender] at ho'
  cases hcase : t.render b with
  | ok r =>
    rw [hcase] at ho ho'
    obtain rfl := pure_eq_ok.1 ho
    obtain rfl := pure_eq_ok.1 ho'
    rfl
  | error failure =>
    rw [hcase] at ho ho'
    rw [Except.ok.inj (ho.symm.trans ho')]

/-- The order of the roots does not matter for which models are independent. -/
lemma independent_perm (t : Target) (hperm : input.roots.Perm roots') :
    (t.independent input).Perm (t.independent { input with roots := roots' }) := by
  refine (List.perm_ext_iff_of_nodup (nodup_eraseDups _) (nodup_eraseDups _)).2 fun id => ?_
  have hmem : ∀ r, r ∈ input.roots.map (·.2) ↔ r ∈ roots'.map (·.2) :=
    fun r => (hperm.map _).mem_iff
  refine Schema.mem_splitAll_iff.trans (Iff.trans ?_ Schema.mem_splitAll_iff.symm)
  simp only [hmem]

/-- An independent model says the same for both orders of the roots. -/
lemma IgnoresSources.content_rootOrder (hignores : t.IgnoresSources) (ht : t.IsPlain c)
    (hin : input.InRange) (hperm : input.roots.Perm roots') {id : ModelId}
    (hid : id ∈ t.independent input) {o o' : Output}
    (ho : t.output (t.splitSchema input) id = .ok o)
    (ho' : t.output (t.splitSchema { input with roots := roots' }) id = .ok o') :
    o.content = o'.content := by
  have hid' := (t.independent_perm hperm).mem_iff.1 hid
  obtain ⟨f, hf⟩ := Schema.exists_isRenaming hin.links t.policy
    fun r => (hperm.map Prod.snd).mem_iff
  obtain ⟨hfix, hrenaming⟩ := hf id (lt_size_of_independent hin.roots hid)
  have hclosed' := isClosed_of_independent (hin.perm hperm) hid'
  rw [← hfix] at ho' hclosed'
  exact hignores.content_eq ht hrenaming (isClosed_of_independent hin hid) hclosed' ho ho'

end Target

namespace Stock

/-- Without further presets, the three targets do not look at the numbers of models. -/
lemma ignoresSources (k : Stock) {settings : Settings} (hpresets : settings.presets = []) :
    (k.target settings).IgnoresSources := by
  cases k with
  | rust =>
    refine ⟨Rust.types_isLocal, ?_⟩
    simpa [target, Rust.target, hpresets] using Rust.preset_ignoresSources
  | typeScript o =>
    refine ⟨TypeScript.types_isLocal, ?_⟩
    simpa [target, TypeScript.target, hpresets] using TypeScript.preset_ignoresSources
  | sketch =>
    refine ⟨Sketch.types_isLocal, ?_⟩
    simpa [target, Sketch.target, hpresets] using Sketch.preset_ignoresSources

/-- Two orders of the same roots give the same outputs, up to their order: outputs of the same
names, with the same texts and the same lines that they depend on. -/
theorem generate_perm (k : Stock) (settings : Settings) (input : Input)
    (roots' : List (String × ModelId)) (hpresets : settings.presets = []) (hin : input.InRange)
    (hperm : input.roots.Perm roots') :
    ∃ outputs outputs', (k.target settings).generate input = .ok outputs ∧
      (k.target settings).generate { input with roots := roots' } = .ok outputs' ∧
      (outputs.map Output.content).Perm (outputs'.map Output.content) := by
  have hplain := k.isPlain hpresets
  obtain ⟨outputs, hgenerate, -⟩ := hplain.generate hin.roots
  obtain ⟨outputs', hgenerate', -⟩ := hplain.generate (hin.perm hperm).roots
  refine ⟨outputs, outputs', hgenerate, hgenerate', ?_⟩
  rw [Target.generate_eq] at hgenerate hgenerate'
  -- the second outputs in the order of the models of the first
  obtain ⟨outputs₂, houtputs₂, hsame⟩ := List.perm_comp_forall₂
    ((k.target settings).independent_perm hperm) (mapM_eq_ok.1 hgenerate')
  rw [map_eq_of_forall₂ (mapM_eq_ok.1 hgenerate) houtputs₂ fun id hid o o' ho ho' =>
    (k.ignoresSources hpresets).content_rootOrder hplain hin hperm hid ho ho']
  exact hsame.map _

/-- Two objects that hold the same third one. -/
def sharedInput : Input where
  schema := ⟨#[Schema.plain "a" (.object [⟨"x", 2, true, 0, ()⟩]),
    Schema.plain "b" (.object [⟨"y", 2, true, 1, ()⟩]), Schema.plain "c" (.object [])]⟩
  roots := [("a", 0), ("b", 1)]

lemma sharedInput_inRange : sharedInput.InRange where
  roots := by decide
  links := (by decide : ∀ id < sharedInput.schema.size, ∀ e ∈ sharedInput.schema.edges id,
    e.target < sharedInput.schema.size)

/-- The two orders of the roots number the new references differently, and still lead to the
same outputs. -/
theorem generate_perm_sharedInput :
    (((rust.target {}).splitSchema sharedInput).model 0).shape.slots = [3] ∧
    (((rust.target {}).splitSchema { sharedInput with roots := [("b", 1), ("a", 0)] }).model
      0).shape.slots = [4] ∧
    ∃ outputs outputs', (rust.target {}).generate sharedInput = .ok outputs ∧
      (rust.target {}).generate { sharedInput with roots := [("b", 1), ("a", 0)] } =
        .ok outputs' ∧
      (outputs.map Output.content).Perm (outputs'.map Output.content) :=
  ⟨by cbv, by cbv, generate_perm rust {} sharedInput [("b", 1), ("a", 0)] rfl sharedInput_inRange
    (.swap _ _ _)⟩

end Stock

end Modelsmith
