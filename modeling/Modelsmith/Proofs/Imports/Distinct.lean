/-
# Distinct imports

Dependencies are counted by the parts that they refer to, and imported by the names that they
resolve to.  So an output may import its own model or import a model twice: if a reference leads
back and refers to a part that stands for the model, or if it refers to the model through another
reference.
-/
import Modelsmith.Proofs.Imports.Lines
import Modelsmith.Proofs.Links

namespace Modelsmith

namespace Schema

variable {s : Schema} {rules : NamingRules} {table : TypeTable} {r r' : ModelId} {b : Blueprint}

/-- Whether the model of the reference `r` refers to `t` and does not lead back to it on the walk
from the model that the blueprint is for. -/
def Refers (s : Schema) (b : Blueprint) (r t : ModelId) : Prop :=
  (s.model (b.part r).source).shape = .reference t ∧
    ¬ s.LeadsBack b.main.source (b.part r).source t

/-- Whether the names that the references near the root resolve to agree with the models that
they refer to, the root set aside. -/
structure NamesAgree (s : Schema) (b : Blueprint) : Prop where
  /-- A reference that resolves to the name of the root refers to the root. -/
  own : ∀ r, b.IsNear b.root r → b.resolvedName r = b.main.name → s.Refers b r b.main.source
  /-- Two references that resolve to one name refer to one model. -/
  shared : ∀ r r', b.IsNear b.root r → b.IsNear b.root r' → r ≠ r' →
    ¬ s.Refers b r b.main.source → ¬ s.Refers b r' b.main.source →
    b.resolvedName r = b.resolvedName r' → ∃ t, s.Refers b r t ∧ s.Refers b r' t

section Targets

variable (hsafe : table.isSafe = Variant.isSelfContained) (hclosed : s.IsClosed b.main.source)
  (h : s.blueprint table rules b.main.source = .ok b)
include hsafe hclosed h

/-- A reference of a blueprint refers to its root if the model does so and does not lead back. -/
lemma target?_eq_root_iff (hvariant : (b.part r).variant = .reference) :
    b.target? r = some b.root ↔ s.Refers b r b.main.source := by
  obtain ⟨m, hm, rfl, t, hshape⟩ := exists_reference h hvariant
  obtain ⟨j, hj, hend⟩ := exists_target hsafe hclosed h hm hshape
  have hroot : b.main.source ∈ s.reached b.main.source := (mem_reached_iff hclosed).2 .refl
  have hplace : b.root = s.placeOf b.main.source b.main.source :=
    (blueprint_root h).trans (placeOf_root hclosed).symm
  rw [hj, Option.some.injEq, hplace, Refers, blueprint_source h hm, hshape,
    Shape.reference.injEq]
  rcases hend with ⟨hback, hstand⟩ | ⟨hback, rfl⟩
  · have hne : j ≠ s.placeOf b.main.source b.main.source := by
      rintro rfl
      exact absurd (placeOf_lt_length hroot) (Nat.not_lt.2 hstand.further)
    refine iff_of_false hne ?_
    rintro ⟨rfl, hnot⟩
    exact hnot hback
  · have ht : t ∈ s.reached b.main.source :=
      mem_reached_of_end hclosed .target hm (by rw [hshape]; rfl)
    constructor
    · intro hplace
      obtain rfl := placeOf_inj ht hroot hplace
      exact ⟨rfl, hback⟩
    · rintro ⟨rfl, -⟩
      rfl

/-- Two references of a blueprint refer to one part if their models refer to one model and
neither leads back. -/
lemma target?_eq_iff_refers (hvariant : (b.part r).variant = .reference)
    (hvariant' : (b.part r').variant = .reference) (hne : r ≠ r') :
    b.target? r = b.target? r' ↔
      ∃ t, s.Refers b r t ∧ s.Refers b r' t := by
  obtain ⟨m, hm, rfl, t, hshape⟩ := exists_reference h hvariant
  obtain ⟨m', hm', rfl, t', hshape'⟩ := exists_reference h hvariant'
  rw [target?_eq_iff hsafe hclosed h hm hm' hshape hshape' (fun heq => hne (heq ▸ rfl))]
  simp only [Refers, blueprint_source h hm, blueprint_source h hm', hshape, hshape',
    Shape.reference.injEq]
  constructor
  · rintro ⟨rfl, hback, hback'⟩
    exact ⟨t, ⟨rfl, hback⟩, rfl, hback'⟩
  · rintro ⟨_, ⟨rfl, hback⟩, rfl, hback'⟩
    exact ⟨rfl, hback, hback'⟩

/-- Names agree with models exactly if no name is imported twice, and not that of the root. -/
lemma namesAgree_iff :
    s.NamesAgree b ↔ b.importNames.Nodup ∧ b.main.name ∉ b.importNames := by
  -- what the blueprint says of targets, the schema says of the models that are referred to
  have hroot : ∀ r, b.IsNear b.root r → (b.target? r = some b.root ↔ _) := fun r hnear =>
    target?_eq_root_iff hsafe hclosed h hnear.variant
  have hpair : ∀ r r', b.IsNear b.root r → b.IsNear b.root r' → r ≠ r' →
      (b.target? r = b.target? r' ↔ _) := fun r r' hnear hnear' hne =>
    target?_eq_iff_refers hsafe hclosed h hnear.variant hnear'.variant hne
  rw [Blueprint.importNames_nodup_iff, Blueprint.mem_importNames_iff]
  constructor
  · intro hagree
    refine ⟨fun r r' hnear hnear' hother hother' hname => ?_, ?_⟩
    · by_cases heq : r = r'
      · rw [heq]
      · refine (hpair r r' hnear hnear' heq).2 (hagree.shared r r' hnear hnear' heq ?_ ?_ hname)
        · exact mt (hroot r hnear).2 hother
        · exact mt (hroot r' hnear').2 hother'
    · rintro ⟨r, hnear, hother, hname⟩
      exact hother ((hroot r hnear).2 (hagree.own r hnear hname))
  · rintro ⟨hsame, hnone⟩
    refine ⟨fun r hnear hname => ?_, fun r r' hnear hnear' hne hother hother' hname => ?_⟩
    · by_contra hnot
      exact hnone ⟨r, hnear, mt (hroot r hnear).1 hnot, hname⟩
    · refine (hpair r r' hnear hnear' hne).1 (hsame r r' hnear hnear' ?_ ?_ hname)
      · exact mt (hroot r hnear).1 hother
      · exact mt (hroot r' hnear').1 hother'

end Targets

end Schema

namespace Linkage

/-- The import lines of an output are pairwise distinct, and none imports its own model, exactly
if the names that the references near the root resolve to agree with the models that they refer
to. -/
theorem lines_distinct_iff (k : Linkage) (settings : Settings) (input : Input)
    (hpresets : settings.presets = []) (hcheck : (k.completion settings).check = .ok ())
    (hin : input.InRange) :
    ∃ outputs,
      (k.stock.target settings).generateComplete (k.completion settings) input = .ok outputs ∧
      ∀ o ∈ outputs, o.isSkipped = false → ∃ b, o.blueprint = some b ∧
        BeginsWith (k.head o.dependencies b) o.text ∧
        ((k.lines b).Nodup ∧ k.line o.name ∉ k.lines b ↔
          ((k.stock.target settings).splitSchema input).NamesAgree b) := by
  obtain ⟨outputs, hgenerate, hall, -⟩ := k.exists_complete input hpresets hcheck hin.roots
  refine ⟨outputs, hgenerate, fun o ho hskipped => ?_⟩
  obtain ⟨b, hb, hbegins, hrenders⟩ := hall o ho hskipped
  have hsafe : (k.stock.target settings).types.isSafe = Variant.isSelfContained := by
    cases k <;> rfl
  have hclosed := Target.isClosed_of_independent hin hrenders.independent
  refine ⟨b, hb, hbegins, ?_⟩
  rw [lines_nodup_iff, line_mem_lines_iff, hrenders.name,
    Schema.namesAgree_iff hsafe hclosed hrenders.blueprint]

/-- A union whose one member is the union itself. -/
def ownUnionInput : Input where
  schema := ⟨#[Schema.plain "u" (.union [0])]⟩
  roots := [("u", 0)]

/-- The reference back to the union refers to a part that stands for it, so that the one output
imports its own model. -/
theorem lines_own_ownUnionInput : (Rust.target {}).independent ownUnionInput = [0] ∧
    ∃ outputs,
      (Rust.target {}).generateComplete (Rust.completion {} none) ownUnionInput = .ok outputs ∧
      ∃ o ∈ outputs, ∃ b, o.blueprint = some b ∧
        (rust none).line o.name ∈ (rust none).lines b := by
  have hindependent : (Rust.target {}).independent ownUnionInput = [0] := by cbv
  have hsplit : (Rust.target {}).splitSchema ownUnionInput =
      ⟨#[Schema.plain "u" (.union [1]), Schema.plain "u" (.reference 0)]⟩ := by cbv
  obtain ⟨outputs, hgenerate, -⟩ := (rust none).exists_complete ownUnionInput
    (rfl : ({} : Settings).presets = []) rfl (by decide)
  obtain ⟨o, ho, -, b, hb, hname, hslot, hvariant, htarget, hresolved⟩ :=
    (rust none).exists_output_within
      (P := fun b => (⟨b.root, .slot 0, 1⟩ : Edge) ∈ b.localEdges b.root b.root ∧
        (b.part 1).variant = .reference ∧ b.target? 1 ≠ some b.root ∧
        b.resolvedName 1 = b.main.name)
      0 9 rfl rfl (by decide) hsplit hindependent (by decide) (by decide) (by decide +kernel)
      hgenerate
  refine ⟨hindependent, outputs, hgenerate, o, ho, b, hb, ?_⟩
  rw [line_mem_lines_iff, hname, Blueprint.mem_importNames_iff]
  exact ⟨1, ⟨hvariant, .single ⟨_, hslot, rfl⟩⟩, htarget, hresolved⟩

/-- A list node that holds the next one. -/
def nodeInput : Input := { schema := .nodeSample, roots := [("Node", 0)] }

/-- The list node holds a reference to itself, and does not import itself. -/
theorem lines_distinct_nodeInput : ∃ outputs,
    (TypeScript.target {} {}).generateComplete (TypeScript.completion {} {} {}) nodeInput =
      .ok outputs ∧
    ∃ o ∈ outputs, ∃ b, o.blueprint = some b ∧ (b.part 1).variant = .reference ∧
      b.resolvedName 1 = o.name ∧ ((typeScript {} .byName).lines b).Nodup ∧
      (typeScript {} .byName).line o.name ∉ (typeScript {} .byName).lines b := by
  have hin : nodeInput.InRange := ⟨by decide, (by decide : ∀ id < nodeInput.schema.size,
    ∀ e ∈ nodeInput.schema.edges id, e.target < nodeInput.schema.size)⟩
  have hindependent : ((typeScript {} .byName).stock.target {}).independent nodeInput = [0] := by
    cbv
  have hsplit : ((typeScript {} .byName).stock.target {}).splitSchema nodeInput =
      ⟨#[Schema.plain "Node" (.object [⟨"next", 1, false, 0, ()⟩]),
        Schema.plain "Node" (.reference 0)]⟩ := by cbv
  obtain ⟨outputs, hgenerate, hall⟩ :=
    lines_distinct_iff (typeScript {} .byName) {} nodeInput rfl rfl hin
  obtain ⟨o, ho, hskipped, b, hb, hname, hmain, ⟨hvariant, hsource, hresolved⟩, hone⟩ :=
    (typeScript {} .byName).exists_output_within
      (P := fun b => b.main.source = 0 ∧ ((b.part 1).variant = .reference ∧
        (b.part 1).source = 1 ∧ b.resolvedName 1 = b.main.name) ∧
        ∀ r < b.size, (b.part r).variant = .reference → r = 1)
      0 9 rfl rfl hin.roots hsplit hindependent (by decide) (by decide) (by decide +kernel)
      hgenerate
  obtain ⟨b', hb', -, hiff⟩ := hall o ho hskipped
  obtain rfl : b' = b := Option.some.inj (hb'.symm.trans hb)
  refine ⟨outputs, hgenerate, o, ho, b', hb, hvariant, hresolved.trans hname.symm, hiff.2 ?_⟩
  have hnear : ∀ r, b'.IsNear b'.root r → r = 1 := fun r hr =>
    hone r (Blueprint.lt_size_of_reference hr.variant) hr.variant
  refine ⟨fun r hr _ => ?_, fun r r' hr hr' hne => absurd ?_ hne⟩
  · rw [hnear r hr, Schema.Refers, hmain, hsource, hsplit]
    exact ⟨rfl, fun hback => Bool.noConfusion hback.1⟩
  · rw [hnear r hr, hnear r' hr']

end Linkage

end Modelsmith
