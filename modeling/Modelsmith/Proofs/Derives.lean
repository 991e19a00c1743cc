/-
# Derived traits of a batch

A trait is derived for a model if every model that it reaches through slots and references
allows the trait, and if no link on the way leads back: in place of such a link the blueprint
of the model has a part of any value, which allows no trait.  The first condition carries over
from a model to those that it refers to.  The second does not: whether a link leads back depends
on the model that the blueprint is for.
-/
import Modelsmith.Blueprint.Derive
import Modelsmith.Proofs.Links
import Modelsmith.Proofs.Outputs

namespace Modelsmith

/-! ## What a shape allows -/

/-- The values of the entries of an enumeration; every other shape has none. -/
def Shape.values {ι ρ : Type} : Shape ι ρ → List Json
  | .enumeration entries => entries.map (·.value)
  | _ => []

lemma Shape.Mirrors.values_eq {link : ModelId → ModelId → Prop} {owner : ModelId}
    {m : Shape Unit Unit} {p : Shape String Member} (h : Mirrors link owner m p) :
    p.values = m.values := by
  cases h with
  | enumeration entries =>
    rw [values, values, ← List.forall₂_eq_eq_eq, List.forall₂_map_left_iff,
      List.forall₂_map_right_iff]
    exact entries.flip.imp fun _ _ h => h.2
  | _ => rfl

namespace DeriveTrait

variable {t : DeriveTrait} {p q : Shape String Member}

lemma hasMapPayload_eq (p : Shape String Member) :
    hasMapPayload p = p.values.any fun value => match value with
      | .object _ => true
      | _ => false := by
  cases p with
  | enumeration entries =>
    rw [Shape.values, List.any_map]
    rfl
  | _ => rfl

/-- What a shape allows depends on its variant and its values only. -/
lemma allows_congr (hvariant : p.variant = q.variant) (hvalues : p.values = q.values) :
    t.allows p = t.allows q := by
  simp only [allows, hasMapPayload_eq, hvariant, hvalues]

lemma allows_any (t : DeriveTrait) : t.allows .any = false := by
  cases t <;> rfl

lemma mem_closure (t : DeriveTrait) : t ∈ t.closure := by
  cases t <;> decide

lemma name_injective : Function.Injective name := by
  intro t t' h
  cases t <;> cases t' <;> simp [name] at h ⊢

end DeriveTrait

/-! ## What a part derives -/

namespace Blueprint

variable {b : Blueprint} {id n : ModelId} {t : DeriveTrait}

lemma contentEdges_of_le (h : b.size ≤ id) : b.contentEdges id = [] := by
  rw [List.eq_nil_iff_forall_not_mem]
  intro e he
  exact absurd (lt_size_of_mem_edges (mem_contentEdges.1 he).1) (Nat.not_lt.2 h)

lemma mem_contents_iff : n ∈ b.contents id ↔ Reaches b.contentEdges id n ∧ n < b.size :=
  mem_walkOrder_iff_of_lt fun _ => contentEdges_of_le

lemma canDerive_iff : b.canDerive id t = true ↔ ∀ u ∈ t.closure, ∀ n,
    Reaches b.contentEdges id n → n < b.size → u.allows (b.part n).shape = true := by
  simp only [canDerive, allAllow, List.all_eq_true, mem_contents_iff, and_imp]

/-- The traits of the list of derives are those that can be derived. -/
lemma name_mem_derives_iff : t.name ∈ b.derives id ↔ b.canDerive id t = true := by
  have hunconditional : t.name ∉ ["Clone", "Debug", "Deserialize", "Serialize"] := by
    cases t <;> decide
  rw [derives, List.mem_mergeSort, List.mem_append, or_iff_right hunconditional,
    List.mem_map_of_injective DeriveTrait.name_injective, List.mem_filter]
  exact and_iff_right (by cases t <;> decide)

/-- Whoever follows references stays within the contents. -/
lemma reaches_resolve (b : Blueprint) (id : ModelId) :
    Reaches b.contentEdges id (b.resolve id) := by
  suffices hfollow : ∀ steps id, Reaches b.contentEdges id
      (follow (fun i => (b.part i).shape.target?) steps id) from hfollow _ _
  intro steps
  induction steps with
  | zero => exact fun id => .refl
  | succ steps ih =>
    intro id
    rw [follow]
    cases htarget : (b.part id).shape.target? with
    | none => exact .refl
    | some next =>
      have he : (⟨id, .target, next⟩ : Edge) ∈ b.contentEdges id :=
        mem_contentEdges.2 ⟨edge_of_target? htarget, by simp⟩
      exact .head ⟨_, he, rfl⟩ (ih next)

end Blueprint

namespace Schema

variable {s : Schema} {rules : NamingRules} {table : TypeTable} {root n : ModelId}
  {b : Blueprint} {t : DeriveTrait}

/-- Two blueprints of a schema allow the same of a model that both have a part of. -/
lemma allows_eq {root' : ModelId} {b' : Blueprint} (hclosed : s.IsClosed root)
    (hclosed' : s.IsClosed root') (h : s.blueprint table rules root = .ok b)
    (h' : s.blueprint table rules root' = .ok b') (hn : n ∈ s.reached root)
    (hn' : n ∈ s.reached root') :
    t.allows (b.part (s.placeOf root n)).shape = t.allows (b'.part (s.placeOf root' n)).shape := by
  obtain ⟨b₀, hlower, hcuts, hcut⟩ := blueprint_isCut h
  obtain ⟨b₀', hlower', hcuts', hcut'⟩ := blueprint_isCut h'
  have himage := (isImage_placeOf hclosed hlower hcuts hcut hn).shape
  have himage' := (isImage_placeOf hclosed' hlower' hcuts' hcut' hn').shape
  exact DeriveTrait.allows_congr (himage.variant_eq.trans himage'.variant_eq.symm)
    (himage.values_eq.trans himage'.values_eq.symm)

/-- A trait can be derived for the root of a blueprint exactly if no link leads back and every
model below the root allows the trait and what it requires. -/
theorem canDerive_root_iff (hsafe : table.isSafe = Variant.isSelfContained)
    (hclosed : s.IsClosed root) (h : s.blueprint table rules root = .ok b) :
    b.canDerive b.root t = true ↔ ¬ s.TurnsBack root ∧ ∀ n, Reaches s.contentEdges root n →
      ∀ u ∈ t.closure, u.allows (b.part (s.placeOf root n)).shape = true := by
  rw [Blueprint.canDerive_iff]
  constructor
  · intro hall
    have hback : ¬ s.TurnsBack root := by
      -- a link that leads back ends at a part of any value, which allows nothing
      rw [← exists_stand_iff hsafe hclosed h]
      rintro ⟨m, j, hstand, hreaches⟩
      have hallows := hall t t.mem_closure j hreaches hstand.lt
      simp [hstand.shape, DeriveTrait.allows_any] at hallows
    refine ⟨hback, fun n hn u hu => ?_⟩
    rcases reaches_part_or_stand hsafe hclosed h hn with hpart | hstand
    · exact hall u hu _ hpart (placeOf_lt_size h (mem_reached_of_contents hclosed hn))
    · exact absurd ((exists_stand_iff hsafe hclosed h).1 hstand) hback
  · rintro ⟨hback, hall⟩ u hu j hj -
    rcases reaches_contents_cases hsafe hclosed h hj with ⟨n, hn, rfl⟩ | ⟨hturns, -⟩
    · exact hall n hn u hu
    · exact absurd hturns hback

/-- What is derived for one root carries over to the roots of other blueprints whose models it
reaches, unless a link leads back there. -/
theorem canDerive_of_reached {root' j : ModelId} {b' : Blueprint}
    (hsafe : table.isSafe = Variant.isSelfContained) (hclosed : s.IsClosed root)
    (hclosed' : s.IsClosed root') (h : s.blueprint table rules root = .ok b)
    (h' : s.blueprint table rules root' = .ok b') (hj : Reaches b.contentEdges b.root j)
    (hsource : (b.part j).source = root') (hderive : b.canDerive b.root t = true) :
    b'.canDerive b'.root t = true ↔ ¬ s.TurnsBack root' := by
  obtain ⟨hback, hall⟩ := (canDerive_root_iff hsafe hclosed h).1 hderive
  -- without a link that leads back, the part belongs to a model that the first root reaches
  have hroot' : Reaches s.contentEdges root root' := by
    rcases reaches_contents_cases hsafe hclosed h hj with ⟨n, hn, rfl⟩ | ⟨hturns, -⟩
    · rwa [← hsource, blueprint_source h (mem_reached_of_contents hclosed hn)]
    · exact absurd hturns hback
  rw [canDerive_root_iff hsafe hclosed' h', and_iff_left_iff_imp]
  intro _ n hn u hu
  have hn₀ := hroot'.trans hn
  rw [← allows_eq hclosed hclosed' h h' (mem_reached_of_contents hclosed hn₀)
    (mem_reached_of_contents hclosed' hn)]
  exact hall n hn₀ u hu

end Schema

/-! ## Derives across outputs -/

namespace Rust

/-- If an output derives a trait, then an output that it refers to derives the trait exactly if
no link below its own model leads back. -/
theorem derives_of_reference (settings : Settings) (input : Input)
    (hpresets : settings.presets = []) (hin : input.InRange) :
    ∃ outputs, (target settings).generate input = .ok outputs ∧
      ∀ o ∈ outputs, o.isSkipped = false → ∃ b, o.blueprint = some b ∧
        ∀ o' ∈ outputs, o'.isSkipped = false → ∃ b', o'.blueprint = some b' ∧
          ∀ r, Reaches b.slotEdges b.root r → (b.part r).variant = .reference →
            (b.part (b.resolve r)).source = b'.main.source →
            ∀ t : DeriveTrait, t.name ∈ b.derives b.root →
              (t.name ∈ b'.derives b'.root ↔
                ¬ ((target settings).splitSchema input).TurnsBack b'.main.source) := by
  obtain ⟨outputs, hgenerate, -⟩ := (Stock.rust.isPlain hpresets).exists_output hin.roots
  refine ⟨outputs, hgenerate, fun o ho hskipped => ?_⟩
  obtain ⟨b, hb, hrenders⟩ := Target.exists_renders hin.roots hgenerate ho hskipped
  refine ⟨b, hb, fun o' ho' hskipped' => ?_⟩
  obtain ⟨b', hb', hrenders'⟩ := Target.exists_renders hin.roots hgenerate ho' hskipped'
  refine ⟨b', hb', fun r hr _ hsource t ht => ?_⟩
  have hslots : Reaches b.contentEdges b.root r :=
    reaches_mono (fun _ _ he => List.mem_append_left _ he) hr
  rw [Blueprint.name_mem_derives_iff] at ht ⊢
  exact Schema.canDerive_of_reached rfl (Target.isClosed_of_independent hin hrenders.independent)
    (Target.isClosed_of_independent hin hrenders'.independent) hrenders.blueprint
    hrenders'.blueprint (hslots.trans (b.reaches_resolve r)) hsource ht

/-- An object that holds a union whose one member is the object. -/
def loopInput : Input where
  schema := ⟨#[Schema.plain "o" (.object [⟨"u", 1, true, 0, ()⟩]), Schema.plain "u" (.union [0])]⟩
  roots := [("o", 0)]

lemma loopInput_inRange : loopInput.InRange where
  roots := by decide
  links := (by decide : ∀ id < loopInput.schema.size, ∀ e ∈ loopInput.schema.edges id,
    e.target < loopInput.schema.size)

lemma loopInput_splitSchema : (target {}).splitSchema loopInput =
    ⟨#[Schema.plain "o" (.object [⟨"u", 2, true, 0, ()⟩]), Schema.plain "u" (.union [3]),
      Schema.plain "u" (.reference 1), Schema.plain "o" (.reference 0)]⟩ := by
  cbv

lemma loopInput_independent : (target {}).independent loopInput = [0, 1] := by
  cbv

/-- From the object one comes to the union and back to the object itself. -/
lemma loopInput_object {b : Blueprint}
    (h : (target {}).blueprint ((target {}).splitSchema loopInput) 0 = .ok b) :
    b.canDerive b.root .partialEq = true ∧ ∃ r, Reaches b.slotEdges b.root r ∧
      (b.part r).variant = .reference ∧ (b.part (b.resolve r)).source = 1 := by
  rw [loopInput_splitSchema] at h
  obtain ⟨hroot, hslot, hvariant, hsource, hallows⟩ := Schema.holds_of_within h 12
    (P := fun b => b.root = 0 ∧ (⟨0, .slot 0, 1⟩ : Edge) ∈ b.slotEdges 0 ∧
      (b.part 1).variant = .reference ∧ (b.part (b.resolve 1)).source = 1 ∧
      ∀ n < b.size, DeriveTrait.partialEq.allows (b.part n).shape = true) (by decide +kernel)
  rw [hroot]
  refine ⟨?_, 1, .single ⟨_, hslot, rfl⟩, hvariant, hsource⟩
  rw [Blueprint.canDerive_iff]
  rintro u hu n - hn
  obtain rfl : u = .partialEq := by simpa [DeriveTrait.closure] using hu
  exact hallows n hn

/-- From the union one comes to the object and back to a part that stands for the union. -/
lemma loopInput_union {b : Blueprint}
    (h : (target {}).blueprint ((target {}).splitSchema loopInput) 1 = .ok b) :
    ¬ b.canDerive b.root .partialEq = true := by
  rw [loopInput_splitSchema] at h
  obtain ⟨hroot, h₁, h₂, h₃, h₄, hlt, hany⟩ := Schema.holds_of_within h 12
    (P := fun b => b.root = 0 ∧ (⟨0, .slot 0, 1⟩ : Edge) ∈ b.contentEdges 0 ∧
      (⟨1, .target, 2⟩ : Edge) ∈ b.contentEdges 1 ∧ (⟨2, .slot 0, 3⟩ : Edge) ∈ b.contentEdges 2 ∧
      (⟨3, .target, 4⟩ : Edge) ∈ b.contentEdges 3 ∧ 4 < b.size ∧
      DeriveTrait.partialEq.allows (b.part 4).shape = false) (by decide +kernel)
  have hreaches : Reaches b.contentEdges b.root 4 := by
    rw [hroot]
    exact .head ⟨_, h₁, rfl⟩ (.head ⟨_, h₂, rfl⟩ (.head ⟨_, h₃, rfl⟩ (.single ⟨_, h₄, rfl⟩)))
  rw [Blueprint.canDerive_iff]
  intro hall
  have hallows := hall .partialEq (by decide) 4 hreaches hlt
  simp [hany] at hallows

/-- The outputs of the object and of the union, with their blueprints. -/
lemma loopInput_outputs : ∃ outputs, (target {}).generate loopInput = .ok outputs ∧
    ∃ o ∈ outputs, ∃ o' ∈ outputs, ∃ b b', o.isSkipped = false ∧ o'.isSkipped = false ∧
      o.blueprint = some b ∧ o'.blueprint = some b' ∧ b'.main.source = 1 ∧
      "PartialEq" ∈ b.derives b.root ∧ "PartialEq" ∉ b'.derives b'.root ∧
      ∃ r, Reaches b.slotEdges b.root r ∧ (b.part r).variant = .reference ∧
        (b.part (b.resolve r)).source = b'.main.source := by
  obtain ⟨outputs, hgenerate, hall⟩ :=
    (Stock.rust.isPlain (rfl : ({} : Settings).presets = [])).exists_output loopInput_inRange.roots
  have hmem : 0 ∈ (target {}).independent loopInput ∧ 1 ∈ (target {}).independent loopInput := by
    simp [loopInput_independent]
  obtain ⟨o, ho, hskipped, -, b, hb, -, hobject⟩ := hall 0 hmem.1 (by decide)
  obtain ⟨o', ho', hskipped', -, b', hb', hsource, hunion⟩ := hall 1 hmem.2 (by decide)
  obtain ⟨hderive, r, hr, hvariant, hresolve⟩ := loopInput_object hobject
  refine ⟨outputs, hgenerate, o, ho, o', ho', b, b', hskipped, hskipped', hb, hb', hsource, ?_, ?_,
    r, hr, hvariant, hresolve.trans hsource.symm⟩
  · exact Blueprint.name_mem_derives_iff.2 hderive
  · exact fun hmem => loopInput_union hunion (Blueprint.name_mem_derives_iff.1 hmem)

/-- The object derives `PartialEq` and refers to the union, which does not. -/
theorem derives_loopInput : ¬ ∀ outputs, (target {}).generate loopInput = .ok outputs →
    ∀ o ∈ outputs, ∀ o' ∈ outputs, ∀ b b', o.blueprint = some b → o'.blueprint = some b' →
      ∀ r, Reaches b.slotEdges b.root r → (b.part r).variant = .reference →
        (b.part (b.resolve r)).source = b'.main.source →
        ∀ t : DeriveTrait, t.name ∈ b.derives b.root → t.name ∈ b'.derives b'.root := by
  intro hclosed
  obtain ⟨outputs, hgenerate, o, ho, o', ho', b, b', -, -, hb, hb', -, hderive, hnot, r, hr,
    hvariant, hsource⟩ := loopInput_outputs
  exact hnot (hclosed outputs hgenerate o ho o' ho' b b' hb hb' r hr hvariant hsource
    .partialEq hderive)

/-- The walk from the union comes back to it. -/
theorem loopInput_turnsBack : ((target {}).splitSchema loopInput).TurnsBack 1 := by
  obtain ⟨outputs, hgenerate, o, ho, o', ho', b, b', hskipped, hskipped', hb, hb', hunion,
    hderive, hnot, r, hr, hvariant, hsource⟩ := loopInput_outputs
  obtain ⟨outputs', hgenerate', hall⟩ := derives_of_reference {} loopInput rfl loopInput_inRange
  obtain rfl : outputs = outputs' := Except.ok.inj (hgenerate.symm.trans hgenerate')
  obtain ⟨c, hc, hall⟩ := hall o ho hskipped
  obtain rfl : b = c := Option.some.inj (hb.symm.trans hc)
  obtain ⟨c', hc', hall⟩ := hall o' ho' hskipped'
  obtain rfl : b' = c' := Option.some.inj (hb'.symm.trans hc')
  have hiff := hall r hr hvariant hsource .partialEq hderive
  rw [hunion] at hiff
  by_contra hback
  exact hnot (hiff.2 hback)

end Rust

end Modelsmith
