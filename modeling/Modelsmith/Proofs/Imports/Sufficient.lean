/-
# Sufficient imports

Whatever an output refers to in its slots is its own model or imported.  In a batch of outputs in
which references lead to roots, what is imported is defined by another output, and nothing that
should be an output of its own is left inside of another.  A root that is a reference itself has
no slots: what it refers to is not imported on its account.
-/
import Modelsmith.Proofs.Imports.Lines
import Modelsmith.Proofs.Links

namespace Modelsmith

/-! ## Names of references -/

namespace Schema

variable {s : Schema} {rules : NamingRules} {table : TypeTable} {root m t : ModelId}
  {b : Blueprint}

/-- A reference to a model that is no reference resolves to the name of this model, whether it
leads back or not. -/
lemma resolvedName_of_reference (hsafe : table.isSafe = Variant.isSelfContained)
    (hclosed : s.IsClosed root) (h : s.blueprint table rules root = .ok b)
    (hm : m ∈ s.reached root) (hshape : (s.model m).shape = .reference t)
    (hvariant : (s.model t).variant ≠ .reference) :
    rules.modelName s (s.model t) = .ok (b.resolvedName (s.placeOf root m)) := by
  have ht : t ∈ s.reached root := mem_reached_of_end hclosed .target hm (by rw [hshape]; rfl)
  obtain ⟨j, hj, ⟨-, hstand⟩ | ⟨-, rfl⟩⟩ := exists_target hsafe hclosed h hm hshape
  · have hstop : b.target? j = none := by
      rw [Blueprint.target?, hstand.shape]
      rfl
    rw [Blueprint.resolvedName, Blueprint.resolve_eq_target hj hstop, hstand.name]
    exact blueprint_modelName h ht
  · have hstop : b.target? (s.placeOf root t) = none := by
      by_contra hsome
      rw [← blueprint_variant h ht] at hvariant
      exact hvariant (Blueprint.variant_eq_reference_iff.2 (Option.ne_none_iff_exists'.1 hsome))
    rw [Blueprint.resolvedName, Blueprint.resolve_eq_target hj hstop]
    exact blueprint_modelName h ht

end Schema

/-! ## Slots of rendered models -/

namespace Target

variable {t : Target} {c : Naming.Convention} {input : Input} {b : Blueprint} {o : Output}
  {n r : ModelId}

/-- The slots below the root of a rendered blueprint hold nothing that the policy makes
independent. -/
lemma Renders.applies_of_slots (h : t.Renders input b o) (hin : input.InRange)
    (hsafe : t.types.isSafe = Variant.isSelfContained)
    (hn : Relation.TransGen (Leads b.slotEdges) b.root n) :
    t.policy.applies (b.part n).variant = false := by
  have hclosed := isClosed_of_independent hin h.independent
  obtain ⟨p, hp, e, he, rfl⟩ := Relation.TransGen.tail'_iff.1 hn
  obtain ⟨hcontent, i, hi⟩ := mem_slotEdges_iff_content.1 he
  rcases Schema.reaches_slots_cases hsafe hclosed h.blueprint hp with ⟨m, hm, rfl⟩ | hany
  · have hreached := Schema.mem_reached_of_contents hclosed (Schema.reaches_contents_of_slots hm)
    obtain ⟨d, hd, ⟨-, hstand⟩ | ⟨-, hplace⟩⟩ :=
      Schema.exists_model_edge hsafe hclosed h.blueprint hreached hcontent
    · rw [Part.variant, hstand.shape]
      rfl
    · have hslot : (⟨m, e.link, d⟩ : Edge) ∈ (t.splitSchema input).slotEdges m :=
        mem_slotEdges_iff_content.2 ⟨hd, i, hi⟩
      have hdreached := Schema.mem_reached_of_contents hclosed
        (Schema.reaches_contents_of_slots (hm.tail ⟨_, hslot, rfl⟩))
      obtain ⟨-, j, -, hget⟩ := Schema.mem_slotEdges.1 hslot
      rw [hplace, Schema.blueprint_variant h.blueprint hdreached]
      exact Schema.applies_of_splitAll_slot h.independent hm hget
  · simp [Blueprint.slotEdges, Modelsmith.slotEdges, hany, Shape.slots] at he

/-- If all references of an input lead to roots that the policy makes independent, a reference of
a rendered blueprint resolves to the name of an independent model. -/
lemma Renders.exists_model_of_reference (h : t.Renders input b o) (hin : input.InRange)
    (hsafe : t.types.isSafe = Variant.isSelfContained)
    (hreferences : ∀ m d, (input.schema.model m).shape = .reference d →
      d ∈ input.roots.map (·.2) ∧ t.policy.applies (input.schema.model d).variant = true)
    (hr : (b.part r).variant = .reference) :
    ∃ d ∈ t.independent input, t.policy.applies (input.schema.model d).variant = true ∧
      t.rules.modelName (t.splitSchema input) ((t.splitSchema input).model d) =
        .ok (b.resolvedName r) := by
  have hclosed := isClosed_of_independent hin h.independent
  obtain ⟨m, hm, rfl, d, hshape⟩ := Schema.exists_reference h.blueprint hr
  obtain ⟨hd, happlies⟩ : d ∈ t.independent input ∧
      t.policy.applies (input.schema.model d).variant = true := by
    -- a reference of before leads to a root, and a new one to a model that was split out
    rcases Schema.reference_of_splitAll hshape with hold | hnew
    · obtain ⟨hroot, happlies⟩ := hreferences m d hold
      exact ⟨Schema.mem_splitAll_iff.2 (.inl hroot), happlies⟩
    · exact hnew
  refine ⟨d, hd, happlies, ?_⟩
  refine Schema.resolvedName_of_reference hsafe hclosed h.blueprint hm hshape ?_
  rw [(t.splitSchema_isSplitFrom input).variant d (Schema.lt_size_of_applies happlies)]
  intro hvariant
  rw [hvariant] at happlies
  cases happlies

end Target

/-! ## Outputs that link -/

/-- An order refers to an item, which is a root too, and holds a status. -/
def orderInput : Input where
  schema := ⟨#[
    Schema.plain "order" (.object [⟨"item", 1, true, 0, ()⟩, ⟨"status", 3, true, 0, ()⟩]),
    Schema.plain "first" (.reference 2), Schema.plain "item" (.object []),
    Schema.plain "status" (.enumeration [⟨"open", .string "open", ()⟩])]⟩
  roots := [("order", 0), ("item", 2)]

lemma orderInput_inRange : orderInput.InRange where
  roots := by decide
  links := (by decide : ∀ id < orderInput.schema.size, ∀ e ∈ orderInput.schema.edges id,
    e.target < orderInput.schema.size)

/-- The status in its slot has become a reference. -/
def orderSplit : Schema :=
  ⟨#[Schema.plain "order" (.object [⟨"item", 1, true, 0, ()⟩, ⟨"status", 4, true, 0, ()⟩]),
    Schema.plain "first" (.reference 2), Schema.plain "item" (.object []),
    Schema.plain "status" (.enumeration [⟨"open", .string "open", ()⟩]),
    Schema.plain "status" (.reference 3)]⟩

namespace Rust

lemma policy_applies_iff {v : Variant} :
    policy.applies v = true ↔ v ∈ [.object, .enumeration, .tuple, .union] := by
  cases v <;> decide

lemma form_ne_none {v : Variant} (h : policy.applies v = true) : form v ≠ none := by
  revert h
  cases v <;> decide

/-- In a batch whose references lead to roots, an output refers to its own model or to models
that it uses; all that it uses is defined by another output of the batch. -/
theorem outputs_link (settings : Settings) (path : Option String) (input : Input)
    (hpresets : settings.presets = []) (hcheck : (completion settings path).check = .ok ())
    (hin : input.InRange)
    (hreferences : ∀ m t, (input.schema.model m).shape = .reference t →
      t ∈ input.roots.map (·.2) ∧
        (input.schema.model t).variant ∈ [.object, .enumeration, .tuple, .union]) :
    ∃ outputs,
      (target settings).generateComplete (completion settings path) input = .ok outputs ∧
      ∀ o ∈ outputs, o.isSkipped = false → ∃ b, o.blueprint = some b ∧
        BeginsWith (o.dependencies ++ useLines path b) o.text ∧
        (∀ n, Relation.TransGen (Leads b.slotEdges) b.root n →
          (b.part n).variant ∉ [.object, .enumeration, .tuple, .union]) ∧
        (∀ r, Relation.TransGen (Leads b.slotEdges) b.root r →
          (b.part r).variant = .reference →
          b.resolvedName r = o.name ∨
            "use " ++ usePath path ++ b.resolvedName r ++ ";" ∈ useLines path b) ∧
        ∀ line ∈ useLines path b, ∃ o' ∈ outputs, o'.isSkipped = false ∧
          line = "use " ++ usePath path ++ o'.name ++ ";" := by
  obtain ⟨outputs, hgenerate, hall, hexists⟩ :=
    (Linkage.rust path).exists_complete input hpresets hcheck hin.roots
  refine ⟨outputs, hgenerate, fun o ho hskipped => ?_⟩
  obtain ⟨b, hb, hbegins, hrenders⟩ := hall o ho hskipped
  refine ⟨b, hb, hbegins, fun n hn => ?_, fun r hr hvariant => ?_, fun line hline => ?_⟩
  · rw [← policy_applies_iff, Bool.not_eq_true]
    exact hrenders.applies_of_slots hin rfl hn
  · rw [hrenders.name]
    exact (Blueprint.named_of_slots hr hvariant).imp_right
      (Linkage.line_mem_lines_iff (k := .rust path)).2
  · rw [show useLines path b = _ from (Linkage.rust path).lines_eq b] at hline
    obtain ⟨name, hname, rfl⟩ := List.mem_map.1 hline
    obtain ⟨r, hnear, -, rfl⟩ := Blueprint.mem_importNames_iff.1 hname
    -- the name is that of an independent model, and so is the name of its output
    obtain ⟨d, hd, happlies, hmodel⟩ := hrenders.exists_model_of_reference hin rfl
      (fun m t hm => (hreferences m t hm).imp_right policy_applies_iff.2) hnear.variant
    obtain ⟨o', ho', hskipped', hname', -⟩ := hexists d hd (form_ne_none happlies)
    refine ⟨o', ho', hskipped', ?_⟩
    rw [hname', ← pure_eq_ok.1 hmodel, (Target.splitSchema_isSplitFrom _ input).name d
      (Schema.lt_size_of_applies happlies)]
    rfl

/-- The order uses the item and the status, and other outputs define them. -/
theorem outputs_link_orderInput : ∃ outputs,
    (target {}).generateComplete (completion {} (some "shop")) orderInput = .ok outputs ∧
    ∃ o ∈ outputs, ∃ b, o.blueprint = some b ∧
      "use crate::shop::Item;" ∈ useLines (some "shop") b ∧
      "use crate::shop::Status;" ∈ useLines (some "shop") b ∧
      ∀ line ∈ useLines (some "shop") b, ∃ o' ∈ outputs, o'.isSkipped = false ∧
        line = "use crate::shop::" ++ o'.name ++ ";" := by
  have hcheck : (completion {} (some "shop")).check = .ok () := by decide +kernel
  have hreferences : ∀ m t, (orderInput.schema.model m).shape = .reference t →
      t ∈ orderInput.roots.map (·.2) ∧
        (orderInput.schema.model t).variant ∈ [.object, .enumeration, .tuple, .union] := by
    intro m t hm
    match m with
    | 1 =>
      obtain rfl : 2 = t := Shape.reference.inj hm
      decide
    | 0 | 2 | 3 | _ + 4 => cases hm
  obtain ⟨outputs, hgenerate, hall⟩ :=
    outputs_link {} (some "shop") orderInput rfl hcheck orderInput_inRange hreferences
  obtain ⟨o, ho, hskipped, b, hb, hname, hmain, ⟨hitem, hitemRef, hitemName⟩,
      hstatus, hstatusRef, hstatusName⟩ := (Linkage.rust (some "shop")).exists_output_within
    (P := fun b => b.main.name = "Order" ∧
      ((⟨b.root, .slot 0, 1⟩ : Edge) ∈ b.slotEdges b.root ∧ (b.part 1).variant = .reference ∧
        b.resolvedName 1 = "Item") ∧
      (⟨b.root, .slot 1, 3⟩ : Edge) ∈ b.slotEdges b.root ∧ (b.part 3).variant = .reference ∧
        b.resolvedName 3 = "Status")
    0 12 rfl hcheck orderInput_inRange.roots
    (by cbv : (target {}).splitSchema orderInput = orderSplit)
    (by cbv : (target {}).independent orderInput = [0, 3, 2]) (by decide) (by decide)
    (by decide +kernel) hgenerate
  obtain ⟨b', hb', -, -, hnamed, hdefined⟩ := hall o ho hskipped
  obtain rfl : b' = b := Option.some.inj (hb'.symm.trans hb)
  refine ⟨outputs, hgenerate, o, ho, b', hb, ?_, ?_, hdefined⟩
  · simpa [hname, hmain, hitemName, usePath] using hnamed 1 (.single ⟨_, hitem, rfl⟩) hitemRef
  · simpa [hname, hmain, hstatusName, usePath] using
      hnamed 3 (.single ⟨_, hstatus, rfl⟩) hstatusRef

end Rust

namespace TypeScript

/-- What the references in the slots of a model name is the model itself or imported.  What a
root names that is a reference itself is imported only if a parent of the root comes to another
reference to it. -/
theorem imports_named_iff (settings : Settings) (p : Options) (exports : Linking.ExportStyle)
    (input : Input) (hpresets : settings.presets = [])
    (hroots : ∀ r ∈ input.roots, r.2 < input.schema.size) :
    ∃ outputs,
      (target settings p).generateComplete (completion settings p { exports }) input =
        .ok outputs ∧
      ∀ o ∈ outputs, ∃ b, o.blueprint = some b ∧
        BeginsWith ((Linkage.typeScript p exports).head o.dependencies b) o.text ∧
        ∀ r, Reaches b.slotEdges b.root r → (b.part r).variant = .reference →
          ((b.resolvedName r = o.name ∨ (Linkage.typeScript p exports).line (b.resolvedName r) ∈
              (Linkage.typeScript p exports).lines b) ↔
            r ≠ b.root ∨ b.resolvedName r = o.name ∨
              ∃ q ∈ b.main.options.parents, ∃ r', Reaches (b.localEdges b.root) q r' ∧
                (b.part r').variant = .reference ∧ b.target? r' ≠ some b.root ∧
                b.resolvedName r' = b.resolvedName r) := by
  obtain ⟨outputs, hgenerate, hall, -⟩ :=
    (Linkage.typeScript p exports).exists_complete input hpresets rfl hroots
  refine ⟨outputs, hgenerate, fun o ho => ?_⟩
  have hskipped : o.isSkipped = false := by
    refine (Stock.isPlain (.typeScript p) hpresets).isSkipped_eq_false hroots (fun v => ?_)
      hgenerate ho
    simp [Stock.form_eq_none_iff, Stock.renders]
  obtain ⟨b, hb, hbegins, hrenders⟩ := hall o ho hskipped
  refine ⟨b, hb, hbegins, fun r hr hvariant => ?_⟩
  rw [Linkage.line_mem_lines_iff, hrenders.name]
  -- the root is the one reference that is reached without a slot
  by_cases hroot : r = b.root
  · subst hroot
    rw [Blueprint.mem_importNames_iff]
    simp only [Blueprint.isNear_iff_of_reference hvariant, ne_eq, not_true, false_or]
    refine or_congr_right ⟨?_, ?_⟩
    · rintro ⟨r', ⟨hreference, q, hq, hreaches⟩, hother, hname⟩
      exact ⟨q, hq, r', hreaches, hreference, hother, hname⟩
    · rintro ⟨q, hq, r', hreaches, hreference, hother, hname⟩
      exact ⟨r', ⟨hreference, q, hq, hreaches⟩, hother, hname⟩
  · rcases Relation.reflTransGen_iff_eq_or_transGen.1 hr with heq | hslots
    · exact absurd heq hroot
    · exact iff_of_true (Blueprint.named_of_slots hslots hvariant) (.inl hroot)

/-- A name for an object that is a root too. -/
def aliasInput : Input where
  schema := ⟨#[Schema.plain "o" (.object []), Schema.plain "alias" (.reference 0)]⟩
  roots := [("alias", 1), ("o", 0)]

/-- The type of the alias is another model, and nothing is imported. -/
theorem imports_aliasInput : ∃ outputs,
    (target {} {}).generateComplete (completion {} {} {}) aliasInput = .ok outputs ∧
    ∃ o ∈ outputs, o.name = "Alias" ∧ ∃ b, o.blueprint = some b ∧
      b.main.variant = .reference ∧ b.resolvedName b.root = "O" ∧
      (Linkage.typeScript {} .byName).lines b = [] := by
  obtain ⟨outputs, hgenerate, -⟩ := (Linkage.typeScript {} .byName).exists_complete
    aliasInput (rfl : ({} : Settings).presets = []) rfl (by decide)
  obtain ⟨o, ho, -, b, hb, hname, hmain, hvariant, hparents, hresolved⟩ :=
    (Linkage.typeScript {} .byName).exists_output_within
      (P := fun b => b.main.name = "Alias" ∧ b.main.variant = .reference ∧
        b.main.options.parents = [] ∧ b.resolvedName b.root = "O")
      1 9 rfl rfl (by decide)
      (by cbv : (target {} {}).splitSchema aliasInput = aliasInput.schema)
      (by cbv : (target {} {}).independent aliasInput = [1, 0]) (by decide) (by decide)
      (by decide +kernel) hgenerate
  refine ⟨outputs, hgenerate, o, ho, hname.trans hmain, b, hb, hvariant, hresolved, ?_⟩
  rw [Linkage.lines_eq, List.map_eq_nil_iff, List.eq_nil_iff_forall_not_mem]
  intro name hmem
  obtain ⟨r, hnear, -⟩ := Blueprint.mem_importNames_iff.1 hmem
  obtain ⟨-, q, hq, -⟩ := (Blueprint.isNear_iff_of_reference hvariant).1 hnear
  rw [show (b.part b.root).options.parents = [] from hparents] at hq
  cases hq

/-- The order imports the item. -/
theorem imports_orderInput : ∃ outputs,
    (target {} {}).generateComplete (completion {} {} {}) orderInput = .ok outputs ∧
    ∃ o ∈ outputs, o.name = "Order" ∧ ∃ b, o.blueprint = some b ∧
      "import \x7b Item \x7d from \"./Item\";" ∈ (Linkage.typeScript {} .byName).lines b := by
  obtain ⟨outputs, hgenerate, hall⟩ :=
    imports_named_iff {} {} .byName orderInput rfl orderInput_inRange.roots
  obtain ⟨o, ho, -, b, hb, hname, hmain, hslot, hvariant, hresolved, hroot⟩ :=
    (Linkage.typeScript {} .byName).exists_output_within
      (P := fun b => b.main.name = "Order" ∧
        (⟨b.root, .slot 0, 1⟩ : Edge) ∈ b.slotEdges b.root ∧ (b.part 1).variant = .reference ∧
        b.resolvedName 1 = "Item" ∧ 1 ≠ b.root)
      0 12 rfl rfl orderInput_inRange.roots
      (by cbv : (target {} {}).splitSchema orderInput = orderSplit)
      (by cbv : (target {} {}).independent orderInput = [0, 3, 2]) (by decide) (by decide)
      (by decide +kernel) hgenerate
  obtain ⟨b', hb', -, hnamed⟩ := hall o ho
  obtain rfl : b' = b := Option.some.inj (hb'.symm.trans hb)
  have hline := (hnamed 1 (.single ⟨_, hslot, rfl⟩) hvariant).2 (.inl hroot)
  refine ⟨outputs, hgenerate, o, ho, hname.trans hmain, b', hb, ?_⟩
  simpa [hname, hmain, hresolved, Linkage.line, Linking.Import.modelLine] using hline

end TypeScript

end Modelsmith
