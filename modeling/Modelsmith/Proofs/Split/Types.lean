/-
# Splitting changes no type

The blueprint of a split schema has further parts for the references that splitting puts into
slots.  The types of sketches and of TypeScript do not tell the difference: a model that is
split out has its name for a type, and so has a reference to it.  As the same slots lead back in
both schemas, all models of before keep their types and the types in their slots.
-/
import Modelsmith.Proofs.Split.Insertion
import Modelsmith.Proofs.Success
import Modelsmith.Proofs.Typing.Acyclic
import Modelsmith.Proofs.Typing.Contents
import Modelsmith.Target.TypeScript

namespace Modelsmith

/-! ## Tables that splitting does not disturb -/

/-- Contexts of two blueprints in which a part has the same name and variant, resolves to the
same name if it is a reference, and has the same types in its slots if it is a container. -/
structure TypeContext.Alike (ctx ctx' : TypeContext) : Prop where
  name : ctx'.part.name = ctx.part.name
  variant : ctx'.part.variant = ctx.part.variant
  resolved : ctx.part.variant = .reference → ctx'.resolvedName = ctx.resolvedName
  slotTypes : ctx.part.variant.isSelfContained = false → ctx'.slotTypes = ctx.slotTypes

/-- A table that looks at nothing else, and for which the models that a policy splits out are
known by their names, as are references to them. -/
structure TypeTable.NamesSplit (table : TypeTable) (policy : SplitPolicy) : Prop where
  isLocal : table.IsLocal
  typeOf : ∀ ctx ctx' : TypeContext, ctx.Alike ctx' → table.typeOf ctx' = table.typeOf ctx
  any : ∀ ctx : TypeContext, ctx.part.variant = .any → table.typeOf ctx = .ok "any"
  safe : ∀ v, policy.applies v = true → v.isSelfContained = true
  split : ∀ ctx : TypeContext, policy.applies ctx.part.variant = true →
    table.typeOf ctx = .ok ctx.part.name
  reference : ∀ ctx : TypeContext, ctx.part.variant = .reference →
    ctx.resolvedName = ctx.part.name → table.typeOf ctx = .ok ctx.part.name

/-- Both targets split out objects and enumerations. -/
lemma applies_iff {v : Variant} : (⟨[.object, .enumeration]⟩ : SplitPolicy).applies v = true ↔
    v = .object ∨ v = .enumeration := by
  cases v <;> decide

namespace Sketch

/-- The type of a sketch, from the variant and the name of the part and the types in its
slots. -/
def typeText (name : String) (types : List String) : Variant → String
  | .any => "any"
  | .string => "string"
  | .integer | .float => "number"
  | .boolean => "boolean"
  | .object | .reference | .enumeration => name
  | .array => types.headD "any" ++ "[]"
  | .tuple => "[" ++ Text.joinWith ", " types ++ "]"
  | .union => Text.joinWith " | " types
  | .dictionary => "Map<" ++ Text.joinWith ", " types ++ ">"

lemma typeOf_eq (ctx : TypeContext) :
    types.typeOf ctx = .ok (typeText ctx.part.name ctx.slotTypes ctx.part.variant) := by
  rw [TypeTable.typeOf, Part.variant, TypeContext.slotTypes]
  cases hshape : ctx.part.shape with
  | array value => simp [types, typeText, Shape.variant, Shape.slots, hshape, pure, Except.pure]
  | _ => simp [types, typeText, Shape.variant, TypeContext.slotTypes, hshape, pure, Except.pure]

lemma types_namesSplit : types.NamesSplit policy where
  isLocal := types_isLocal
  typeOf ctx ctx' h := by
    rw [typeOf_eq, typeOf_eq, h.variant, h.name]
    have hslots := h.slotTypes
    cases hv : ctx.part.variant with
    | array | tuple | union | dictionary => rw [hslots (by rw [hv]; rfl)]
    | _ => rfl
  any ctx hany := by rw [typeOf_eq, hany, typeText]
  safe v hv := by rcases applies_iff.1 hv with rfl | rfl <;> rfl
  split ctx hv := by rcases applies_iff.1 hv with hv | hv <;> rw [typeOf_eq, hv, typeText]
  reference ctx href _ := by rw [typeOf_eq, href, typeText]

end Sketch

namespace TypeScript

/-- The type in TypeScript, from the variant of the part, its name, the name that it resolves
to, and the types in its slots. -/
def typeText (name resolved : String) (types : List String) : Variant → String
  | .any => "any"
  | .string => "string"
  | .integer | .float => "number"
  | .boolean => "boolean"
  | .object | .enumeration => name
  | .reference => resolved
  | .array => elementType (types.headD "any") ++ "[]"
  | .tuple => "[" ++ Text.joinWith ", " types ++ "]"
  | .union => Text.joinWith unionSign types
  | .dictionary => "Map<" ++ types.headD "string" ++ ", " ++ types.getLastD "any" ++ ">"

lemma typeOf_eq (ctx : TypeContext) : types.typeOf ctx =
    .ok (typeText ctx.part.name ctx.resolvedName ctx.slotTypes ctx.part.variant) := by
  rw [TypeTable.typeOf, Part.variant, TypeContext.slotTypes]
  cases hshape : ctx.part.shape <;>
    simp [types, typeText, Shape.variant, Shape.slots, hshape, pure, Except.pure,
      Function.comp_def]

lemma types_namesSplit : types.NamesSplit policy where
  isLocal := types_isLocal
  typeOf ctx ctx' h := by
    rw [typeOf_eq, typeOf_eq, h.variant, h.name]
    have hslots := h.slotTypes
    have hresolved := h.resolved
    cases hv : ctx.part.variant with
    | array | tuple | union | dictionary =>
      rw [hslots (by rw [hv]; rfl)]
      rfl
    | reference => rw [typeText, typeText, hresolved hv]
    | _ => rfl
  any ctx hany := by rw [typeOf_eq, hany, typeText]
  safe v hv := by rcases applies_iff.1 hv with rfl | rfl <;> rfl
  split ctx hv := by rcases applies_iff.1 hv with hv | hv <;> rw [typeOf_eq, hv, typeText]
  reference ctx href hresolved := by rw [typeOf_eq, href, typeText, hresolved]

end TypeScript

/-! ## Models of before -/

namespace Schema

variable {s : Schema} {policy : SplitPolicy} {table : TypeTable} {c : Naming.Convention}
  {separator : String} {valueText : Json → String} {root m : ModelId} {b b' : Blueprint}

/-- A part has the name that the convention gives to its model. -/
lemma blueprint_standalone (hm : m ∈ s.reached root)
    (h : s.blueprint table (.ofConvention c separator valueText) root = .ok b) :
    (b.part (s.placeOf root m)).name = c.standalone .model (s.model m).name :=
  (pure_eq_ok.1 (blueprint_modelName h hm)).symm

section Types

variable (htable : table.NamesSplit policy) (hclosed : s.IsClosed root)
  (hcycle : s.HasNoReferenceCycle)
  (h : s.blueprint table (.ofConvention c separator valueText) root = .ok b)
include htable hclosed hcycle h

/-- The type of a reached model is what the table writes in the blueprint. -/
lemma blueprint_type (hm : m ∈ s.reached root) :
    table.typeOf { blueprint := b, id := s.placeOf root m } =
      .ok (b.part (s.placeOf root m)).type := by
  have hlt : s.placeOf root m < b.size := by
    obtain ⟨b₀, hlower, -, hcut⟩ := blueprint_isCut h
    rw [hcut.size_of_bare, lower_size hlower]
    exact Nat.lt_of_lt_of_le (placeOf_lt_length hm) (Nat.le_add_right _ _)
  exact blueprint_settled htable.isLocal hclosed hcycle h hlt none

/-- A model to which the policy applies has its name for a type. -/
lemma type_of_applies (hm : m ∈ s.reached root)
    (happlies : policy.applies (s.model m).variant = true) :
    (b.part (s.placeOf root m)).type = c.standalone .model (s.model m).name := by
  have htype := blueprint_type htable hclosed hcycle h hm
  rw [htable.split] at htype
  · rw [← Except.ok.inj htype]
    exact blueprint_standalone hm h
  · exact (blueprint_variant h hm).symm ▸ happlies

/-- A reference with the name of what it refers to, to which the policy applies, has this name
for a type. -/
lemma type_of_reference {t : ModelId} (hm : m ∈ s.reached root)
    (hshape : (s.model m).shape = .reference t) (hname : (s.model m).name = (s.model t).name)
    (happlies : policy.applies (s.model t).variant = true) :
    (b.part (s.placeOf root m)).type = c.standalone .model (s.model t).name := by
  have hpart : (b.part (s.placeOf root m)).name = c.standalone .model (s.model t).name :=
    hname ▸ blueprint_standalone hm h
  -- what the policy applies to is no reference itself, so that one step resolves
  have htrail : Trail s.target? m [m, t] t :=
    .step (by rw [target?, hshape]; rfl) (.last (target?_eq_none_of_applies happlies))
  have hresolved := blueprint_resolvedName hclosed htable.isLocal hcycle h hm htrail none
  have htype := blueprint_type htable hclosed hcycle h hm
  rw [htable.reference] at htype
  · rw [← Except.ok.inj htype]
    exact hpart
  · rw [TypeContext.part, blueprint_variant h hm, Model.variant, hshape]
    rfl
  · rw [← pure_eq_ok.1 hresolved]
    exact hpart.symm

end Types

section Split

variable (htable : table.NamesSplit policy) (hparents : s.HasNoParents)
  (hclosed : s.IsClosed root) (hcycle : s.HasNoReferenceCycle)
  (h : s.blueprint table (.ofConvention c separator valueText) root = .ok b)
  (h' : (s.split policy root).blueprint table (.ofConvention c separator valueText) root = .ok b')
include htable hparents hclosed hcycle h h'

/-- A slot that is cut had the name of its content for a type, and still has. -/
lemma slotType_of_cut (hm : m ∈ s.reached root) {i k : Nat} {d : ModelId}
    (hk : (s.cuts policy root)[k]? = some ⟨m, .slot i, d⟩)
    (hcontent : ((s.split policy root).model m).shape.slots[i]? = some (s.size + k)) :
    (s.split policy root).slotType root b' m (s.size + k) = s.slotType root b m d := by
  obtain ⟨hclosed', hcycle', hm'⟩ := split_ready policy hparents hclosed hcycle hm
  have hcut := mem_cuts_iff_isSplitSlot.1 (List.mem_of_getElem? hk)
  have hlt : d < s.size := lt_size_of_applies hcut.applies
  have hd : d ∈ s.reached root := mem_reached_of_end hclosed (.slot i) hm hcut.content
  have hr : s.size + k ∈ (s.split policy root).reached root :=
    mem_reached_of_end hclosed' (.slot i) hm' hcontent
  have hmodel := model_split_add hk
  have hname : ((s.split policy root).model d).name = (s.model d).name := by
    rw [model_split_of_lt hlt]
  -- neither of the two slots leads back, as what they hold is of a safe variant
  have hback : ¬ s.LeadsBack root m d := fun hback => by
    simpa [htable.safe _ hcut.applies] using hback.1
  have hback' : ¬ (s.split policy root).LeadsBack root m (s.size + k) := fun hback => by
    have hother := hback.1
    rw [hmodel] at hother
    cases hother
  rw [slotType_of_not_leadsBack hback, slotType_of_not_leadsBack hback',
    type_of_applies htable hclosed hcycle h hd hcut.applies, ← hname]
  refine type_of_reference htable hclosed' hcycle' h' hr ?_ ?_ ?_
  · rw [hmodel]
    rfl
  · rw [hmodel, hname]
    rfl
  · rw [variant_split_of_lt hlt]
    exact hcut.applies

/-- A model keeps the types in its slots if what it holds there keeps its type, as far as it
does not lead back. -/
lemma slotTypes_split (hm : m ∈ s.reached root)
    (hsame : ∀ d ∈ (s.model m).shape.slots, ¬ s.LeadsBack root m d →
      (b'.part ((s.split policy root).placeOf root d)).type =
        (b.part (s.placeOf root d)).type) :
    (b'.part ((s.split policy root).placeOf root m)).shape.slots.map (fun j => (b'.part j).type) =
      (b.part (s.placeOf root m)).shape.slots.map fun j => (b.part j).type := by
  obtain ⟨hclosed', hcycle', hm'⟩ := split_ready policy hparents hclosed hcycle hm
  have hlt : m < s.size := lt_size_of_mem_walkOrder hm
  rw [blueprint_slotTypes htable.isLocal hclosed hcycle h htable.any hm,
    blueprint_slotTypes htable.isLocal hclosed' hcycle' h' htable.any hm', slots_split_of_lt hlt]
  apply List.ext_getElem
  · simp
  · intro i hi hi'
    rw [List.length_map] at hi'
    have hslot : (s.model m).shape.slots[i]? = some _ := List.getElem?_eq_getElem hi'
    have hd := mem_reached_of_end hclosed (.slot i) hm hslot
    rw [List.getElem_map, List.getElem_map, List.getElem_mapIdx]
    generalize (s.model m).shape.slots[i] = d at hslot hd ⊢
    -- the slot holds a new reference now, or what it held before
    rcases slotAfter_cases hslot with ⟨k, hk, hafter⟩ | ⟨hnot, hafter⟩
    · rw [hafter]
      refine slotType_of_cut htable hparents hclosed hcycle h h' hm hk ?_
      rw [slots_split_of_lt hlt, List.getElem?_mapIdx, hslot, Option.map_some, hafter]
    · rw [hafter]
      by_cases hback : s.LeadsBack root m d
      · rw [slotType_of_leadsBack hback,
          slotType_of_leadsBack ((leadsBack_split_iff hparents hclosed hm hd).2 hback)]
      · rw [slotType_of_not_leadsBack hback, slotType_of_not_leadsBack
          (mt (leadsBack_split_iff hparents hclosed hm hd).1 hback)]
        exact hsame d (List.mem_of_getElem? hslot) hback

/-- Splitting keeps the names to which models of before resolve. -/
lemma resolvedName_split (hm : m ∈ s.reached root) (property property' : Option (Property String)) :
    TypeContext.resolvedName
        { blueprint := b', id := (s.split policy root).placeOf root m, property := property' } =
      TypeContext.resolvedName { blueprint := b, id := s.placeOf root m, property } := by
  obtain ⟨hclosed', hcycle', hm'⟩ := split_ready policy hparents hclosed hcycle hm
  obtain ⟨path, last, htrail⟩ := exists_reached_trail hclosed hcycle hm
  obtain ⟨htrail', hlast⟩ : Trail (s.split policy root).target? (id m) (path.map id) (id last) ∧
      last ∈ s.reached root := by
    refine htrail.map (P := (· ∈ s.reached root)) hm (fun i hi => ?_) fun i j hi hij => ?_
    · rw [Option.map_id, id, target?, target?_split_of_lt (lt_size_of_mem_walkOrder hi)]
      rfl
    · exact mem_reached_of_end hclosed .target hi hij
  have hname : ((s.split policy root).model last).name = (s.model last).name := by
    rw [model_split_of_lt (lt_size_of_mem_walkOrder hlast)]
  have hresolved := blueprint_resolvedName hclosed htable.isLocal hcycle h hm htrail property
  have hresolved' := blueprint_resolvedName hclosed' htable.isLocal hcycle' h' hm' htrail' property'
  rw [← pure_eq_ok.1 hresolved, ← pure_eq_ok.1 hresolved', id, hname]

/-- A model keeps its type if it keeps the types in its slots, as far as its type contains
them. -/
lemma type_split (hm : m ∈ s.reached root)
    (hslots : (s.model m).variant.isSelfContained = false →
      (b'.part ((s.split policy root).placeOf root m)).shape.slots.map
          (fun j => (b'.part j).type) =
        (b.part (s.placeOf root m)).shape.slots.map fun j => (b.part j).type) :
    (b'.part ((s.split policy root).placeOf root m)).type = (b.part (s.placeOf root m)).type := by
  obtain ⟨hclosed', hcycle', hm'⟩ := split_ready policy hparents hclosed hcycle hm
  have hlt : m < s.size := lt_size_of_mem_walkOrder hm
  have hname : ((s.split policy root).model m).name = (s.model m).name := by
    rw [model_split_of_lt hlt]
  have hvariant := blueprint_variant h hm
  have halike : TypeContext.Alike { blueprint := b, id := s.placeOf root m }
      { blueprint := b', id := (s.split policy root).placeOf root m } := by
    refine ⟨?_, ?_, fun _ => ?_, fun hother => hslots (hvariant ▸ hother)⟩
    · rw [TypeContext.part, TypeContext.part, blueprint_standalone hm h,
        blueprint_standalone hm' h', hname]
    · rw [TypeContext.part, TypeContext.part, hvariant, blueprint_variant h' hm',
        variant_split_of_lt hlt]
    · exact resolvedName_split htable hparents hclosed hcycle h h' hm none none
  have htype := blueprint_type htable hclosed hcycle h hm
  have htype' := blueprint_type htable hclosed' hcycle' h' hm'
  rw [htable.typeOf _ _ halike, htype] at htype'
  exact (Except.ok.inj htype').symm

/-- Splitting keeps the types of all models of before and the types in their slots. -/
theorem types_split (hm : m ∈ s.reached root) :
    (b'.part ((s.split policy root).placeOf root m)).type = (b.part (s.placeOf root m)).type ∧
      (b'.part ((s.split policy root).placeOf root m)).shape.slots.map
          (fun j => (b'.part j).type) =
        (b.part (s.placeOf root m)).shape.slots.map fun j => (b.part j).type := by
  -- the induction is along the contents of unsafe variants, which are on no cycle in the blueprint
  -- of before; a content of a safe variant has its type without its slots
  have hwf := InvImage.wf (s.placeOf root) (isUnsafeBelow_wellFounded hclosed h)
  induction m using hwf.induction with
  | _ m ih =>
    have hslots : (b'.part ((s.split policy root).placeOf root m)).shape.slots.map
        (fun j => (b'.part j).type) =
          (b.part (s.placeOf root m)).shape.slots.map fun j => (b.part j).type := by
      refine slotTypes_split htable hparents hclosed hcycle h h' hm fun d hslot hback => ?_
      obtain ⟨i, hi⟩ := List.getElem?_of_mem hslot
      have hd : d ∈ s.reached root := mem_reached_of_end hclosed (.slot i) hm hi
      cases hsafe : (s.model d).variant.isSelfContained with
      | true => exact type_split htable hparents hclosed hcycle h h' hd (by simp [hsafe])
      | false =>
        -- a container is below the model, so that it has kept its type
        refine (ih d ⟨?_, ?_⟩ hd).1
        · rw [htable.isLocal.isSafe, blueprint_variant h hd, hsafe]
        · rcases blueprint_slot htable.isLocal.isSafe hclosed h hm hi with
            ⟨hleads, -⟩ | ⟨-, hcontent⟩
          · exact absurd hleads hback
          · refine ⟨⟨s.placeOf root m, .slot i, s.placeOf root d⟩, ?_, rfl⟩
            exact List.mem_append_left _ (mem_mapIdx_edge.2 ⟨rfl, i, rfl, hcontent⟩)
    exact ⟨type_split htable hparents hclosed hcycle h h' hm fun _ => hslots, hslots⟩

end Split

/-- For TypeScript and for sketches, splitting changes neither the type of a model that can be
reached nor the types in its slots, if no model has parents and there is no cycle of
references. -/
theorem split_keeps_types
    (htarget : (table = TypeScript.types ∧ policy = TypeScript.policy) ∨
      (table = Sketch.types ∧ policy = Sketch.policy))
    (c : Naming.Convention) (separator : String) (valueText : Json → String)
    (hparents : s.HasNoParents) (hcycle : s.HasNoReferenceCycle) (hclosed : s.IsClosed root) :
    ∃ b b', s.blueprint table (.ofConvention c separator valueText) root = .ok b ∧
      (s.split policy root).blueprint table (.ofConvention c separator valueText) root = .ok b' ∧
      ∀ m, Reaches s.edges root m →
        Reaches (s.split policy root).edges root m ∧
        (b'.part ((s.split policy root).placeOf root m)).type =
          (b.part (s.placeOf root m)).type ∧
        (b'.part ((s.split policy root).placeOf root m)).shape.slots.map
            (fun j => (b'.part j).type) =
          (b.part (s.placeOf root m)).shape.slots.map fun j => (b.part j).type := by
  have htable : table.NamesSplit policy ∧ table.IsTotal := by
    rcases htarget with ⟨rfl, rfl⟩ | ⟨rfl, rfl⟩
    · exact ⟨TypeScript.types_namesSplit, TypeScript.types_isTotal⟩
    · exact ⟨Sketch.types_namesSplit, Sketch.types_isTotal⟩
  have hrules := NamingRules.ofConvention_isTotal c separator valueText
  obtain ⟨b, hb⟩ := isOk_blueprint htable.2 hrules s root
  obtain ⟨b', hb'⟩ := isOk_blueprint htable.2 hrules (s.split policy root) root
  refine ⟨b, b', hb, hb', fun m hm => ⟨?_, ?_⟩⟩
  · exact (split_isInsertion hparents hclosed policy).reaches_of_old hm
  · rw [← mem_reached_iff hclosed] at hm
    exact types_split htable.1 hparents hclosed hcycle hb hb' hm

/-- A tree is a text or a list of branches, and a branch is an object that holds a tree. -/
def branchSample : Schema :=
  ⟨#[plain "tree" (.union [1, 2]), plain "branches" (.array 3), plain "leaf" .string,
    plain "branch" (.object [⟨"tree", 0, true, 3, ()⟩])]⟩

/-- Branches are split out; the tree inside of a branch leads back, before and after. -/
theorem split_keeps_types_branchSample :
    ∃ b b', branchSample.blueprint TypeScript.types (TypeScript.rules {}) 0 = .ok b ∧
      (branchSample.split TypeScript.policy 0).blueprint TypeScript.types (TypeScript.rules {}) 0 =
        .ok b' ∧
      b.parts.toList.map (·.type) = ["Branch[] | string", "Branch[]", "Branch", "string", "any"] ∧
      ∀ m, Reaches branchSample.edges 0 m →
        Reaches (branchSample.split TypeScript.policy 0).edges 0 m ∧
        (b'.part ((branchSample.split TypeScript.policy 0).placeOf 0 m)).type =
          (b.part (branchSample.placeOf 0 m)).type ∧
        (b'.part ((branchSample.split TypeScript.policy 0).placeOf 0 m)).shape.slots.map
            (fun j => (b'.part j).type) =
          (b.part (branchSample.placeOf 0 m)).shape.slots.map fun j => (b.part j).type := by
  have hparents : branchSample.HasNoParents := by
    intro id
    match id with
    | 0 | 1 | 2 | 3 | _ + 4 => rfl
  have hcycle : branchSample.HasNoReferenceCycle := hasNoReferenceCycle_of_targets (by decide)
  have hclosed : branchSample.IsClosed 0 := isClosed_of_range (by decide) (by decide)
  have hrun : (branchSample.blueprintWithin TypeScript.types (TypeScript.rules {}) 0 12).any
      (fun b => b.parts.toList.map (·.type) =
        ["Branch[] | string", "Branch[]", "Branch", "string", "any"]) = true := by
    decide +kernel
  obtain ⟨b₀, hb₀, htypes⟩ := blueprint_of_within hrun
  obtain ⟨b, b', hb, hb', hsame⟩ := split_keeps_types (.inl ⟨rfl, rfl⟩)
    (TypeScript.convention {}) "." TypeScript.entryLiteral hparents hcycle hclosed
  obtain rfl : b₀ = b := Except.ok.inj (hb₀.symm.trans hb)
  exact ⟨b₀, b', hb, hb', of_decide_eq_true htypes, hsame⟩

end Schema

end Modelsmith
