/-
# What a type depends on

The type tables of the three targets look at little: at the name, the format and the variant
of a part, at the name that a reference resolves to, and for containers at the types of the
parts in the slots.
-/
import Mathlib.Data.List.Basic
import Modelsmith.Target.RustTypes
import Modelsmith.Target.Sketch
import Modelsmith.Target.TypeScriptTypes

namespace Modelsmith

/-- Contexts that agree on what a type may depend on. -/
structure TypeContext.Agrees (ctx ctx' : TypeContext) : Prop where
  name : ctx'.part.name = ctx.part.name
  format : ctx'.part.options.format = ctx.part.options.format
  variant : ctx'.part.variant = ctx.part.variant
  resolved : ctx.part.variant = .reference → ctx'.resolvedName = ctx.resolvedName
  shape : ctx.part.variant.isSelfContained = false → ctx'.part.shape = ctx.part.shape
  slots : ctx.part.variant.isSelfContained = false →
    ∀ id ∈ ctx.part.shape.slots, ctx'.typeOf id = ctx.typeOf id

/-- A container has the same shape in contexts that agree, and the same types in its slots. -/
lemma TypeContext.Agrees.container {ctx ctx' : TypeContext} (h : ctx.Agrees ctx')
    {shape : Shape String Member} (hshape : ctx.part.shape = shape)
    (hother : shape.variant.isSelfContained = false) :
    ctx'.part.shape = shape ∧ shape.slots.map ctx'.typeOf = shape.slots.map ctx.typeOf := by
  subst hshape
  exact ⟨h.shape hother, List.map_congr_left (h.slots hother)⟩

/-- A table with the usual safe variants that looks at no more than this. -/
structure TypeTable.IsLocal (table : TypeTable) : Prop where
  isSafe : table.isSafe = Variant.isSelfContained
  typeOf : ∀ ctx ctx' : TypeContext, ctx.Agrees ctx' → table.typeOf ctx' = table.typeOf ctx

lemma Sketch.types_isLocal : Sketch.types.IsLocal := by
  refine ⟨rfl, fun ctx ctx' h => ?_⟩
  rw [TypeTable.typeOf, TypeTable.typeOf, h.variant, Part.variant]
  cases hshape : ctx.part.shape with
  | object | reference | enumeration => exact congrArg pure h.name
  | array value =>
    obtain ⟨hshape', htypes⟩ := h.container hshape rfl
    have hvalue : ctx'.typeOf value = ctx.typeOf value := by simpa [Shape.slots] using htypes
    simp only [Shape.variant, types, hshape, hshape', hvalue]
  | tuple | union | dictionary =>
    obtain ⟨hshape', htypes⟩ := h.container hshape rfl
    simp only [Shape.variant, types, TypeContext.slotTypes, hshape, hshape', htypes]
  | any | string | integer | float | boolean => rfl

lemma Rust.types_isLocal : Rust.types.IsLocal := by
  refine ⟨rfl, fun ctx ctx' h => ?_⟩
  rw [TypeTable.typeOf, TypeTable.typeOf, h.variant, Part.variant]
  cases hshape : ctx.part.shape with
  | string | integer | float => simp only [Shape.variant, types, h.format]
  | object | enumeration | tuple | union => exact congrArg pure h.name
  | reference target => exact congrArg pure (h.resolved (congrArg Shape.variant hshape))
  | array value =>
    obtain ⟨hshape', htypes⟩ := h.container hshape rfl
    have hvalue : ctx'.typeOf value = ctx.typeOf value := by simpa [Shape.slots] using htypes
    simp only [Shape.variant, types, hshape, hshape', hvalue]
  | dictionary key value layout =>
    obtain ⟨hshape', htypes⟩ := h.container hshape rfl
    obtain ⟨hkey, hvalue⟩ : ctx'.typeOf key = ctx.typeOf key ∧
        ctx'.typeOf value = ctx.typeOf value := by simpa [Shape.slots] using htypes
    simp only [Shape.variant, types, hshape, hshape', hkey, hvalue]
  | any | boolean => rfl

lemma TypeScript.types_isLocal : TypeScript.types.IsLocal := by
  refine ⟨rfl, fun ctx ctx' h => ?_⟩
  rw [TypeTable.typeOf, TypeTable.typeOf, h.variant, Part.variant]
  cases hshape : ctx.part.shape with
  | object | enumeration => exact congrArg pure h.name
  | reference target => exact congrArg pure (h.resolved (congrArg Shape.variant hshape))
  | array value =>
    obtain ⟨hshape', htypes⟩ := h.container hshape rfl
    have hvalue : ctx'.typeOf value = ctx.typeOf value := by simpa [Shape.slots] using htypes
    simp only [Shape.variant, types, hshape, hshape', hvalue]
  | tuple positions =>
    obtain ⟨hshape', htypes⟩ := h.container hshape rfl
    have hpositions : positions.map (fun p => ctx'.typeOf p.model) =
        positions.map fun p => ctx.typeOf p.model := by
      simpa [Shape.slots, Function.comp_def] using htypes
    simp only [Shape.variant, types, hshape, hshape', hpositions]
  | union members =>
    obtain ⟨hshape', htypes⟩ := h.container hshape rfl
    have hmembers : members.map ctx'.typeOf = members.map ctx.typeOf := htypes
    simp only [Shape.variant, types, hshape, hshape', hmembers]
  | dictionary key value layout =>
    obtain ⟨hshape', htypes⟩ := h.container hshape rfl
    obtain ⟨hkey, hvalue⟩ : ctx'.typeOf key = ctx.typeOf key ∧
        ctx'.typeOf value = ctx.typeOf value := by simpa [Shape.slots] using htypes
    simp only [Shape.variant, types, hshape, hshape', hkey, hvalue]
  | any | string | integer | float | boolean => rfl

end Modelsmith
