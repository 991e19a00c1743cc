/-
# Blueprints that exist

Naming rules and type tables may refuse.  If they never do, nothing else can go wrong: every
model of every schema has a blueprint.  The naming rules of a convention and the type tables of
the three targets never refuse.
-/
import Modelsmith.Proofs.Lowering
import Modelsmith.Target.RustTypes
import Modelsmith.Target.Sketch
import Modelsmith.Target.TypeScriptTypes

namespace Modelsmith

/-! ## Computations that succeed -/

/-- Whether a computation has a result. -/
def IsOk {ε α : Type} (x : Except ε α) : Prop := ∃ a, x = .ok a

lemma isOk_pure {ε α : Type} (a : α) : IsOk (pure a : Except ε α) := ⟨a, rfl⟩

lemma IsOk.bind {ε α β : Type} {x : Except ε α} {f : α → Except ε β} (hx : IsOk x)
    (hf : ∀ a, IsOk (f a)) : IsOk (x >>= f) := by
  obtain ⟨a, ha⟩ := hx
  obtain ⟨b, hb⟩ := hf a
  exact ⟨b, bind_eq_ok.2 ⟨a, ha, hb⟩⟩

lemma IsOk.blame {α : Type} {model : String} {result : Except Fault α} (h : IsOk result) :
    IsOk (blame model result) := by
  obtain ⟨a, ha⟩ := h
  exact ⟨a, blame_eq_ok.2 ha⟩

/-- If a function has a result of some kind for each member of a list, mapping it gives a list
of such results. -/
lemma exists_mapM_eq_ok {ε α β : Type} {f : α → Except ε β} {P : α → β → Prop} {xs : List α}
    (h : ∀ x ∈ xs, ∃ y, f x = .ok y ∧ P x y) :
    ∃ ys, xs.mapM f = .ok ys ∧ List.Forall₂ P xs ys := by
  have hall : ∃ ys, List.Forall₂ (fun x y => f x = .ok y ∧ P x y) xs ys := by
    induction xs with
    | nil => exact ⟨[], .nil⟩
    | cons x xs ih =>
      obtain ⟨y, hy⟩ := h x (by simp)
      obtain ⟨ys, hys⟩ := ih fun x hx => h x (by simp [hx])
      exact ⟨y :: ys, .cons hy hys⟩
  obtain ⟨ys, hys⟩ := hall
  exact ⟨ys, mapM_eq_ok.2 (hys.imp fun _ _ hy => hy.1), hys.imp fun _ _ hy => hy.2⟩

lemma isOk_mapM {ε α β : Type} {f : α → Except ε β} (hf : ∀ a, IsOk (f a)) (xs : List α) :
    IsOk (xs.mapM f) := by
  have hall : ∀ x ∈ xs, ∃ y, f x = .ok y ∧ True :=
    fun x _ => (hf x).imp fun _ hy => ⟨hy, trivial⟩
  obtain ⟨ys, hys, -⟩ := exists_mapM_eq_ok (P := fun _ _ => True) hall
  exact ⟨ys, hys⟩

lemma isOk_foldlM {ε α β : Type} {f : β → α → Except ε β} (hf : ∀ b a, IsOk (f b a))
    (xs : List α) (b : β) : IsOk (xs.foldlM f b) := by
  induction xs generalizing b with
  | nil => exact isOk_pure b
  | cons x xs ih =>
    rw [List.foldlM_cons]
    exact (hf b x).bind ih

/-! ## Rules and tables that never refuse -/

/-- Naming rules that answer every question. -/
structure NamingRules.IsTotal (rules : NamingRules) : Prop where
  modelName : ∀ s m, IsOk (rules.modelName s m)
  propertyKey : ∀ m p earlier, IsOk (rules.propertyKey m p earlier)
  enumKey : ∀ m e earlier, IsOk (rules.enumKey m e earlier)
  enumValue : ∀ m e, IsOk (rules.enumValue m e)
  constant : ∀ b p value, IsOk (rules.constant b p value)

/-- A type table that writes a type for every part. -/
def TypeTable.IsTotal (table : TypeTable) : Prop := ∀ ctx, IsOk (table.typeOf ctx)

lemma NamingRules.ofConvention_isTotal (c : Naming.Convention) (separator : String)
    (valueText : Json → String) : (ofConvention c separator valueText).IsTotal where
  modelName _ _ := isOk_pure _
  propertyKey _ _ _ := isOk_pure _
  enumKey _ _ _ := isOk_pure _
  enumValue _ _ := isOk_pure _
  constant _ _ _ := isOk_pure _

lemma Rust.types_isTotal : Rust.types.IsTotal := fun _ => isOk_pure _

lemma TypeScript.types_isTotal : TypeScript.types.IsTotal := fun _ => isOk_pure _

lemma Sketch.types_isTotal : Sketch.types.IsTotal := fun _ => isOk_pure _

/-! ## Lowering -/

section Lowering

variable {rules : NamingRules} (hrules : rules.IsTotal)
include hrules

lemma NamingRules.isOk_properties (object : Model) (place : ModelId → ModelId) (owner : ModelId)
    (earlier : List (Property String)) (ps : List (Property Unit)) :
    IsOk (rules.properties object place owner earlier ps) := by
  induction ps generalizing earlier with
  | nil => exact isOk_pure []
  | cons p ps ih =>
    exact (hrules.propertyKey object p earlier).bind fun key =>
      (ih (earlier ++ [p.lower place owner key])).bind fun qs => isOk_pure (_ :: qs)

lemma NamingRules.isOk_members (m : Model) (earlier : List (Entry Member))
    (es : List (Entry Unit)) : IsOk (rules.members m earlier es) := by
  induction es generalizing earlier with
  | nil => exact isOk_pure []
  | cons e es ih =>
    exact (hrules.enumKey m e earlier).bind fun key => (hrules.enumValue m e).bind fun text =>
      (ih (earlier ++ [⟨e.key, e.value, ⟨key, text⟩⟩])).bind fun fs => isOk_pure (_ :: fs)

lemma Schema.isOk_lowerShape (m : Model) (place : ModelId → ModelId) (owner : ModelId) :
    IsOk (lowerShape rules m place owner) := by
  obtain ⟨name, input, options, shape⟩ := m
  cases shape with
  | object ps =>
    exact (NamingRules.isOk_properties hrules _ place owner [] ps).bind fun qs => isOk_pure _
  | enumeration es => exact (NamingRules.isOk_members hrules _ [] es).bind fun fs => isOk_pure _
  | _ => exact isOk_pure _

lemma Schema.isOk_lowerModel (s : Schema) (place : ModelId → ModelId) (id : ModelId) :
    IsOk (s.lowerModel rules place id) :=
  IsOk.blame <| (hrules.modelName s _).bind fun _ =>
    (isOk_lowerShape hrules _ place _).bind fun _ => isOk_pure _

lemma Schema.isOk_lower (s : Schema) (root : ModelId) : IsOk (s.lower rules root) := by
  obtain ⟨parts, hparts⟩ := isOk_mapM (isOk_lowerModel hrules s
    fun id => (places s.size (s.reached root)).getD id (s.reached root).length) (s.reached root)
  refine ⟨{ parts := parts.toArray }, ?_⟩
  simp only [lower, hparts]
  rfl

end Lowering

/-! ## Typing -/

namespace Blueprint

variable {table : TypeTable} {rules : NamingRules}

lemma isOk_assignType (htable : table.IsTotal) (id : ModelId)
    (property : Option (Property String)) (b : Blueprint) :
    IsOk (b.assignType table id property) :=
  (htable _).blame.bind fun _ => isOk_pure _

lemma isOk_assignConstant (hrules : rules.IsTotal) (id : ModelId) (b : Blueprint) :
    IsOk (b.assignConstant rules id) := by
  simp only [assignConstant]
  split
  · exact isOk_pure b
  · exact (hrules.constant b _ _).blame.bind fun _ => isOk_pure _

variable (htable : table.IsTotal) (hrules : rules.IsTotal)
include htable hrules

lemma isOk_cutCycle (v : Visit) (b : Blueprint) : IsOk (b.cutCycle table rules v) :=
  (isOk_assignType htable _ _ _).bind fun c =>
    (isOk_assignConstant hrules _ c).bind fun _ => isOk_pure _

lemma isOk_typeEvent (b : Blueprint) (event : Event) : IsOk (typeEvent table rules b event) := by
  cases event with
  | enter v =>
    simp only [typeEvent]
    split
    · exact isOk_pure b
    · refine (isOk_assignType htable _ _ _).bind fun c => ?_
      split
      · exact isOk_pure c
      · exact isOk_assignConstant hrules _ c
  | again v o =>
    simp only [typeEvent]
    split
    · exact isOk_cutCycle htable hrules v b
    · exact isOk_pure b
  | leave v =>
    simp only [typeEvent]
    split
    · refine (isOk_pure b).bind fun c => ?_
      split
      · exact isOk_assignConstant hrules _ c
      · exact isOk_pure _
      · exact isOk_pure c
    · refine (isOk_assignType htable _ _ _).bind fun c => ?_
      refine (isOk_assignConstant hrules _ c).bind fun d => ?_
      split
      · exact isOk_assignConstant hrules _ d
      · exact isOk_pure _
      · exact isOk_pure d

end Blueprint

/-- If neither the rules nor the table refuse, every model has a blueprint. -/
theorem Schema.isOk_blueprint {table : TypeTable} {rules : NamingRules} (htable : table.IsTotal)
    (hrules : rules.IsTotal) (s : Schema) (root : ModelId) :
    IsOk (s.blueprint table rules root) :=
  (isOk_lower hrules s root).bind fun b =>
    isOk_foldlM (Blueprint.isOk_typeEvent htable hrules) _ b

end Modelsmith
