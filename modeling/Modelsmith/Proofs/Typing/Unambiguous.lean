/-
# Types of parts are unambiguous

Every part of a blueprint stands for a tree of types: objects, enumerations and references for
a name, and containers for the trees of what they hold.  No container comes back to itself on
its way down, so that there is one tree for each part.  The type of the part is the text of
its tree, and so the types of two parts, of one blueprint or of two, are the same exactly if
their trees differ in the nesting of unions only.
-/
import Modelsmith.Proofs.Correspondence
import Modelsmith.Proofs.Identifiers
import Modelsmith.Proofs.Split.Types
import Modelsmith.Proofs.Success
import Modelsmith.Proofs.Typing.Acyclic
import Modelsmith.Proofs.Typing.Contents
import Modelsmith.Proofs.Typing.Tree

namespace Modelsmith

open TypeScript (TypeTree IsModelName)

namespace Blueprint

/-! ## Trees of parts -/

/-- The tree of a part that is no container.  A reference has the name of what it refers to in
the end. -/
def leafTree? (b : Blueprint) (id : ModelId) : Option TypeTree :=
  match (b.part id).shape with
  | .any => some (.primitive .any)
  | .string => some (.primitive .string)
  | .integer | .float => some (.primitive .number)
  | .boolean => some (.primitive .boolean)
  | .object _ | .enumeration _ => some (.named (b.part id).name)
  | .reference _ => some (.named (b.part (b.resolve id)).name)
  | .array _ | .tuple _ | .union _ | .dictionary .. => none

/-- The trees of the parts of a blueprint. -/
inductive HasTree (b : Blueprint) : ModelId → TypeTree → Prop where
  | leaf {id : ModelId} {t : TypeTree} (leaf : b.leafTree? id = some t) : HasTree b id t
  | array {id value : ModelId} {t : TypeTree} (shape : (b.part id).shape = .array value)
      (element : HasTree b value t) : HasTree b id (.array t)
  | tuple {id : ModelId} {positions : List Position} {ts : List TypeTree}
      (shape : (b.part id).shape = .tuple positions)
      (elements : List.Forall₂ (HasTree b) (positions.map (·.model)) ts) : HasTree b id (.tuple ts)
  | union {id : ModelId} {members : List ModelId} {ts : List TypeTree}
      (shape : (b.part id).shape = .union members)
      (members : List.Forall₂ (HasTree b) members ts) : HasTree b id (.union ts)
  | dictionary {id key value : ModelId} {layout : DictionaryLayout} {k v : TypeTree}
      (shape : (b.part id).shape = .dictionary key value layout) (key : HasTree b key k)
      (value : HasTree b value v) : HasTree b id (.map k v)

/-- A part that stands for exactly one tree and whose type is the text of this tree. -/
structure Reads (b : Blueprint) (id : ModelId) (t : TypeTree) : Prop where
  hasTree : b.HasTree id t
  unique : ∀ u, b.HasTree id u → u = t
  type : (b.part id).type = t.text
  proper : t.IsProper

/-- What has to be known of a blueprint to read its types. -/
structure IsReadable (b : Blueprint) : Prop where
  type : ∀ id < b.size, (b.part id).type = TypeScript.typeText (b.part id).name
    (b.part (b.resolve id)).name ((b.part id).shape.slots.map fun j => (b.part j).type)
    (b.part id).variant
  isModelName : ∀ id < b.size, ∀ name, b.leafTree? id = some (.named name) → IsModelName name
  union : ∀ id < b.size, (b.part id).shape ≠ .union []
  isClosed : b.IsClosed
  acyclic : WellFounded (b.IsUnsafeBelow TypeScript.types)

variable {b : Blueprint} {id : ModelId}

/-- Lists of parts that stand for one tree each. -/
lemma forall₂_reads {ids : List ModelId} (h : ∀ c ∈ ids, ∃ t, b.Reads c t) :
    ∃ ts, List.Forall₂ b.HasTree ids ts ∧ (∀ us, List.Forall₂ b.HasTree ids us → us = ts) ∧
      ids.map (fun c => (b.part c).type) = ts.map (·.text) ∧ ∀ t ∈ ts, t.IsProper := by
  induction ids with
  | nil => exact ⟨[], .nil, fun us hus => by cases hus; rfl, rfl, by simp⟩
  | cons c ids ih =>
    obtain ⟨t, ht⟩ := h c (by simp)
    obtain ⟨ts, htrees, hunique, htypes, hproper⟩ := ih fun d hd => h d (by simp [hd])
    refine ⟨t :: ts, .cons ht.hasTree htrees, ?_, ?_, ?_⟩
    · intro us hus
      cases hus with
      | cons hu hus => rw [ht.unique _ hu, hunique _ hus]
    · simp [ht.type, htypes]
    · simpa [ht.proper] using hproper

lemma isSelfContained_of_leafTree? (hleaf : b.leafTree? id = none) :
    (b.part id).variant.isSelfContained = false := by
  cases hshape : (b.part id).shape with
  | array | tuple | union | dictionary =>
    rw [Part.variant, hshape]
    rfl
  | _ => simp [leafTree?, hshape] at hleaf

/-- The names in the trees of leaves. -/
lemma name_of_leafTree? {name : String} (hleaf : b.leafTree? id = some (.named name)) :
    name = (b.part id).name ∨ name = (b.part (b.resolve id)).name := by
  cases hshape : (b.part id).shape with
  | object | enumeration => exact .inl (by simpa [leafTree?, hshape] using hleaf.symm)
  | reference target => exact .inr (by simpa [leafTree?, hshape] using hleaf.symm)
  | _ => simp [leafTree?, hshape] at hleaf

namespace IsReadable

variable (h : b.IsReadable)
include h

/-- A part that is no container stands for one tree. -/
lemma reads_leaf (hid : id < b.size) {t : TypeTree} (hleaf : b.leafTree? id = some t) :
    b.Reads id t := by
  refine ⟨.leaf hleaf, fun u hu => ?_, ?_, ?_⟩
  · cases hu with
    | leaf leaf => exact Option.some.inj (leaf.symm.trans hleaf)
    | array shape | tuple shape | union shape | dictionary shape =>
      simp [leafTree?, shape] at hleaf
  · rw [h.type id hid, Part.variant]
    cases hshape : (b.part id).shape with
    | array | tuple | union | dictionary => simp [leafTree?, hshape] at hleaf
    | _ =>
      simp only [leafTree?, hshape] at hleaf
      obtain rfl := Option.some.inj hleaf
      rw [TypeTree.text]
      rfl
  · cases t with
    | primitive p => exact .primitive p
    | named name => exact .named (h.isModelName id hid name hleaf)
    | _ =>
      rw [leafTree?] at hleaf
      split at hleaf <;> simp at hleaf

/-! Containers stand for one tree if all that they hold does. -/

section Containers

variable (hid : id < b.size)
include hid

/-- What the type of a part is written from, given its shape. -/
lemma type_eq {shape : Shape String Member} (hshape : (b.part id).shape = shape) :
    (b.part id).type = TypeScript.typeText (b.part id).name (b.part (b.resolve id)).name
      (shape.slots.map fun j => (b.part j).type) shape.variant := by
  rw [h.type id hid, Part.variant, hshape]

lemma reads_array {value : ModelId} (hshape : (b.part id).shape = .array value) {t : TypeTree}
    (ht : b.Reads value t) : b.Reads id (.array t) := by
  refine ⟨.array hshape ht.hasTree, fun u hu => ?_, ?_, .array ht.proper⟩
  · cases hu with
    | leaf leaf => simp [leafTree?, hshape] at leaf
    | array shape element =>
      obtain rfl : value = _ := by simpa [hshape] using shape
      rw [ht.unique _ element]
    | tuple shape | union shape | dictionary shape => simp [hshape] at shape
  · rw [h.type_eq hid hshape, TypeTree.text, ← ht.type]
    rfl

lemma reads_tuple {positions : List Position} (hshape : (b.part id).shape = .tuple positions)
    (hslots : ∀ c ∈ positions.map (·.model), ∃ t, b.Reads c t) : ∃ t, b.Reads id t := by
  obtain ⟨ts, htrees, hunique, htypes, hproper⟩ := forall₂_reads hslots
  refine ⟨.tuple ts, .tuple hshape htrees, fun u hu => ?_, ?_, .tuple hproper⟩
  · cases hu with
    | leaf leaf => simp [leafTree?, hshape] at leaf
    | tuple shape elements =>
      obtain rfl : positions = _ := by simpa [hshape] using shape
      rw [hunique _ elements]
    | array shape | union shape | dictionary shape => simp [hshape] at shape
  · rw [h.type_eq hid hshape, TypeTree.text, ← htypes]
    rfl

lemma reads_union {members : List ModelId} (hshape : (b.part id).shape = .union members)
    (hslots : ∀ c ∈ members, ∃ t, b.Reads c t) : ∃ t, b.Reads id t := by
  obtain ⟨ts, htrees, hunique, htypes, hproper⟩ := forall₂_reads hslots
  have hne : ts ≠ [] := by
    rintro rfl
    obtain rfl : members = [] := List.forall₂_nil_right_iff.1 htrees
    exact h.union id hid hshape
  refine ⟨.union ts, .union hshape htrees, fun u hu => ?_, ?_, .union hne hproper⟩
  · cases hu with
    | leaf leaf => simp [leafTree?, hshape] at leaf
    | union shape trees =>
      obtain rfl : members = _ := by simpa [hshape] using shape
      rw [hunique _ trees]
    | array shape | tuple shape | dictionary shape => simp [hshape] at shape
  · rw [h.type_eq hid hshape, TypeTree.text, ← htypes]
    rfl

lemma reads_dictionary {key value : ModelId} {layout : DictionaryLayout}
    (hshape : (b.part id).shape = .dictionary key value layout) {k v : TypeTree}
    (hk : b.Reads key k) (hv : b.Reads value v) : b.Reads id (.map k v) := by
  refine ⟨.dictionary hshape hk.hasTree hv.hasTree, fun u hu => ?_, ?_, .map hk.proper hv.proper⟩
  · cases hu with
    | leaf leaf => simp [leafTree?, hshape] at leaf
    | dictionary shape keyTree valueTree =>
      obtain ⟨rfl, rfl, -⟩ : key = _ ∧ value = _ ∧ layout = _ := by simpa [hshape] using shape
      rw [hk.unique _ keyTree, hv.unique _ valueTree]
    | array shape | tuple shape | union shape => simp [hshape] at shape
  · rw [h.type_eq hid hshape, TypeTree.text, ← hk.type, ← hv.type]
    rfl

end Containers

/-- Every part stands for one tree.  The induction goes down from containers to containers. -/
theorem exists_reads (hid : id < b.size) : ∃ t, b.Reads id t := by
  induction id using h.acyclic.induction with
  | _ id ih =>
    have hslots : ∀ c ∈ (b.part id).shape.slots, ∃ t, b.Reads c t := by
      intro c hc
      obtain ⟨i, hi⟩ := List.mem_iff_getElem?.1 hc
      have he : (⟨id, .slot i, c⟩ : Edge) ∈ b.edges id := mem_edges.2 ⟨rfl, hi⟩
      have hlt : c < b.size := h.isClosed id hid _ he
      cases hleaf : b.leafTree? c with
      | some t => exact ⟨t, h.reads_leaf hlt hleaf⟩
      | none =>
        have hother := isSelfContained_of_leafTree? hleaf
        exact ih c ⟨hother, _, mem_contentEdges.2 ⟨he, by simp⟩, rfl⟩ hlt
    cases hleaf : b.leafTree? id with
    | some t => exact ⟨t, h.reads_leaf hid hleaf⟩
    | none =>
      cases hshape : (b.part id).shape with
      | array value =>
        obtain ⟨t, ht⟩ := hslots value (by simp [hshape, Shape.slots])
        exact ⟨_, h.reads_array hid hshape ht⟩
      | tuple positions =>
        rw [hshape] at hslots
        exact h.reads_tuple hid hshape hslots
      | union members =>
        rw [hshape] at hslots
        exact h.reads_union hid hshape hslots
      | dictionary key value layout =>
        obtain ⟨k, hk⟩ := hslots key (by simp [hshape, Shape.slots])
        obtain ⟨v, hv⟩ := hslots value (by simp [hshape, Shape.slots])
        exact ⟨_, h.reads_dictionary hid hshape hk hv⟩
      | _ => simp [leafTree?, hshape] at hleaf

/-- A part has exactly one tree. -/
theorem existsUnique_tree (hid : id < b.size) : ∃! t, b.HasTree id t := by
  obtain ⟨t, ht⟩ := h.exists_reads hid
  exact ⟨t, ht.hasTree, ht.unique⟩

/-- Two parts have the same type exactly if their trees are the same up to the nesting of
unions. -/
theorem type_eq_iff {b' : Blueprint} {id' : ModelId} (h' : b'.IsReadable) (hid : id < b.size)
    (hid' : id' < b'.size) {t t' : TypeTree} (ht : b.HasTree id t) (ht' : b'.HasTree id' t') :
    (b.part id).type = (b'.part id').type ↔ t.normal = t'.normal := by
  obtain ⟨u, hu⟩ := h.exists_reads hid
  obtain ⟨u', hu'⟩ := h'.exists_reads hid'
  obtain rfl : t = u := hu.unique t ht
  obtain rfl : t' = u' := hu'.unique t' ht'
  rw [hu.type, hu'.type]
  exact hu.proper.text_eq_iff hu'.proper

end IsReadable

end Blueprint

/-! ## Blueprints of schemas -/

namespace Schema

variable {s s' : Schema} {separator : String} {valueText : Json → String} {root root' : ModelId}
  {table : TypeTable} {rules : NamingRules} {b : Blueprint}

/-- The names of the convention can be read in a type: they have neither signs nor the words
for primitive types. -/
lemma isModelName_standalone (raw : String) :
    IsModelName (Naming.typeScript.standalone .model raw) := by
  have hspares : Naming.typeScript.SparesMark := sparesMark_of_mem (by simp)
  obtain ⟨k, hends, heq, -⟩ := Naming.Convention.ends_identifier hspares .model [] raw
  have hname := Naming.Convention.isName_identifier .model [] hspares raw
  have hidentifier : Naming.IsIdentifier (Naming.typeScript.standalone .model raw) := by
    rw [Naming.Convention.standalone, heq]
    exact hends.isIdentifier (by decide)
  refine ⟨hname.ne_empty, fun c hc hsign => ?_, fun p hp => ?_⟩
  · have hascii : TypeScript.signs.all (fun c => c.toNat < 0x80 && !c.isAlphanum) = true := by
      decide
    obtain ⟨hlt, hother⟩ : c.toNat < 0x80 ∧ c.isAlphanum = false := by
      simpa using List.all_eq_true.1 hascii c hsign
    rcases hidentifier.ascii c hc hlt with halphanum | rfl
    · simp [halphanum] at hother
    · exact absurd hsign (by decide)
  · have hreserved : Naming.typeScript.isReserved p.word = true := by cases p <;> decide +kernel
    have hfree := hname.not_reserved
    rw [← Naming.Convention.standalone, hp, hreserved] at hfree
    cases hfree

/-- A part is of any value, or it is the image of a model. -/
lemma isImage_or_any (hclosed : s.IsClosed root) (h : s.blueprint table rules root = .ok b)
    {id : ModelId} (hid : id < b.size) :
    (b.part id).shape = .any ∨
      ∃ m ∈ s.reached root, s.placeOf root m = id ∧ s.IsImage rules b m id := by
  obtain ⟨b₀, hlower, hcuts, hcut⟩ := blueprint_isCut h
  rcases hcut.part_cases hid with ⟨hid₀, -⟩ | ⟨v, -, -, hstand⟩
  · rw [lower_size hlower] at hid₀
    have hmem := List.getElem_mem hid₀
    have hplace := placeOf_reached_getElem hid₀
    have himage := isImage_placeOf hclosed hlower hcuts hcut hmem
    rw [hplace] at himage
    exact .inr ⟨_, hmem, hplace, himage⟩
  · left
    rw [← Part.shape_bare, hstand]

/-- What a schema has to be for its types to be read: without dangling links, without cycles of
references and without unions that have no members. -/
structure IsReadable (s : Schema) (root : ModelId) : Prop where
  isClosed : s.IsClosed root
  noReferenceCycle : s.HasNoReferenceCycle
  noEmptyUnion : ∀ id, (s.model id).shape ≠ .union []

namespace IsReadable

variable (hs : s.IsReadable root) (h : s.blueprint TypeScript.types
  (.ofConvention Naming.typeScript separator valueText) root = .ok b)
include hs h

/-- The names of parts and those at the ends of references come from the convention. -/
lemma isModelName {id : ModelId} (hid : id < b.size) {name : String}
    (hleaf : b.leafTree? id = some (.named name)) : IsModelName name := by
  rcases isImage_or_any hs.isClosed h hid with hany | ⟨m, hm, rfl, himage⟩
  · simp [Blueprint.leafTree?, hany] at hleaf
  · obtain ⟨path, last, htrail⟩ := exists_reached_trail hs.isClosed hs.noReferenceCycle hm
    have hresolved := blueprint_resolvedName hs.isClosed TypeScript.types_isLocal
      hs.noReferenceCycle h hm htrail none
    have hname : Naming.typeScript.standalone .model (s.model m).name =
        (b.part (s.placeOf root m)).name := pure_eq_ok.1 himage.name
    have hend : Naming.typeScript.standalone .model (s.model last).name =
        (b.part (b.resolve (s.placeOf root m))).name := pure_eq_ok.1 hresolved
    rcases Blueprint.name_of_leafTree? hleaf with rfl | rfl
    · exact hname ▸ isModelName_standalone _
    · exact hend ▸ isModelName_standalone _

lemma shape_ne_union_nil {id : ModelId} (hid : id < b.size) : (b.part id).shape ≠ .union [] := by
  intro hshape
  rcases isImage_or_any hs.isClosed h hid with hany | ⟨m, -, -, himage⟩
  · simp [hany] at hshape
  · have hmirrors := himage.shape
    have hnone := hs.noEmptyUnion m
    rw [hshape] at hmirrors
    generalize (s.model m).shape = shape at hmirrors hnone
    cases hmirrors with
    | union members =>
      cases members
      exact hnone rfl

lemma blueprint_isReadable : b.IsReadable := by
  obtain ⟨b₀, hlower, hcuts, hcut⟩ := blueprint_isCut h
  refine ⟨fun id hid => ?_, fun id hid name => hs.isModelName h hid,
    fun id hid => hs.shape_ne_union_nil h hid,
    (inRange_of_isCut hs.isClosed hlower hcuts hcut).edges,
    isUnsafeBelow_wellFounded hs.isClosed h⟩
  have hwritten := blueprint_settled TypeScript.types_isLocal hs.isClosed hs.noReferenceCycle h
    hid none
  rw [TypeScript.typeOf_eq] at hwritten
  exact (Except.ok.inj hwritten).symm

end IsReadable

/-- In the blueprints of two schemas, which may be the same, every part stands for one tree of
types, and two parts have the same type exactly if their trees are the same up to the nesting of
unions.  Hence an array of a union is never written like a union with an array at its end. -/
theorem types_unambiguous (separator : String) (valueText : Json → String)
    (hs : s.IsReadable root) (hs' : s'.IsReadable root') :
    ∃ b b', s.blueprint TypeScript.types (.ofConvention Naming.typeScript separator valueText)
        root = .ok b ∧
      s'.blueprint TypeScript.types (.ofConvention Naming.typeScript separator valueText)
        root' = .ok b' ∧
      (∀ id < b.size, ∃! t, b.HasTree id t) ∧ (∀ id < b'.size, ∃! t, b'.HasTree id t) ∧
      ∀ id < b.size, ∀ id' < b'.size, ∀ t t', b.HasTree id t → b'.HasTree id' t' →
        ((b.part id).type = (b'.part id').type ↔ t.normal = t'.normal) ∧
        ∀ members others element, t.normal = .array (.union members) →
          t'.normal = .union (others ++ [.array element]) →
          (b.part id).type ≠ (b'.part id').type := by
  have hrules := NamingRules.ofConvention_isTotal Naming.typeScript separator valueText
  obtain ⟨b, hb⟩ := isOk_blueprint TypeScript.types_isTotal hrules s root
  obtain ⟨b', hb'⟩ := isOk_blueprint TypeScript.types_isTotal hrules s' root'
  have hread := hs.blueprint_isReadable hb
  have hread' := hs'.blueprint_isReadable hb'
  refine ⟨b, b', hb, hb', fun _ => hread.existsUnique_tree, fun _ => hread'.existsUnique_tree, ?_⟩
  intro id hid id' hid' t t' ht ht'
  have hiff := hread.type_eq_iff hread' hid hid' ht ht'
  refine ⟨hiff, fun members others element harray hunion htype => ?_⟩
  have hnormal := hiff.1 htype
  rw [harray, hunion] at hnormal
  cases hnormal

/-- Two lists of texts, numbers and truth values.  The first one has a union in its union. -/
def nestingSample : Schema :=
  ⟨#[plain "Nested" (.array 1), plain "Outer" (.union [2, 3]), plain "Inner" (.union [4, 5]),
    plain "Flag" .boolean, plain "Text" .string, plain "Count" .integer,
    plain "Flat" (.array 7), plain "All" (.union [4, 5, 3])]⟩

lemma nestingSample_isReadable {root : ModelId} (hroot : root < nestingSample.size) :
    nestingSample.IsReadable root := by
  have hunions : ∀ id < nestingSample.size, (nestingSample.model id).variant = .union →
      (nestingSample.model id).shape.slots ≠ [] := by
    decide
  refine ⟨isClosed_of_range (by decide) hroot, hasNoReferenceCycle_of_targets (by decide),
    fun id hshape => ?_⟩
  rcases Nat.lt_or_ge id nestingSample.size with hlt | hge
  · exact hunions id hlt (congrArg Shape.variant hshape) (by rw [hshape]; rfl)
  · rw [model_of_le hge] at hshape
    cases hshape

/-- The two lists have the same type, and so their trees are the same but for the nesting. -/
theorem types_unambiguous_nestingSample :
    ∃ b b' t t', nestingSample.blueprint TypeScript.types (TypeScript.rules {}) 0 = .ok b ∧
      nestingSample.blueprint TypeScript.types (TypeScript.rules {}) 6 = .ok b' ∧
      (b.part 0).type = "(string | number | boolean)[]" ∧
      (b'.part 0).type = "(string | number | boolean)[]" ∧
      b.HasTree 0 t ∧ b'.HasTree 0 t' ∧ t.normal = t'.normal := by
  have hrun : (nestingSample.blueprintWithin TypeScript.types (TypeScript.rules {}) 0 20).any
      (fun b => 0 < b.size && (b.part 0).type == "(string | number | boolean)[]") = true := by
    decide +kernel
  have hrun' : (nestingSample.blueprintWithin TypeScript.types (TypeScript.rules {}) 6 20).any
      (fun b => 0 < b.size && (b.part 0).type == "(string | number | boolean)[]") = true := by
    decide +kernel
  obtain ⟨c, hc, htype⟩ := blueprint_of_within hrun
  obtain ⟨c', hc', htype'⟩ := blueprint_of_within hrun'
  obtain ⟨b, b', hb, hb', htrees, htrees', hsame⟩ := types_unambiguous "." TypeScript.entryLiteral
    (nestingSample_isReadable (by decide : 0 < _)) (nestingSample_isReadable (by decide : 6 < _))
  obtain rfl : c = b := Except.ok.inj (hc.symm.trans hb)
  obtain rfl : c' = b' := Except.ok.inj (hc'.symm.trans hb')
  simp only [Bool.and_eq_true, decide_eq_true_eq, beq_iff_eq] at htype htype'
  obtain ⟨t, ht, -⟩ := htrees 0 htype.1
  obtain ⟨t', ht', -⟩ := htrees' 0 htype'.1
  refine ⟨c, c', t, t', hc, hc', htype.2, htype'.2, ht, ht', ?_⟩
  exact (hsame 0 htype.1 0 htype'.1 t t' ht ht').1.1 (htype.2.trans htype'.2.symm)

end Schema

end Modelsmith
