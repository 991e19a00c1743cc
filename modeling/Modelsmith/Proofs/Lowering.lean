/-
# Lowered blueprints

Lowering succeeds if every reached model can be named, and then every part is the image of its
model: it has the shape of the model, with every number replaced by the place of that model
among the reached ones.  The relation `Shape.Mirrors` says this about shapes, for any relation
between the numbers on the two sides.
-/
import Mathlib.Data.List.Forall2
import Modelsmith.Blueprint.Lowering
import Modelsmith.Proofs.Edges
import Modelsmith.Proofs.Walk.Rename

namespace Modelsmith

/-! ## Success -/

lemma bind_eq_ok {ε α β : Type} {x : Except ε α} {f : α → Except ε β} {b : β} :
    (x >>= f) = .ok b ↔ ∃ a, x = .ok a ∧ f a = .ok b := by
  cases x with
  | error e => simp [bind, Except.bind]
  | ok a => simp [bind, Except.bind]

lemma pure_eq_ok {ε α : Type} {a b : α} : (pure a : Except ε α) = .ok b ↔ a = b := by
  simp [pure, Except.pure]

lemma mapM_eq_ok {ε α β : Type} {f : α → Except ε β} {xs : List α} {ys : List β} :
    xs.mapM f = .ok ys ↔ List.Forall₂ (fun x y => f x = .ok y) xs ys := by
  induction xs generalizing ys with
  | nil => rw [List.mapM_nil, pure_eq_ok, List.forall₂_nil_left_iff, eq_comm]
  | cons x xs ih =>
    simp only [List.mapM_cons, bind_eq_ok, pure_eq_ok, List.forall₂_cons_left_iff, ih]
    constructor
    · rintro ⟨y, hy, zs, hzs, rfl⟩
      exact ⟨y, zs, hy, hzs, rfl⟩
    · rintro ⟨y, zs, hy, hzs, rfl⟩
      exact ⟨y, hy, zs, hzs, rfl⟩

@[simp] lemma mapError_eq_ok {ε δ α : Type} {f : ε → δ} {result : Except ε α} {a : α} :
    result.mapError f = .ok a ↔ result = .ok a := by
  cases result <;> simp [Except.mapError]

@[simp] lemma blame_eq_ok {α : Type} {model : String} {result : Except Fault α} {a : α} :
    blame model result = .ok a ↔ result = .ok a :=
  mapError_eq_ok

/-! ## Places -/

lemma size_foldr_setIfInBounds (entries : List (ModelId × Nat)) (found : Array Nat) :
    (entries.foldr (fun (id, place) found => found.setIfInBounds id place) found).size =
      found.size := by
  induction entries with
  | nil => rfl
  | cons entry entries ih => simpa using ih

/-- Writing down the places from the last to the first leaves the first place of each model. -/
lemma foldr_setIfInBounds_getD (order : List ModelId) (start : Nat) (found : Array Nat)
    (hrange : ∀ n ∈ order, n < found.size) (n : ModelId) (default : Nat) :
    ((order.zipIdx start).foldr (fun (id, place) found => found.setIfInBounds id place)
      found).getD n default =
      if n ∈ order then start + order.idxOf n else found.getD n default := by
  induction order generalizing start with
  | nil => simp
  | cons m order ih =>
    have hm : m < found.size := hrange m (by simp)
    have hrec := ih (start + 1) fun n hn => hrange n (by simp [hn])
    rw [List.zipIdx_cons, List.foldr_cons, Array.getD_eq_getD_getElem?,
      Array.getElem?_setIfInBounds, size_foldr_setIfInBounds]
    -- the first model of the order is written last
    by_cases hmn : m = n
    · subst hmn
      simp [hm]
    · rw [Array.getD_eq_getD_getElem?] at hrec
      have hidx : (m :: order).idxOf n = order.idxOf n + 1 := List.idxOf_cons_ne order hmn
      simp only [hmn, if_false, hrec, hidx, List.mem_cons, Ne.symm hmn, false_or]
      split <;> omega

/-- The place of a model is its place in the order, and the length of the order for a model
that is not in it. -/
lemma places_getD {size : Nat} {order : List ModelId} (hrange : ∀ n ∈ order, n < size)
    (n : ModelId) : (places size order).getD n order.length = order.idxOf n := by
  rw [places, foldr_setIfInBounds_getD _ _ _ (by simpa using hrange)]
  split
  · omega
  · next hn =>
    rw [List.idxOf_eq_length hn, Array.getD_eq_getD_getElem?, Array.getElem?_replicate]
    split <;> rfl

/-! ## Shapes -/

/-- A shape of a part mirrors the shape of a model: it is of the same variant, has everything
that the schema says in the same order, its properties belong to `owner`, and the numbers that
it holds are related to those that the shape of the model holds. -/
inductive Shape.Mirrors (link : ModelId → ModelId → Prop) (owner : ModelId) :
    Shape Unit Unit → Shape String Member → Prop
  | any : Mirrors link owner .any .any
  | string : Mirrors link owner .string .string
  | integer : Mirrors link owner .integer .integer
  | float : Mirrors link owner .float .float
  | boolean : Mirrors link owner .boolean .boolean
  | object {ps : List (Property Unit)} {qs : List (Property String)}
      (properties : List.Forall₂ (fun p q => q.name = p.name ∧ q.required = p.required ∧
        q.owner = owner ∧ link p.model q.model) ps qs) :
      Mirrors link owner (.object ps) (.object qs)
  | array {value value' : ModelId} (hvalue : link value value') :
      Mirrors link owner (.array value) (.array value')
  | tuple {ps qs : List Position}
      (positions : List.Forall₂ (fun p q => q.index = p.index ∧ link p.model q.model) ps qs) :
      Mirrors link owner (.tuple ps) (.tuple qs)
  | union {ms ns : List ModelId} (members : List.Forall₂ link ms ns) :
      Mirrors link owner (.union ms) (.union ns)
  | dictionary {key key' value value' : ModelId} {layout : DictionaryLayout}
      (hkey : link key key') (hvalue : link value value') :
      Mirrors link owner (.dictionary key value layout) (.dictionary key' value' layout)
  | enumeration {es : List (Entry Unit)} {fs : List (Entry Member)}
      (entries : List.Forall₂ (fun e f => f.key = e.key ∧ f.value = e.value) es fs) :
      Mirrors link owner (.enumeration es) (.enumeration fs)
  | reference {target target' : ModelId} (htarget : link target target') :
      Mirrors link owner (.reference target) (.reference target')

namespace Shape.Mirrors

variable {link : ModelId → ModelId → Prop} {owner : ModelId} {m : Shape Unit Unit}
  {p : Shape String Member}

lemma variant_eq (h : Mirrors link owner m p) : p.variant = m.variant := by
  cases h <;> rfl

lemma slots (h : Mirrors link owner m p) : List.Forall₂ link m.slots p.slots := by
  cases h with
  | object properties =>
    simp only [Shape.slots, List.forall₂_map_left_iff, List.forall₂_map_right_iff]
    exact properties.imp fun _ _ h => h.2.2.2
  | array hvalue => simpa [Shape.slots] using hvalue
  | tuple positions =>
    simp only [Shape.slots, List.forall₂_map_left_iff, List.forall₂_map_right_iff]
    exact positions.imp fun _ _ h => h.2
  | union members => exact members
  | dictionary hkey hvalue => simp [Shape.slots, hkey, hvalue]
  | _ => exact .nil

lemma slots_eq {f : ModelId → ModelId} (h : Mirrors (fun a j => j = f a) owner m p) :
    p.slots = m.slots.map f := by
  rw [← List.forall₂_eq_eq_eq, List.forall₂_map_right_iff]
  exact h.slots.flip

lemma target?_eq {f : ModelId → ModelId} (h : Mirrors (fun a j => j = f a) owner m p) :
    p.target? = m.target?.map f := by
  cases h with
  | reference htarget => exact congrArg some htarget
  | _ => rfl

end Shape.Mirrors

namespace NamingRules

variable {rules : NamingRules}

lemma properties_keep {object : Model} {place : ModelId → ModelId} {owner : ModelId}
    {earlier : List (Property String)} {ps : List (Property Unit)} {qs : List (Property String)}
    (h : rules.properties object place owner earlier ps = .ok qs) :
    List.Forall₂ (fun p q => q.name = p.name ∧ q.required = p.required ∧ q.owner = owner ∧
      q.model = place p.model) ps qs := by
  induction ps generalizing earlier qs with
  | nil =>
    obtain rfl : [] = qs := pure_eq_ok.1 h
    exact .nil
  | cons p ps ih =>
    simp only [properties, bind_eq_ok, pure_eq_ok] at h
    obtain ⟨key, -, qs, hqs, rfl⟩ := h
    exact .cons ⟨rfl, rfl, rfl, rfl⟩ (ih hqs)

lemma members_keep {m : Model} {earlier : List (Entry Member)} {es : List (Entry Unit)}
    {fs : List (Entry Member)} (h : rules.members m earlier es = .ok fs) :
    List.Forall₂ (fun e f => f.key = e.key ∧ f.value = e.value) es fs := by
  induction es generalizing earlier fs with
  | nil =>
    obtain rfl : [] = fs := pure_eq_ok.1 h
    exact .nil
  | cons e es ih =>
    simp only [members, bind_eq_ok, pure_eq_ok] at h
    obtain ⟨key, -, text, -, fs, hfs, rfl⟩ := h
    exact .cons ⟨rfl, rfl⟩ (ih hfs)

end NamingRules

/-- All edges of the parts of a blueprint lead to parts. -/
def Blueprint.IsClosed (b : Blueprint) : Prop :=
  ∀ id < b.size, ∀ e ∈ b.edges id, e.target < b.size

namespace Schema

variable {s : Schema} {rules : NamingRules} {place : ModelId → ModelId}

/-- Lowering a shape keeps all but the names. -/
lemma lowerShape_mirrors {m : Model} {owner : ModelId} {shape : Shape String Member}
    (h : lowerShape rules m place owner = .ok shape) :
    Shape.Mirrors (fun a j => j = place a) owner m.shape shape := by
  obtain ⟨name, input, options, mshape⟩ := m
  cases mshape with
  | object ps =>
    simp only [lowerShape, bind_eq_ok, pure_eq_ok] at h
    obtain ⟨qs, hqs, rfl⟩ := h
    exact .object (NamingRules.properties_keep hqs)
  | array value =>
    obtain rfl := pure_eq_ok.1 h
    exact .array rfl
  | tuple ps =>
    obtain rfl := pure_eq_ok.1 h
    refine .tuple (List.forall₂_map_right_iff.2 (List.forall₂_same.2 fun p _ => ?_))
    exact ⟨rfl, rfl⟩
  | union ms =>
    obtain rfl := pure_eq_ok.1 h
    exact .union (List.forall₂_map_right_iff.2 (List.forall₂_same.2 fun m _ => rfl))
  | dictionary key value layout =>
    obtain rfl := pure_eq_ok.1 h
    exact .dictionary rfl rfl
  | enumeration es =>
    simp only [lowerShape, bind_eq_ok, pure_eq_ok] at h
    obtain ⟨fs, hfs, rfl⟩ := h
    exact .enumeration (NamingRules.members_keep hfs)
  | reference target =>
    obtain rfl := pure_eq_ok.1 h
    exact .reference rfl
  | any | string | integer | float | boolean =>
    obtain rfl := pure_eq_ok.1 h
    constructor

/-- What a part has from its model. -/
structure IsLowered (s : Schema) (rules : NamingRules) (place : ModelId → ModelId)
    (id : ModelId) (p : Part) : Prop where
  name : rules.modelName s (s.model id) = .ok p.name
  type : p.type = ""
  input : p.input = (s.model id).input
  options : p.options = lowerOptions (s.model id).options place
  shape : lowerShape rules (s.model id) place (place id) = .ok p.shape
  source : p.source = id

lemma lowerModel_eq_ok {id : ModelId} {p : Part} (h : s.lowerModel rules place id = .ok p) :
    s.IsLowered rules place id p := by
  simp only [lowerModel, blame_eq_ok, bind_eq_ok, pure_eq_ok] at h
  obtain ⟨name, hname, shape, hshape, rfl⟩ := h
  exact ⟨hname, rfl, rfl, rfl, hshape, rfl⟩

/-- The place of a model among the reached ones. -/
def placeOf (s : Schema) (root id : ModelId) : ModelId := (s.reached root).idxOf id

variable {root : ModelId} {b : Blueprint}

lemma placeOf_lt_length {id : ModelId} (hid : id ∈ s.reached root) :
    s.placeOf root id < (s.reached root).length :=
  List.idxOf_lt_length_of_mem hid

lemma reached_getElem_placeOf {id : ModelId} (hid : id ∈ s.reached root) :
    (s.reached root)[s.placeOf root id]? = some id := by
  rw [List.getElem?_eq_getElem (placeOf_lt_length hid)]
  exact congrArg some (List.getElem_idxOf _)

lemma placeOf_inj {a c : ModelId} (ha : a ∈ s.reached root) (hc : c ∈ s.reached root)
    (h : s.placeOf root a = s.placeOf root c) : a = c := by
  have heq := reached_getElem_placeOf ha
  rw [h, reached_getElem_placeOf hc] at heq
  exact (Option.some.inj heq).symm

lemma placeOf_reached_getElem {i : Nat} (hi : i < (s.reached root).length) :
    s.placeOf root (s.reached root)[i] = i :=
  walkOrder_nodup.idxOf_getElem i hi

/-- A lowered blueprint has one part for every reached model, in their order. -/
lemma lower_parts (h : s.lower rules root = .ok b) :
    b.root = 0 ∧
      List.Forall₂ (s.IsLowered rules (s.placeOf root)) (s.reached root) b.parts.toList := by
  have hplace : (fun id => (places s.size (s.reached root)).getD id (s.reached root).length) =
      s.placeOf root := by
    funext id
    exact places_getD (fun n hn => lt_size_of_mem_walkOrder hn) id
  simp only [lower, hplace] at h
  split at h
  · next parts hparts =>
    obtain rfl := pure_eq_ok.1 h
    exact ⟨rfl, (mapM_eq_ok.1 hparts).imp fun _ _ hp => lowerModel_eq_ok hp⟩
  · next failure hfailure =>
    rw [bind_eq_ok] at h
    obtain ⟨-, -, h⟩ := h
    simp [throw, throwThe, MonadExceptOf.throw] at h

lemma lower_root (h : s.lower rules root = .ok b) : b.root = 0 := (lower_parts h).1

lemma lower_size (h : s.lower rules root = .ok b) : b.size = (s.reached root).length :=
  (lower_parts h).2.length_eq.symm

lemma lower_part (h : s.lower rules root = .ok b) {id : ModelId} (hid : id ∈ s.reached root) :
    s.IsLowered rules (s.placeOf root) id (b.part (s.placeOf root id)) := by
  have hlt := placeOf_lt_length hid
  have hlt' : s.placeOf root id < b.parts.size := lt_of_lt_of_eq hlt (lower_size h).symm
  have hpart := (lower_parts h).2.get hlt (by simpa using hlt')
  have hid' : (s.reached root).get ⟨_, hlt⟩ = id := List.getElem_idxOf hlt
  rw [hid'] at hpart
  simpa [Blueprint.part, hlt'] using hpart

/-- Renaming the ends of numbered edges and renaming the edges is the same. -/
lemma mapIdx_rename (f : ModelId → ModelId) (link : Nat → Link) (source : ModelId)
    (targets : List ModelId) :
    (targets.map f).mapIdx (fun i target => (⟨f source, link i, target⟩ : Edge)) =
      (targets.mapIdx fun i target => ⟨source, link i, target⟩).map (Edge.rename f) := by
  apply List.ext_getElem
  · simp
  · intro i hi hi'
    simp [Edge.rename]

/-- The edges of a lowered part are those of its model. -/
lemma lower_edges (h : s.lower rules root = .ok b) {id : ModelId} (hid : id ∈ s.reached root) :
    b.edges (s.placeOf root id) = (s.edges id).map (Edge.rename (s.placeOf root)) := by
  have hpart := lower_part h hid
  have hmirrors := lowerShape_mirrors hpart.shape
  have hparents : (b.part (s.placeOf root id)).options.parents =
      (s.model id).options.parents.map (s.placeOf root) := by rw [hpart.options]; rfl
  simp only [Blueprint.edges, Blueprint.contentEdges, Blueprint.slotEdges, edges, slotEdges,
    Modelsmith.slotEdges, targetEdges, parentEdges, hmirrors.slots_eq,
    hmirrors.target?_eq, hparents, List.map_append, mapIdx_rename]
  congr 2
  cases (s.model id).shape.target? <;> rfl

/-- Every model that can be reached from the root is in the schema. -/
def IsClosed (s : Schema) (root : ModelId) : Prop := ∀ id, Reaches s.edges root id → id < s.size

/-- A schema all of whose links lead to its models is closed from each of them. -/
lemma isClosed_of_range (hrange : ∀ id < s.size, ∀ e ∈ s.edges id, e.target < s.size)
    (hroot : root < s.size) : s.IsClosed root := by
  intro id hid
  induction hid with
  | refl => exact hroot
  | tail _ hlead ih =>
    obtain ⟨e, he, rfl⟩ := hlead
    exact hrange _ ih e he

lemma mem_reached_iff (hclosed : s.IsClosed root) {id : ModelId} :
    id ∈ s.reached root ↔ Reaches s.edges root id :=
  mem_walkOrder_iff hclosed

/-- The links of a reached model lead to reached models. -/
lemma mem_reached_of_end (hclosed : s.IsClosed root) {id a : ModelId} (link : Link)
    (hid : id ∈ s.reached root)
    (ha : link.end? (s.model id).shape (s.model id).options.parents = some a) :
    a ∈ s.reached root := by
  rw [mem_reached_iff hclosed] at hid ⊢
  exact hid.tail ⟨⟨id, link, a⟩, mem_edges.2 ⟨rfl, ha⟩, rfl⟩

/-- The edges of a lowered blueprint lead to its parts. -/
lemma lower_isClosed (hclosed : s.IsClosed root) (h : s.lower rules root = .ok b) :
    b.IsClosed := by
  intro id hid e he
  rw [lower_size h] at hid ⊢
  have hmem := List.getElem_mem hid
  rw [← placeOf_reached_getElem hid, lower_edges h hmem] at he
  obtain ⟨e', he', rfl⟩ := List.mem_map.1 he
  have hreached := ((mem_reached_iff hclosed).1 hmem).tail ⟨e', he', rfl⟩
  exact placeOf_lt_length ((mem_reached_iff hclosed).2 hreached)

lemma placeOf_root (hclosed : s.IsClosed root) : s.placeOf root root = 0 := by
  obtain ⟨rest, hrest⟩ := walkOrder_eq_cons hclosed
  rw [placeOf, reached, hrest, List.idxOf_cons_self]

/-- The walk through a lowered blueprint is the walk through the schema. -/
theorem lower_walk (hclosed : s.IsClosed root) (h : s.lower rules root = .ok b) :
    walk b.edges b.size b.root =
      (walk s.edges s.size root).map (Event.rename (s.placeOf root)) := by
  have hreached : ∀ {id}, Reaches s.edges root id → id ∈ s.reached root :=
    (mem_reached_iff hclosed).2
  rw [lower_root h, ← placeOf_root hclosed, lower_size h]
  exact walk_rename hclosed (fun id hid => placeOf_lt_length (hreached hid))
    (fun a c ha hc => placeOf_inj (hreached ha) (hreached hc))
    (fun id hid => lower_edges h (hreached hid))

end Schema

end Modelsmith
