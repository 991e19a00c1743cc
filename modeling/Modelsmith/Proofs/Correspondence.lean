/-
# Models and parts

A blueprint begins with one part for every model that its root reaches, in depth-first order,
and each of these parts says what its model says.  The parts that follow stand for others and
are of any value.  A link of a part leads to a part of the model that the same link of the
model leads to, whether it has been cut or not.
-/
import Modelsmith.Proofs.Evaluation
import Modelsmith.Proofs.Typing.Cut
import Modelsmith.Target.Sketch

namespace Modelsmith

namespace Shape.Mirrors

variable {link link' : ModelId → ModelId → Prop} {owner : ModelId} {m : Shape Unit Unit}
  {p : Shape String Member} {f : Link → ModelId → ModelId}

/-- A list that is changed place by place stays related if each change keeps the relation. -/
lemma forall₂_mapIdx {α β : Type} {R R' : α → β → Prop} {g : Nat → β → β} {xs : List α}
    {ys : List β} (h : List.Forall₂ R xs ys)
    (hg : ∀ i x y, xs[i]? = some x → ys[i]? = some y → R x y → R' x (g i y)) :
    List.Forall₂ R' xs (ys.mapIdx g) := by
  refine List.forall₂_iff_get.2 ⟨by simp [h.length_eq], fun i hi hi' => ?_⟩
  have hy : i < ys.length := by simpa using hi'
  have hR := h.get hi hy
  simpa using hg i _ _ (List.getElem?_eq_getElem hi) (List.getElem?_eq_getElem hy) hR

lemma owner_eq (h : Mirrors link owner m p) : ∀ q ∈ p.properties, q.owner = owner := by
  cases h with
  | object properties =>
    intro q hq
    obtain ⟨i, hi, rfl⟩ := List.getElem_of_mem hq
    exact (properties.get (properties.length_eq ▸ hi) hi).2.2.1
  | _ => simp [Shape.properties]

/-- Leading links elsewhere keeps a mirror if the new ends are related to the models, too. -/
lemma relink (h : Mirrors link owner m p)
    (hslot : ∀ i a j, m.slots[i]? = some a → p.slots[i]? = some j → link a j →
      link' a (f (.slot i) j))
    (htarget : ∀ a j, m.target? = some a → p.target? = some j → link a j →
      link' a (f .target j)) :
    Mirrors link' owner m (p.relink f) := by
  cases h with
  | object properties =>
    refine .object (forall₂_mapIdx properties ?_)
    rintro i x y hx hy ⟨hname, hreq, howner, hlink⟩
    exact ⟨hname, hreq, howner,
      hslot i x.model y.model (by simp [Shape.slots, hx]) (by simp [Shape.slots, hy]) hlink⟩
  | array hvalue => exact .array (hslot 0 _ _ rfl rfl hvalue)
  | tuple positions =>
    refine .tuple (forall₂_mapIdx positions ?_)
    rintro i x y hx hy ⟨hindex, hlink⟩
    exact ⟨hindex,
      hslot i x.model y.model (by simp [Shape.slots, hx]) (by simp [Shape.slots, hy]) hlink⟩
  | union members => exact .union (forall₂_mapIdx members hslot)
  | dictionary hkey hvalue =>
    exact .dictionary (hslot 0 _ _ rfl rfl hkey) (hslot 1 _ _ rfl rfl hvalue)
  | enumeration entries => exact .enumeration entries
  | reference target => exact .reference (htarget _ _ rfl rfl target)
  | any | string | integer | float | boolean => constructor

end Shape.Mirrors

/-- All numbers in a blueprint are those of parts. -/
structure Blueprint.InRange (b : Blueprint) : Prop where
  root : b.root < b.size
  edges : b.IsClosed
  owners : ∀ id < b.size, ∀ p ∈ (b.part id).shape.properties, p.owner < b.size

namespace Schema

/-- What the part with the given number says about its model, within its blueprint. -/
structure IsImage (s : Schema) (rules : NamingRules) (b : Blueprint) (id place : ModelId) :
    Prop where
  source : (b.part place).source = id
  name : rules.modelName s (s.model id) = .ok (b.part place).name
  input : (b.part place).input = (s.model id).input
  nullable : (b.part place).options.nullable = (s.model id).options.nullable
  format : (b.part place).options.format = (s.model id).options.format
  discriminator : (b.part place).options.discriminator.map (·.property) =
    (s.model id).options.discriminator
  constant : (b.part place).options.constant.map (·.value) = (s.model id).options.constant
  parents : (b.part place).options.parents.map (fun j => (b.part j).source) =
    (s.model id).options.parents
  /-- The shape is that of the model; every link leads to a part of the right model. -/
  shape : Shape.Mirrors (fun m j => (b.part j).source = m) place (s.model id).shape
    (b.part place).shape

/-- A blueprint corresponds to the models that its root reaches. -/
structure Corresponds (s : Schema) (rules : NamingRules) (root : ModelId) (b : Blueprint) :
    Prop where
  /-- The models that the root reaches, each once and in depth-first order. -/
  reached_nodup : (s.reached root).Nodup
  mem_reached : ∀ id, id ∈ s.reached root ↔ Reaches s.edges root id
  depthFirst : DepthFirst (fun id => (s.edges id).map (·.target)) [] [root] (s.reached root)
  /-- The root comes first on both sides. -/
  first : b.root = 0 ∧ (s.reached root)[0]? = some root
  /-- The first parts are the images of these models, in their order. -/
  size : (s.reached root).length ≤ b.size
  image : ∀ place id, (s.reached root)[place]? = some id → s.IsImage rules b id place
  /-- All further parts are of any value. -/
  stand : ∀ place, (s.reached root).length ≤ place → place < b.size → (b.part place).shape = .any
  inRange : b.InRange

variable {s : Schema} {rules : NamingRules} {table : TypeTable} {root : ModelId}
  {b b₀ : Blueprint}

lemma source_placeOf {cuts : List Visit} (hlower : s.lower rules root = .ok b₀)
    (hcut : b₀.IsCut cuts b.bare) {id : ModelId} (hid : id ∈ s.reached root) :
    (b.part (s.placeOf root id)).source = id := by
  have hlt : s.placeOf root id < b₀.size := lower_size hlower ▸ placeOf_lt_length hid
  rw [← Part.source_bare, hcut.part_kept hlt, (lower_part hlower hid).source]

section Cut

variable (hclosed : s.IsClosed root) (hlower : s.lower rules root = .ok b₀) {cuts : List Visit}
  (hcuts : b₀.AreCuts cuts) (hcut : b₀.IsCut cuts b.bare)
include hclosed hlower hcuts hcut

/-- A link of a lowered part leads, cut or not, to a part of the model at the end of the link
of the model. -/
lemma source_link {id a j : ModelId} (link : Link) (hid : id ∈ s.reached root)
    (ha : link.end? (s.model id).shape (s.model id).options.parents = some a)
    (hj : link.end? (b₀.part (s.placeOf root id)).shape
      (b₀.part (s.placeOf root id)).options.parents = some j) (hlink : j = s.placeOf root a) :
    (b.part (b₀.endAfter cuts (s.placeOf root id) link j)).source = a := by
  have hlt : s.placeOf root id < b₀.size := lower_size hlower ▸ placeOf_lt_length hid
  have he : (⟨s.placeOf root id, link, j⟩ : Edge) ∈ b₀.edges (s.placeOf root id) :=
    Blueprint.mem_edges.2 ⟨rfl, hj⟩
  have hend := hcut.end_eq hcuts he (lower_isClosed hclosed hlower _ hlt _ he)
  rw [hend.2.2, hlink]
  exact (lower_part hlower (mem_reached_of_end hclosed link hid ha)).source

/-- The part at the place of a reached model is its image. -/
lemma isImage_placeOf {id : ModelId} (hid : id ∈ s.reached root) :
    s.IsImage rules b id (s.placeOf root id) := by
  have hlt : s.placeOf root id < b₀.size := lower_size hlower ▸ placeOf_lt_length hid
  have hpart := lower_part hlower hid
  have hkept := hcut.part_kept hlt
  have hoptions : (b.part (s.placeOf root id)).bare.options =
      lowerOptions (s.model id).options (s.placeOf root) := by rw [hkept, hpart.options]
  refine ⟨source_placeOf hlower hcut hid, ?_, ?_, ?_, ?_, ?_, ?_, ?_, ?_⟩
  · rw [← Part.name_bare, hkept, hpart.name]
  · rw [← Part.input_bare, hkept, hpart.input]
  · rw [← Part.nullable_bare, hoptions, lowerOptions]
  · rw [← Part.format_bare, hoptions, lowerOptions]
  · rw [← Part.discriminator_bare, hoptions]
    simp [lowerOptions, Function.comp_def]
  · rw [← Part.constant_bare, hoptions]
    simp [lowerOptions, Function.comp_def]
  · -- the list of parents is lowered like any link, and never cut
    rw [← Part.parents_bare, hoptions, lowerOptions, List.map_map]
    refine (List.map_congr_left fun a ha => ?_).trans (List.map_id _)
    obtain ⟨i, hi⟩ := List.mem_iff_getElem?.1 ha
    exact source_placeOf hlower hcut (mem_reached_of_end hclosed (.parent i) hid hi)
  · rw [← Part.shape_bare, hkept]
    exact (lowerShape_mirrors hpart.shape).relink
      (fun i a j ha hj => source_link hclosed hlower hcuts hcut (.slot i) hid ha hj)
      (fun a j ha hj => source_link hclosed hlower hcuts hcut .target hid ha hj)

/-- All numbers in the blueprint are those of parts. -/
lemma inRange_of_isCut : b.InRange := by
  have hsize := hcut.size_of_bare
  have hroot : b₀.root < b₀.size := by
    rw [lower_root hlower, lower_size hlower, ← placeOf_root hclosed]
    exact placeOf_lt_length ((mem_reached_iff hclosed).2 .refl)
  refine ⟨?_, fun id hid e he => ?_, fun id hid p hp => ?_⟩
  · rw [← Blueprint.root_bare, hcut.root_eq]
    lia
  · rcases hcut.part_cases hid with ⟨hid₀, -⟩ | ⟨v, hv, -, hstand⟩
    · rw [hcut.edges_eq hid₀] at he
      obtain ⟨e₀, he₀, rfl⟩ := List.mem_map.1 he
      have htarget := lower_isClosed hclosed hlower id hid₀ e₀ he₀
      exact hcut.newEnd_lt hcuts (by rwa [b₀.edges_source id e₀ he₀]) htarget
    · -- a part that stands for another has no links but the list of parents
      obtain ⟨-, hend⟩ := Blueprint.mem_edges.1 he
      rw [← Part.shape_bare, ← Part.parents_bare, hstand] at hend
      have hv₀ := (hcuts.edge v hv).1
      cases hlink : e.link with
      | slot i => simp [hlink, Link.end?, Shape.slots] at hend
      | target => simp [hlink, Link.end?, Shape.target?] at hend
      | parent i =>
        rw [hlink] at hend
        have hold : (⟨v.node, .parent i, e.target⟩ : Edge) ∈ b₀.edges v.node :=
          Blueprint.mem_edges.2 ⟨rfl, hend⟩
        have hlt := lower_isClosed hclosed hlower _ hv₀ _ hold
        exact Nat.lt_of_lt_of_le hlt (hsize ▸ Nat.le_add_right _ _)
  · rcases hcut.part_cases hid with ⟨hid₀, -⟩ | ⟨v, hv, -, hstand⟩
    · rw [lower_size hlower] at hid₀
      have himage := isImage_placeOf hclosed hlower hcuts hcut (List.getElem_mem hid₀)
      rw [placeOf_reached_getElem hid₀] at himage
      rw [himage.shape.owner_eq p hp]
      exact hid
    · rw [← Part.shape_bare, hstand] at hp
      simp [Shape.properties] at hp

end Cut

/-- A blueprint corresponds to the models that its root reaches. -/
theorem blueprint_corresponds (hclosed : s.IsClosed root)
    (h : s.blueprint table rules root = .ok b) : s.Corresponds rules root b := by
  obtain ⟨b₀, hlower, hcuts, hcut⟩ := blueprint_isCut h
  obtain ⟨rest, hrest⟩ := walkOrder_eq_cons hclosed
  have hsize := lower_size hlower
  refine ⟨walkOrder_nodup, fun id => mem_reached_iff hclosed, walkOrder_depthFirst hclosed,
    ⟨?_, ?_⟩, ?_, fun place id hid => ?_, fun place hge hlt => ?_,
    inRange_of_isCut hclosed hlower hcuts hcut⟩
  · rw [← Blueprint.root_bare, hcut.root_eq, lower_root hlower]
  · rw [reached, hrest, List.getElem?_cons_zero]
  · rw [← hsize, hcut.size_of_bare]
    exact Nat.le_add_right _ _
  · obtain ⟨hlt, rfl⟩ := List.getElem?_eq_some_iff.1 hid
    have himage := isImage_placeOf hclosed hlower hcuts hcut (List.getElem_mem hlt)
    rwa [placeOf_reached_getElem hlt] at himage
  · rcases hcut.part_cases hlt with ⟨hlt₀, -⟩ | ⟨v, -, -, hstand⟩
    · lia
    · rw [← Part.shape_bare, hstand]

/-- The parts of a tree: the last one stands for the tree inside of the list. -/
theorem blueprint_corresponds_treeSample :
    ∃ b, treeSample.blueprint Sketch.types (Sketch.rules {}) 0 = .ok b ∧
      b.parts.toList.map (fun p => (p.name, p.source, p.variant, p.shape.slots)) =
        [("Tree", 0, .union, [1, 2]), ("Branches", 1, .array, [3]), ("Leaf", 2, .string, []),
          ("Tree", 0, .any, [])] ∧
      treeSample.Corresponds (Sketch.rules {}) 0 b := by
  have hrun : (treeSample.blueprintWithin Sketch.types (Sketch.rules {}) 0 9).any
      (fun b => b.parts.toList.map (fun p => (p.name, p.source, p.variant, p.shape.slots)) =
        [("Tree", 0, .union, [1, 2]), ("Branches", 1, .array, [3]), ("Leaf", 2, .string, []),
          ("Tree", 0, .any, [])]) = true := by
    decide +kernel
  obtain ⟨b, hb, hparts⟩ := blueprint_of_within hrun
  exact ⟨b, hb, of_decide_eq_true hparts, blueprint_corresponds treeSample_isClosed hb⟩

end Schema

end Modelsmith
