/-
# Renamed schemas

The numbers of models come into a blueprint only as records of where its parts come from: parts
are numbered by the walk, and names and types are made from what the models say.  So if a
renaming takes what a root reaches in one schema to what a root reaches in another, the two
blueprints are the same up to these records.
-/
import Modelsmith.Proofs.Sources
import Modelsmith.Proofs.Walk.Leave

namespace Modelsmith

/-- A model with all numbers in it renamed. -/
def Model.rename (f : ModelId → ModelId) (m : Model) : Model :=
  { m with
    options := { m.options with parents := m.options.parents.map f }
    shape := m.shape.relink fun _ => f }

lemma Shape.slots_rename {ι ρ : Type} {f : ModelId → ModelId} {shape : Shape ι ρ} :
    (shape.relink fun _ => f).slots = shape.slots.map f := by
  rw [slots_relink]
  apply List.ext_getElem <;> simp

namespace NamingRules

variable {c : Naming.Convention} {separator : String} {valueText : Json → String}

/-- A convention names properties without looking at their object or at numbers of models. -/
lemma properties_congr (object object' : Model) {place place' : ModelId → ModelId}
    {owner : ModelId} {ps ps' : List (Property Unit)}
    (h : List.Forall₂ (fun p p' => p'.name = p.name ∧ p'.required = p.required ∧
      place' p'.model = place p.model) ps ps') (earlier : List (Property String)) :
    (ofConvention c separator valueText).properties object' place' owner earlier ps' =
      (ofConvention c separator valueText).properties object place owner earlier ps := by
  induction h generalizing earlier with
  | nil => rfl
  | @cons p p' _ _ hp _ ih =>
    obtain ⟨hname, hrequired, hplace⟩ := hp
    have hlower : p'.lower place' owner = p.lower place owner := by
      funext key
      simp only [Property.lower, hname, hrequired, hplace]
    have hkey : (ofConvention c separator valueText).propertyKey object' p' earlier =
        (ofConvention c separator valueText).propertyKey object p earlier := by
      simp only [ofConvention, hname]
    simp only [properties, hkey, hlower, ih]

/-- A convention names entries without looking at their model. -/
lemma members_congr (m m' : Model) (earlier : List (Entry Member)) (es : List (Entry Unit)) :
    (ofConvention c separator valueText).members m earlier es =
      (ofConvention c separator valueText).members m' earlier es := by
  induction es generalizing earlier with
  | nil => rfl
  | cons e es ih =>
    simp only [members, ih]
    rfl

end NamingRules

namespace Schema

variable {s s' : Schema} {c : Naming.Convention} {separator : String} {valueText : Json → String}
  {root n : ModelId} {f place place' : ModelId → ModelId} {b b' : Blueprint}

/-! ## Walks -/

/-- A renaming tells the models that the root reaches apart and takes each of them to itself,
renamed. -/
structure IsRenaming (s s' : Schema) (root : ModelId) (f : ModelId → ModelId) : Prop where
  inj : ∀ a d, Reaches s.edges root a → Reaches s.edges root d → f a = f d → a = d
  model : ∀ n, Reaches s.edges root n → s'.model (f n) = (s.model n).rename f

namespace IsRenaming

variable (h : s.IsRenaming s' root f)
include h

lemma edges (hn : Reaches s.edges root n) :
    s'.edges (f n) = (s.edges n).map (Edge.rename f) := by
  have htarget : (s'.model (f n)).shape.target? = (s.model n).shape.target?.map f := by
    rw [h.model n hn, Model.rename, Shape.target?_relink]
  simp only [Schema.edges, slotEdges, Modelsmith.slotEdges, targetEdges, parentEdges, htarget,
    List.map_append]
  rw [h.model n hn]
  simp only [Model.rename, Shape.slots_rename, mapIdx_rename]
  congr 2
  cases (s.model n).shape.target? <;> rfl

lemma reaches (hn : Reaches s.edges root n) : Reaches s'.edges (f root) (f n) := by
  induction hn with
  | refl => exact .refl
  | tail hm hlead ih =>
    obtain ⟨e, he, rfl⟩ := hlead
    refine ih.tail ⟨e.rename f, ?_, rfl⟩
    rw [h.edges hm]
    exact List.mem_map_of_mem he

variable (hclosed : s.IsClosed root) (hclosed' : s'.IsClosed (f root))
include hclosed hclosed'

lemma walk : Modelsmith.walk s'.edges s'.size (f root) =
    (Modelsmith.walk s.edges s.size root).map (Event.rename f) :=
  walk_rename hclosed (fun _ hn => hclosed' _ (h.reaches hn)) h.inj fun _ => h.edges

lemma reached_eq : s'.reached (f root) = (s.reached root).map f := by
  rw [reached, reached, walkOrder, walkOrder, h.walk hclosed hclosed']
  exact entered_rename f _

lemma placeOf_eq (hn : n ∈ s.reached root) :
    s'.placeOf (f root) (f n) = s.placeOf root n := by
  have hlt := placeOf_lt_length hn
  have hget : (s'.reached (f root))[s.placeOf root n]? = some (f n) := by
    rw [h.reached_eq hclosed hclosed', List.getElem?_map, reached_getElem_placeOf hn]
    rfl
  obtain ⟨hlt', heq⟩ := List.getElem?_eq_some_iff.1 hget
  rw [← heq, placeOf_reached_getElem hlt']

end IsRenaming

/-! ## Lowering -/

/-- Lowering a renamed model for the renamed places gives the same shape. -/
lemma lowerShape_rename {m : Model} {owner : ModelId} {shape shape' : Shape String Member}
    (h : lowerShape (.ofConvention c separator valueText) m place owner = .ok shape)
    (h' : lowerShape (.ofConvention c separator valueText) (m.rename f) place' owner = .ok shape')
    (hslots : ∀ a ∈ m.shape.slots, place' (f a) = place a)
    (htarget : ∀ a, m.shape.target? = some a → place' (f a) = place a) : shape' = shape := by
  obtain ⟨name, input, options, mshape⟩ := m
  cases mshape with
  | object ps =>
    simp only [lowerShape, Model.rename, Shape.relink, Shape.mapSlots, bind_eq_ok,
      pure_eq_ok] at h h'
    obtain ⟨qs, hqs, rfl⟩ := h
    obtain ⟨qs', hqs', rfl⟩ := h'
    rw [NamingRules.properties_congr ⟨name, input, options, .object ps⟩ _
      (List.forall₂_iff_get.2 ⟨List.length_mapIdx.symm, fun i hi hi' => ?_⟩)] at hqs'
    · exact congrArg Shape.object (Except.ok.inj (hqs'.symm.trans hqs))
    · simp only [List.get_eq_getElem, List.getElem_mapIdx, true_and]
      exact hslots _ (List.mem_map_of_mem (List.getElem_mem _))
  | array value =>
    obtain rfl := pure_eq_ok.1 h
    obtain rfl := pure_eq_ok.1 h'
    exact congrArg Shape.array (hslots value (by simp [Shape.slots]))
  | tuple ps =>
    obtain rfl := pure_eq_ok.1 h
    obtain rfl := pure_eq_ok.1 h'
    refine congrArg Shape.tuple (List.ext_getElem (by simp) fun i hi hi' => ?_)
    simp only [List.getElem_map, List.getElem_mapIdx]
    rw [hslots]
    exact List.mem_map_of_mem (List.getElem_mem _)
  | union ms =>
    obtain rfl := pure_eq_ok.1 h
    obtain rfl := pure_eq_ok.1 h'
    refine congrArg Shape.union (List.ext_getElem (by simp) fun i hi hi' => ?_)
    simp only [List.getElem_map, List.getElem_mapIdx]
    exact hslots _ (List.getElem_mem _)
  | dictionary key value layout =>
    obtain rfl := pure_eq_ok.1 h
    obtain rfl := pure_eq_ok.1 h'
    show Shape.dictionary (place' (f key)) (place' (f value)) layout = _
    rw [hslots key (by simp [Shape.slots]), hslots value (by simp [Shape.slots])]
  | enumeration es =>
    rw [lowerShape] at h h'
    simp only [Model.rename, Shape.relink, Shape.mapSlots] at h'
    rw [NamingRules.members_congr _ ⟨name, input, options, .enumeration es⟩] at h'
    exact Except.ok.inj (h'.symm.trans h)
  | reference target =>
    obtain rfl := pure_eq_ok.1 h
    obtain rfl := pure_eq_ok.1 h'
    exact congrArg Shape.reference (htarget target rfl)
  | any | string | integer | float | boolean =>
    obtain rfl := pure_eq_ok.1 h
    obtain rfl := pure_eq_ok.1 h'
    rfl

section Lower

variable (h : s.IsRenaming s' root f) (hclosed : s.IsClosed root)
  (hclosed' : s'.IsClosed (f root))
include h hclosed hclosed'

/-- The parts of a model and of its new model say the same. -/
lemma part_rename (hb : s.lower (.ofConvention c separator valueText) root = .ok b)
    (hb' : s'.lower (.ofConvention c separator valueText) (f root) = .ok b')
    (hn : n ∈ s.reached root) :
    (b'.part (s.placeOf root n)).unsourced = (b.part (s.placeOf root n)).unsourced := by
  have hmodel := h.model n ((mem_reached_iff hclosed).1 hn)
  have hplace : ∀ (link : Link) (a : ModelId),
      link.end? (s.model n).shape (s.model n).options.parents = some a →
      s'.placeOf (f root) (f a) = s.placeOf root a :=
    fun link a ha => h.placeOf_eq hclosed hclosed' (mem_reached_of_end hclosed link hn ha)
  have hn' : f n ∈ s'.reached (f root) := by
    rw [h.reached_eq hclosed hclosed']
    exact List.mem_map_of_mem hn
  have hpart := lower_part hb hn
  have hpart' := lower_part hb' hn'
  rw [h.placeOf_eq hclosed hclosed' hn] at hpart'
  obtain ⟨hname, htype, hinput, hoptions, hshape, -⟩ := hpart
  obtain ⟨hname', htype', hinput', hoptions', hshape', -⟩ := hpart'
  rw [hmodel] at hname' hinput' hoptions' hshape'
  rw [h.placeOf_eq hclosed hclosed' hn] at hshape'
  have hshapes := lowerShape_rename hshape hshape'
    (fun a ha => by
      obtain ⟨i, hi⟩ := List.mem_iff_getElem?.1 ha
      exact hplace (.slot i) a hi)
    (fun a ha => hplace .target a ha)
  have hparents : (s.model n).options.parents.map (s'.placeOf (f root) ∘ f) =
      (s.model n).options.parents.map (s.placeOf root) := by
    refine List.map_congr_left fun a ha => ?_
    obtain ⟨i, hi⟩ := List.mem_iff_getElem?.1 ha
    exact hplace (.parent i) a hi
  have hlowered : (b'.part (s.placeOf root n)).options = (b.part (s.placeOf root n)).options := by
    rw [hoptions, hoptions']
    simp only [lowerOptions, Model.rename, List.map_map, hparents]
  have hnames : (b'.part (s.placeOf root n)).name = (b.part (s.placeOf root n)).name :=
    Except.ok.inj (hname'.symm.trans hname)
  rw [Part.unsourced, Part.unsourced, hnames, htype, htype', hinput, hinput', hlowered, hshapes]
  rfl

/-- A renamed schema is lowered to the same blueprint, up to sources. -/
theorem lower_rename (hb : s.lower (.ofConvention c separator valueText) root = .ok b)
    (hb' : s'.lower (.ofConvention c separator valueText) (f root) = .ok b') :
    b'.unsourced = b.unsourced := by
  have hsize : b'.size = b.size := by
    rw [lower_size hb', lower_size hb, h.reached_eq hclosed hclosed', List.length_map]
  refine Blueprint.ext_part (by simp [hsize]) ?_ fun id hid => ?_
  · rw [Blueprint.root_unsourced, Blueprint.root_unsourced, lower_root hb, lower_root hb']
  · rw [Blueprint.size_unsourced, hsize, lower_size hb] at hid
    have hmem := List.getElem_mem hid
    have hpart := part_rename h hclosed hclosed' hb hb' hmem
    rwa [placeOf_reached_getElem hid, ← Blueprint.part_unsourced,
      ← Blueprint.part_unsourced] at hpart

/-- The blueprints of a schema and of a renamed one are the same up to sources. -/
theorem blueprint_rename {table : TypeTable} (hlocal : table.IsLocal)
    (hb : s.blueprint table (.ofConvention c separator valueText) root = .ok b)
    (hb' : s'.blueprint table (.ofConvention c separator valueText) (f root) = .ok b') :
    b'.unsourced = b.unsourced := by
  obtain ⟨b₀, hlower, htyped⟩ := bind_eq_ok.1 hb
  obtain ⟨b₀', hlower', htyped'⟩ := bind_eq_ok.1 hb'
  have hrules := NamingRules.ofConvention_ignoresSources c separator valueText
  have hsame := Blueprint.assignTypes_unsourced b₀ hlocal hrules
  have hsame' := Blueprint.assignTypes_unsourced b₀' hlocal hrules
  rw [lower_rename h hclosed hclosed' hlower hlower', ← hsame, htyped, htyped'] at hsame'
  exact Except.ok.inj hsame'

end Lower

end Schema

end Modelsmith
