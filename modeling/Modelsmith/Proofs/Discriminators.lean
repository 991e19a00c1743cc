/-
# Types of discriminators

The members of a union that refer to objects with the discriminating property give the type of
its discriminator, if these properties have one type in common.  The type is found when the walk
leaves the union, from the types that are known by then.  A member may refer to an object that
the walk is still inside of, whose later properties have no types yet: such a property counts
with the empty type.  So the discriminator of a union may depend on the order of properties, and
on where the walk enters a cycle through the union.
-/
import Modelsmith.Proofs.Links
import Modelsmith.Proofs.Typing.Kept

namespace Modelsmith

/-! ## Properties of lowered shapes -/

namespace Shape

variable {ι ρ : Type} {f : Link → ModelId → ModelId} {shape : Shape ι ρ}

lemma names_relink :
    (shape.relink f).properties.map (·.name) = shape.properties.map (·.name) := by
  cases shape with
  | object ps => apply List.ext_getElem <;> simp [relink, mapSlots, Shape.properties]
  | _ => rfl

lemma slots_of_properties {i : Nat} {p : Property ι} (hp : shape.properties[i]? = some p) :
    shape.slots[i]? = some p.model := by
  cases shape with
  | object ps => rw [slots, List.getElem?_map, show ps[i]? = some p from hp, Option.map_some]
  | _ => simp [properties] at hp

lemma Mirrors.names_eq {link : ModelId → ModelId → Prop} {owner : ModelId} {m : Shape Unit Unit}
    {p : Shape String Member} (h : Mirrors link owner m p) :
    p.properties.map (·.name) = m.properties.map (·.name) := by
  cases h with
  | object properties =>
    rw [← List.forall₂_eq_eq_eq, List.forall₂_map_right_iff, List.forall₂_map_left_iff]
    exact properties.flip.imp fun _ _ h => h.1
  | _ => rfl

/-- The first property of a name is the one with the first number of this name. -/
lemma find?_property {name : String} {p : Property ι} :
    shape.properties.find? (·.name == name) = some p ↔
      ∃ i, (shape.properties.map (·.name)).findIdx? (· == name) = some i ∧
        shape.properties[i]? = some p := by
  rw [List.find?_eq_bind_findIdx?_getElem?, Option.bind_eq_some_iff, List.findIdx?_map]
  rfl

end Shape

namespace Schema

variable {s : Schema} {rules : NamingRules} {table : TypeTable} {root m j : ModelId}
  {b b₀ c : Blueprint} {e : Edge} {events past : List Event} {name t : String}

/-! ## Tags -/

/-- An edge is a tag of a union: it starts at the property with the given name of an object to
which a member of the union refers directly. -/
def IsTag (s : Schema) (m : ModelId) (name : String) (e : Edge) : Prop :=
  ∃ x ∈ (s.model m).shape.slots, (s.model x).shape.target? = some e.source ∧
    ∃ i, ((s.model e.source).shape.properties.map (·.name)).findIdx? (· == name) = some i ∧
      e.link = .slot i ∧ (s.model e.source).shape.slots[i]? = some e.target

lemma IsTag.mem_edges (h : s.IsTag m name e) : e ∈ s.edges e.source := by
  obtain ⟨x, -, -, i, -, hlink, hslot⟩ := h
  exact Schema.mem_edges.2 ⟨rfl, by rw [hlink]; exact hslot⟩

lemma IsTag.source_reached (hclosed : s.IsClosed root) (hm : m ∈ s.reached root)
    (h : s.IsTag m name e) : e.source ∈ s.reached root := by
  obtain ⟨x, hx, htarget, -⟩ := h
  obtain ⟨i, hi⟩ := List.getElem?_of_mem hx
  exact mem_reached_of_end hclosed .target (mem_reached_of_end hclosed (.slot i) hm hi) htarget

/-- The type of what an edge of the schema leads to in a blueprint. -/
def typeAlong (s : Schema) (root : ModelId) (b : Blueprint) (e : Edge) : String :=
  ((e.link.end? (b.part (s.placeOf root e.source)).shape
    (b.part (s.placeOf root e.source)).options.parents).map fun j => (b.part j).type).getD ""

section Cut

variable {cuts : List Visit} (hclosed : s.IsClosed root) (hlower : s.lower rules root = .ok b₀)
  (hcut : b₀.IsCut cuts c.bare)
include hlower hcut

/-- What a slot of a cut blueprint holds. -/
lemma cut_slot (i : Nat) (hm : m ∈ s.reached root) :
    (c.part (s.placeOf root m)).shape.slots[i]? = (s.model m).shape.slots[i]?.map fun a =>
      b₀.endAfter cuts (s.placeOf root m) (.slot i) (s.placeOf root a) := by
  rw [hcut.shape_kept (lower_size hlower ▸ placeOf_lt_length hm), Shape.slots_relink,
    List.getElem?_mapIdx, (lowerShape_mirrors (lower_part hlower hm).shape).slots_eq,
    List.getElem?_map, Option.map_map]
  rfl

lemma cut_names (hm : m ∈ s.reached root) :
    (c.part (s.placeOf root m)).shape.properties.map (·.name) =
      (s.model m).shape.properties.map (·.name) := by
  rw [hcut.shape_kept (lower_size hlower ▸ placeOf_lt_length hm), Shape.names_relink,
    (lowerShape_mirrors (lower_part hlower hm).shape).names_eq]

/-- What a reference of a cut blueprint refers to. -/
lemma cut_target (hm : m ∈ s.reached root) :
    (c.part (s.placeOf root m)).shape.target? = (s.model m).shape.target?.map fun a =>
      b₀.endAfter cuts (s.placeOf root m) .target (s.placeOf root a) := by
  rw [hcut.shape_kept (lower_size hlower ▸ placeOf_lt_length hm), Shape.target?_relink,
    (lowerShape_mirrors (lower_part hlower hm).shape).target?_eq, Option.map_map]
  rfl

/-- A link of a cut blueprint leads to a part of any value, or it is not cut. -/
lemma cut_end_cases (hcuts : b₀.AreCuts cuts) (hm : e.source ∈ s.reached root)
    (he : e ∈ s.edges e.source) :
    (e.rename (s.placeOf root)).visit ∈ cuts ∧ (c.part (b₀.endAfter cuts
        (s.placeOf root e.source) e.link (s.placeOf root e.target))).shape = .any ∨
      b₀.endAfter cuts (s.placeOf root e.source) e.link (s.placeOf root e.target) =
        s.placeOf root e.target := by
  have he₀ : e.rename (s.placeOf root) ∈ b₀.edges (s.placeOf root e.source) := by
    rw [lower_edges hlower hm]
    exact List.mem_map.2 ⟨e, he, rfl⟩
  rcases hcuts.endAfter_cases he₀ with ⟨k, hk, hend⟩ | ⟨-, hend⟩ <;>
    simp only [Edge.rename] at hend
  · refine .inl ⟨List.mem_of_getElem? hk, ?_⟩
    rw [hend, ← Part.shape_bare, hcut.part_stand hk]
  · exact .inr hend

/-- A link to a model with a type of its own is never cut. -/
lemma cut_end_of_isSelfContained (hcuts : b₀.AreCuts cuts)
    (hother : ∀ v ∈ cuts, (b₀.part v.node).variant.isSelfContained = false)
    (hm : e.source ∈ s.reached root) (ht : e.target ∈ s.reached root)
    (he : e ∈ s.edges e.source) (hown : (s.model e.target).variant.isSelfContained = true) :
    b₀.endAfter cuts (s.placeOf root e.source) e.link (s.placeOf root e.target) =
      s.placeOf root e.target := by
  rcases cut_end_cases hlower hcut hcuts hm he with ⟨hmem, -⟩ | hend
  · have hvariant : (b₀.part (s.placeOf root e.target)).variant = (s.model e.target).variant :=
      (lowerShape_mirrors (lower_part hlower ht).shape).variant_eq
    have hnot : (b₀.part (s.placeOf root e.target)).variant.isSelfContained = false :=
      hother _ hmem
    rw [hvariant, hown] at hnot
    cases hnot
  · exact hend

include hclosed

/-- A type over the members of a union in a cut blueprint is at the end of a tag of the union. -/
lemma exists_isTag_of_tagTypes (hcuts : b₀.AreCuts cuts) (hm : m ∈ s.reached root)
    (ht : t ∈ c.tagTypes (s.placeOf root m) name) :
    ∃ e, s.IsTag m name e ∧ (c.part (b₀.endAfter cuts (s.placeOf root e.source) e.link
      (s.placeOf root e.target))).type = t := by
  obtain ⟨x', hx', o', p, htarget, hfind, rfl⟩ := ht
  obtain ⟨k, hk⟩ := List.getElem?_of_mem hx'
  rw [cut_slot hlower hcut k hm] at hk
  obtain ⟨x, hslot, rfl⟩ := Option.map_eq_some_iff.1 hk
  have hxm := mem_reached_of_end hclosed (.slot k) hm hslot
  -- a part of any value is no reference and has no properties
  rcases cut_end_cases (e := ⟨m, .slot k, x⟩) hlower hcut hcuts hm (mem_edges.2 ⟨rfl, hslot⟩)
    with ⟨-, hany⟩ | hx
  · simp [hany, Shape.target?] at htarget
  rw [hx, cut_target hlower hcut hxm] at htarget
  obtain ⟨o, ho, rfl⟩ := Option.map_eq_some_iff.1 htarget
  have hom := mem_reached_of_end hclosed .target hxm ho
  rcases cut_end_cases (e := ⟨x, .target, o⟩) hlower hcut hcuts hxm (mem_edges.2 ⟨rfl, ho⟩)
    with ⟨-, hany⟩ | hend
  · simp [hany, Shape.properties] at hfind
  rw [hend, Shape.find?_property, cut_names hlower hcut hom] at hfind
  obtain ⟨i, hi, hp⟩ := hfind
  have hcontent := Shape.slots_of_properties hp
  rw [cut_slot hlower hcut i hom] at hcontent
  obtain ⟨a, ha, hmodel⟩ := Option.map_eq_some_iff.1 hcontent
  exact ⟨⟨o, .slot i, a⟩, ⟨x, List.mem_of_getElem? hslot, ho, i, hi, rfl, ha⟩, by rw [hmodel]⟩

/-- The type at the end of a tag of a union is one over its members in a cut blueprint. -/
lemma mem_tagTypes_of_isTag (hcuts : b₀.AreCuts cuts)
    (hother : ∀ v ∈ cuts, (b₀.part v.node).variant.isSelfContained = false)
    (hm : m ∈ s.reached root) (htag : s.IsTag m name e) :
    (c.part (b₀.endAfter cuts (s.placeOf root e.source) e.link (s.placeOf root e.target))).type ∈
      c.tagTypes (s.placeOf root m) name := by
  obtain ⟨o, link, a⟩ := e
  obtain ⟨x, hx, htarget, i, hi, rfl, hslot⟩ := htag
  obtain ⟨k, hk⟩ := List.getElem?_of_mem hx
  have hxm := mem_reached_of_end hclosed (.slot k) hm hk
  have hom := mem_reached_of_end hclosed .target hxm htarget
  -- neither the reference nor the object is cut off
  have href : (s.model x).variant.isSelfContained = true := by
    rw [Model.variant, Shape.target?_eq_some.1 htarget]
    rfl
  have hobject : (s.model o).variant.isSelfContained = true := by
    rw [Model.variant]
    cases hshape : (s.model o).shape <;> simp [hshape, Shape.properties] at hi
    rfl
  have hmember := cut_slot hlower hcut k hm
  rw [hk, Option.map_some, cut_end_of_isSelfContained (e := ⟨m, .slot k, x⟩) hlower hcut hcuts
    hother hm hxm (mem_edges.2 ⟨rfl, hk⟩) href] at hmember
  have htarget' := cut_target hlower hcut hxm
  rw [htarget, Option.map_some, cut_end_of_isSelfContained (e := ⟨x, .target, o⟩) hlower hcut
    hcuts hother hxm hom (mem_edges.2 ⟨rfl, htarget⟩) hobject] at htarget'
  have hcontent := cut_slot hlower hcut i hom
  rw [hslot, Option.map_some] at hcontent
  -- the property of the part has the number of the property of the object
  obtain ⟨p, hp⟩ : ∃ p, (c.part (s.placeOf root o)).shape.properties[i]? = some p := by
    have hlt := (List.findIdx?_eq_some_iff_getElem.1 hi).1
    rw [← cut_names hlower hcut hom, List.length_map] at hlt
    exact ⟨_, List.getElem?_eq_getElem hlt⟩
  rw [Shape.slots_of_properties hp] at hcontent
  refine ⟨_, List.mem_of_getElem? hmember, _, p, htarget', ?_, ?_⟩
  · exact Shape.find?_property.2 ⟨i, by rw [cut_names hlower hcut hom, hi], hp⟩
  · rw [Option.some.inj hcontent]

/-- The types over the members of a union in a cut blueprint are those at the ends of the tags
of the union. -/
lemma cut_tagTypes (hcuts : b₀.AreCuts cuts)
    (hother : ∀ v ∈ cuts, (b₀.part v.node).variant.isSelfContained = false)
    (hm : m ∈ s.reached root) :
    t ∈ c.tagTypes (s.placeOf root m) name ↔
      ∃ e, s.IsTag m name e ∧ (c.part (b₀.endAfter cuts (s.placeOf root e.source) e.link
        (s.placeOf root e.target))).type = t := by
  constructor
  · exact exists_isTag_of_tagTypes hclosed hlower hcut hcuts hm
  · rintro ⟨e, htag, rfl⟩
    exact mem_tagTypes_of_isTag hclosed hlower hcut hcuts hother hm htag

end Cut

/-! ## What is known when a union is left -/

/-- After some events of the walk the type at the end of an edge is known: the edge has been cut,
or its end has a type of its own and has been entered, or its end has been left. -/
def IsTyped (s : Schema) (events : List Event) (e : Edge) : Prop :=
  (.again e.visit true ∈ events ∧ (s.model e.target).variant.isSelfContained = false) ∨
    (e.target ∈ entered events ∧ (s.model e.target).variant.isSelfContained = true) ∨
    e.target ∈ left events

/-- The types over the members of a union after some events of the walk: where a type is not
known yet, it is empty. -/
def typesKnown (s : Schema) (root : ModelId) (b : Blueprint) (m : ModelId) (name : String)
    (events : List Event) : Set String :=
  {t | ∃ e, s.IsTag m name e ∧
    ((s.IsTyped events e ∧ t = s.typeAlong root b e) ∨ (¬ s.IsTyped events e ∧ t = ""))}

lemma mem_left_iff_rename (hsub : events ⊆ walk s.edges s.size root) (hm : m ∈ s.reached root) :
    s.placeOf root m ∈ left (events.map (Event.rename (s.placeOf root))) ↔ m ∈ left events := by
  obtain ⟨progress, hwalk⟩ := walkState_walk s.edges s.size root
  rw [left_rename, List.mem_map]
  constructor
  · rintro ⟨n, hn, hplace⟩
    obtain ⟨v, hv, rfl⟩ := mem_left.1 hn
    have hleft : v.node ∈ s.reached root :=
      hwalk.left_perm.subset (by simpa using mem_left.2 ⟨v, hsub hv, rfl⟩)
    rwa [← placeOf_inj hleft hm hplace]
  · exact fun hm => ⟨m, hm, rfl⟩

lemma mem_entered_iff_rename (hsub : events ⊆ walk s.edges s.size root)
    (hm : m ∈ s.reached root) :
    s.placeOf root m ∈ entered (events.map (Event.rename (s.placeOf root))) ↔
      m ∈ entered events := by
  rw [entered_rename, List.mem_map]
  constructor
  · rintro ⟨n, hn, hplace⟩
    obtain ⟨v, hv, rfl⟩ := mem_entered.1 hn
    have hentered : v.node ∈ s.reached root := mem_entered.2 ⟨v, hsub hv, rfl⟩
    rwa [← placeOf_inj hentered hm hplace]
  · exact fun hm => ⟨m, hm, rfl⟩

section Known

variable (hsafe : table.isSafe = Variant.isSelfContained) (hclosed : s.IsClosed root)
  (hlower : s.lower rules root = .ok b₀)
include hsafe hclosed hlower

/-- While a lowered blueprint gets its types, a link leads to a part with a type exactly if the
type at the end of its edge is known. -/
lemma hasType_iff_isTyped {progress : Array Progress} {tasks : List Task}
    (h : WalkState b₀.edges b₀.size b₀.root (events.map (Event.rename (s.placeOf root))) progress
      tasks)
    (hsub : events ⊆ walk s.edges s.size root) (hm : e.source ∈ s.reached root)
    (he : e ∈ s.edges e.source) :
    b₀.HasType table progress (b₀.endAfter
        (b₀.cutsOf table (events.map (Event.rename (s.placeOf root)))) (s.placeOf root e.source)
        e.link (s.placeOf root e.target)) ↔ s.IsTyped events e := by
  have ht : e.target ∈ s.reached root :=
    (mem_reached_iff hclosed).2 (((mem_reached_iff hclosed).1 hm).tail ⟨e, he, rfl⟩)
  have hlt : s.placeOf root e.target < b₀.size := lower_size hlower ▸ placeOf_lt_length ht
  have he₀ : e.rename (s.placeOf root) ∈ b₀.edges (s.placeOf root e.source) := by
    rw [lower_edges hlower hm]
    exact List.mem_map.2 ⟨e, he, rfl⟩
  have hvariant : (b₀.part (s.placeOf root e.target)).variant = (s.model e.target).variant :=
    (lowerShape_mirrors (lower_part hlower ht).shape).variant_eq
  have hcutIff : (e.rename (s.placeOf root)).visit ∈
      b₀.cutsOf table (events.map (Event.rename (s.placeOf root))) ↔
      .again e.visit true ∈ events ∧ (s.model e.target).variant.isSelfContained = false := by
    have hnode : (e.rename (s.placeOf root)).visit.node = s.placeOf root e.target := rfl
    rw [Blueprint.mem_cutsOf, hsafe, hnode, hvariant]
    refine and_congr_left fun _ => ⟨fun hmem => ?_, fun hmem => List.mem_map.2 ⟨_, hmem, rfl⟩⟩
    obtain ⟨event, hevent, heq⟩ := List.mem_map.1 hmem
    exact again_of_rename (hsub hevent) hm he heq ▸ hevent
  rcases (Blueprint.areCuts_cutsOf table h).endAfter_cases he₀ with ⟨k, hk, hend⟩ | ⟨hnot, hend⟩ <;>
    simp only [Edge.rename] at hend <;> rw [hend]
  · exact iff_of_true (Blueprint.hasType_of_le (Nat.le_add_right _ _))
      (.inl (hcutIff.1 (List.mem_of_getElem? hk)))
  · rw [Blueprint.hasType_iff h hlt, hsafe, hvariant, mem_entered_iff_rename hsub ht,
      mem_left_iff_rename hsub ht, IsTyped, ← hcutIff, or_iff_right hnot]

omit hsafe hclosed in
/-- The type along an edge of the schema is the one at the end of its link after all cuts. -/
lemma typeAlong_eq {cuts : List Visit} (hcut : b₀.IsCut cuts b.bare)
    (hm : e.source ∈ s.reached root) (htag : s.IsTag m name e) :
    s.typeAlong root b e = (b.part (b₀.endAfter cuts (s.placeOf root e.source) e.link
      (s.placeOf root e.target))).type := by
  obtain ⟨x, -, -, i, -, hlink, hslot⟩ := htag
  have hend := cut_slot hlower hcut i hm
  rw [hslot, Option.map_some] at hend
  rw [typeAlong, hlink]
  simp only [Link.end?, hend, Option.map_some, Option.getD_some]

/-- In a blueprint the types over the members of a union are those along its tags. -/
lemma tagTypes_eq (hrun : b₀.assignTypes table rules = .ok b) (hm : m ∈ s.reached root) :
    b.tagTypes (s.placeOf root m) name =
      {t | ∃ e, s.IsTag m name e ∧ s.typeAlong root b e = t} := by
  obtain ⟨progress, hwalk⟩ := walkState_walk b₀.edges b₀.size b₀.root
  have hcut := Blueprint.isCut_of_run hwalk (lower_bare hlower) hrun
  ext t
  refine (cut_tagTypes hclosed hlower hcut (Blueprint.areCuts_cutsOf table hwalk) (fun v hv => ?_)
    hm).trans (exists_congr fun e => and_congr_right fun htag => ?_)
  · rw [← hsafe]
    exact (Blueprint.mem_cutsOf.1 hv).2
  · rw [typeAlong_eq hlower hcut (htag.source_reached hclosed hm) htag]

/-- In the middle of the walk the types over the members of a union are those that are known. -/
lemma tagTypes_known {progress : Array Progress} {tasks : List Task}
    (h : WalkState b₀.edges b₀.size b₀.root (events.map (Event.rename (s.placeOf root))) progress
      tasks)
    (hsub : events ⊆ walk s.edges s.size root)
    (hrun : (events.map (Event.rename (s.placeOf root))).foldlM
      (Blueprint.typeEvent table rules) b₀ = .ok c)
    (hrest : (walkFrom b₀.edges progress tasks).foldlM (Blueprint.typeEvent table rules) c = .ok b)
    (hm : m ∈ s.reached root) :
    c.tagTypes (s.placeOf root m) name = s.typesKnown root b m name events := by
  have hbare := lower_bare hlower
  have hcut := Blueprint.isCut_of_run h hbare hrun
  have hcuts := Blueprint.areCuts_cutsOf table h
  have hfinal : b₀.IsCut (b₀.cutsOf table (walk b₀.edges b₀.size b₀.root)) b.bare := by
    obtain ⟨progress', hwalk⟩ := walkState_walk b₀.edges b₀.size b₀.root
    have hall : (walk b₀.edges b₀.size b₀.root).foldlM (Blueprint.typeEvent table rules) b₀ =
        .ok b := by
      rw [← h.past_append, List.foldlM_append, bind_eq_ok]
      exact ⟨c, hrun, hrest⟩
    exact Blueprint.isCut_of_run hwalk hbare hall
  ext t
  refine (cut_tagTypes hclosed hlower hcut hcuts (fun v hv => ?_) hm).trans
    (exists_congr fun e => and_congr_right fun htag => ?_)
  · rw [← hsafe]
    exact (Blueprint.mem_cutsOf.1 hv).2
  · have hsource := htag.source_reached hclosed hm
    have htarget : e.target ∈ s.reached root :=
      mem_reached_of_end hclosed e.link hsource (Schema.mem_edges.1 htag.mem_edges).2
    have he₀ : e.rename (s.placeOf root) ∈ b₀.edges (s.placeOf root e.source) := by
      rw [lower_edges hlower hsource]
      exact List.mem_map.2 ⟨e, htag.mem_edges, rfl⟩
    have hiff := hasType_iff_isTyped hsafe hclosed hlower h hsub hsource htag.mem_edges
    by_cases htyped : s.IsTyped events e
    · -- a known type stays, and so does the link that leads to it
      have htype := hiff.2 htyped
      have hlt := (hcut.end_eq hcuts he₀ (lower_size hlower ▸ placeOf_lt_length htarget)).1
      have hkept := Blueprint.type_kept hbare h hrun hrest hlt htype
      have hend := Blueprint.endAfter_kept (e := e.rename (s.placeOf root)) h he₀ htype
      simp only [Edge.rename] at hend hkept
      rw [typeAlong_eq hlower hfinal hsource htag, hend, hkept]
      simp [htyped, eq_comm]
    · have hunknown := Blueprint.type_unknown hbare h hrun (fun htype => htyped (hiff.1 htype))
      simp [htyped, hunknown, eq_comm]

end Known

/-- When the types that are known over the tags of a union are a single one exactly if the types
in the end are: if none is missing, or if there are several in the end and one that is not empty
is known. -/
lemma singleton_iff_of_known {tag typed : Edge → Prop} {type : Edge → String} :
    (∀ t, {u | ∃ e, tag e ∧ ((typed e ∧ u = type e) ∨ (¬ typed e ∧ u = ""))} = {t} ↔
        {u | ∃ e, tag e ∧ type e = u} = {t}) ↔
      (∀ e, tag e → typed e ∨ type e = "") ∨
        ((∃ e e', tag e ∧ tag e' ∧ type e ≠ type e') ∧ ∃ e, tag e ∧ typed e ∧ type e ≠ "") := by
  by_cases hall : ∀ e, tag e → typed e ∨ type e = ""
  · refine iff_of_true (fun t => ?_) (.inl hall)
    have hsame : {u | ∃ e, tag e ∧ ((typed e ∧ u = type e) ∨ (¬ typed e ∧ u = ""))} =
        {u | ∃ e, tag e ∧ type e = u} := by
      ext u
      refine exists_congr fun e => and_congr_right fun htag => ?_
      have hempty := hall e htag
      grind
    rw [hsame]
  · -- a type is missing, so that the empty type is among those that are known
    rw [or_iff_right hall]
    push Not at hall
    obtain ⟨late, hlate, hmissing, hne⟩ := hall
    have hempty : "" ∈ {u | ∃ e, tag e ∧ ((typed e ∧ u = type e) ∨ (¬ typed e ∧ u = ""))} :=
      ⟨late, hlate, .inr ⟨hmissing, rfl⟩⟩
    have hfinal : type late ∈ {u | ∃ e, tag e ∧ type e = u} := ⟨late, hlate, rfl⟩
    constructor
    · intro hiff
      have hknown : ∃ e, tag e ∧ typed e ∧ type e ≠ "" := by
        by_contra hnone
        push Not at hnone
        have hsingle := (hiff "").1 (Set.eq_singleton_iff_unique_mem.2 ⟨hempty, by grind⟩)
        rw [hsingle] at hfinal
        exact hne hfinal
      refine ⟨?_, hknown⟩
      obtain ⟨e, htag, htyped, htype⟩ := hknown
      by_contra hone
      push Not at hone
      have hsingle := (hiff (type late)).2 (Set.eq_singleton_iff_unique_mem.2
        ⟨hfinal, by rintro u ⟨e', he', rfl⟩; exact hone e' late he' hlate⟩)
      rw [hsingle] at hempty
      exact hne hempty.symm
    · rintro ⟨⟨e₁, e₂, htag₁, htag₂, hdiffer⟩, e, htag, htyped, htype⟩ t
      refine iff_of_false (fun hsingle => ?_) fun hsingle => ?_
      · have hmem : type e ∈ ({t} : Set String) := hsingle ▸ ⟨e, htag, .inl ⟨htyped, rfl⟩⟩
        rw [hsingle] at hempty
        exact htype (hmem.trans hempty.symm)
      · have hmem₁ : type e₁ ∈ ({t} : Set String) := hsingle ▸ ⟨e₁, htag₁, rfl⟩
        have hmem₂ : type e₂ ∈ ({t} : Set String) := hsingle ▸ ⟨e₂, htag₂, rfl⟩
        exact hdiffer (hmem₁.trans hmem₂.symm)

/-- A walk through a lowered blueprint leaves a part when the walk through the schema leaves its
model. -/
lemma exists_leave (hclosed : s.IsClosed root) (hlower : s.lower rules root = .ok b₀)
    {past₀ rest₀ : List Event} {v₀ : Visit}
    (hwalk : past₀ ++ .leave v₀ :: rest₀ = walk b₀.edges b₀.size b₀.root) :
    ∃ (past : List Event) (v : Visit) (rest : List Event),
      walk s.edges s.size root = past ++ .leave v :: rest ∧
      past.map (Event.rename (s.placeOf root)) = past₀ ∧ v.rename (s.placeOf root) = v₀ := by
  rw [lower_walk hclosed hlower, eq_comm, List.map_eq_append_iff] at hwalk
  obtain ⟨past, others, hsplit, hpast, hothers⟩ := hwalk
  obtain ⟨event, rest, rfl, hevent, -⟩ := List.map_eq_cons_iff.1 hothers
  cases event with
  | leave v => exact ⟨past, v, rest, hsplit, hpast, by simpa [Event.rename] using hevent⟩
  | enter v => simp [Event.rename] at hevent
  | again v o => simp [Event.rename] at hevent

section Union

variable (hsafe : table.isSafe = Variant.isSelfContained) (hclosed : s.IsClosed root)
  (h : s.blueprint table rules root = .ok b) (hvariant : (b.part j).variant = .union)
  {d : Discriminator} (hd : (b.part j).options.discriminator = some d)
include hsafe hclosed h hvariant hd

/-- The type of the discriminator of a union is the one type that is known when the walk leaves
the union. -/
lemma exists_leave_union :
    ∃ (past : List Event) (v : Visit) (rest : List Event),
      walk s.edges s.size root = past ++ .leave v :: rest ∧
      v.node ∈ s.reached root ∧ j = s.placeOf root v.node ∧
      ∀ t, d.type = some t ↔
        s.typesKnown root b v.node d.property (past ++ [.leave v]) = {t} := by
  obtain ⟨b₀, hlower, hrun⟩ := bind_eq_ok.1 h
  obtain ⟨progress, hwalk⟩ := walkState_walk b₀.edges b₀.size b₀.root
  have hbare := lower_bare hlower
  have hcut := Blueprint.isCut_of_run hwalk hbare hrun
  have hj : j < b.size := by
    by_contra hge
    simp [Blueprint.part, show ¬ j < b.parts.size from hge, Part.variant, Shape.variant] at hvariant
  have hlt : j < b₀.size := hcut.lt_of_not_isSelfContained hj (by rw [hvariant]; rfl)
  have hd₀ : (b₀.part j).options.discriminator = some { property := d.property } := by
    have hoptions := congrArg (·.options.discriminator) (hcut.part_kept hlt)
    simp only [Part.bare, hd, Option.map_some] at hoptions
    exact hoptions.symm
  -- the moment at which the walk leaves the union
  obtain ⟨past₀, progress₀, v₀, rest₀, hclose, rfl⟩ :=
    hwalk.exists_close (hwalk.done_of_entered (lower_entered hclosed hlower hlt))
  obtain ⟨c, hrunc, hrest, type, hdisc, htype⟩ := Blueprint.exists_discriminator hbare hclose hrun
    ((hcut.variant_eq hlt).symm.trans hvariant) hd₀
  obtain ⟨past, v, rest, hsplit, rfl, rfl⟩ := exists_leave hclosed hlower hclose.leave_append
  have hsub : past ++ [.leave v] ⊆ walk s.edges s.size root := by
    rw [hsplit, List.append_cons past _ rest]
    exact List.subset_append_left _ _
  have hm : v.node ∈ s.reached root := by
    obtain ⟨progress', hwalk'⟩ := walkState_walk s.edges s.size root
    exact hwalk'.left_perm.subset (by simpa using mem_left.2 ⟨v, hsub (by simp), rfl⟩)
  have hmap : past.map (Event.rename (s.placeOf root)) ++ [.leave (v.rename (s.placeOf root))] =
      (past ++ [Event.leave v]).map (Event.rename (s.placeOf root)) := by
    rw [List.map_append]
    rfl
  have hleave := hclose.leave
  rw [hmap] at hrunc hleave
  refine ⟨past, v, rest, hsplit, hm, rfl, fun t => ?_⟩
  rw [Visit.rename_node] at htype
  rw [← tagTypes_known hsafe hclosed hlower hleave hsub hrunc hrest hm, ← htype,
    Option.some.inj (hd.symm.trans hdisc)]

/-- In a blueprint for a table with the usual safe variants, the type of the discriminator of a
union is the one type that its tags have when the walk leaves the union; a tag whose type is not
known then has the empty type.  It is the one type that the tags have in the end exactly if no
type is missing then, or if the tags have several types in the end and one of them is known
then. -/
theorem discriminator_type_iff :
    ∃ (past : List Event) (v : Visit) (rest : List Event),
      walk s.edges s.size root = past ++ .leave v :: rest ∧
      j = s.placeOf root v.node ∧
      (∀ t, d.type = some t ↔
        s.typesKnown root b v.node d.property (past ++ [.leave v]) = {t}) ∧
      ((∀ t, d.type = some t ↔ b.tagTypes j d.property = {t}) ↔
        (∀ e, s.IsTag v.node d.property e →
          s.IsTyped (past ++ [.leave v]) e ∨ s.typeAlong root b e = "") ∨
        ((∃ e e', s.IsTag v.node d.property e ∧ s.IsTag v.node d.property e' ∧
            s.typeAlong root b e ≠ s.typeAlong root b e') ∧
          ∃ e, s.IsTag v.node d.property e ∧ s.IsTyped (past ++ [.leave v]) e ∧
            s.typeAlong root b e ≠ "")) := by
  obtain ⟨past, v, rest, hsplit, hm, rfl, htype⟩ := exists_leave_union hsafe hclosed h hvariant hd
  refine ⟨past, v, rest, hsplit, rfl, htype, ?_⟩
  obtain ⟨b₀, hlower, hrun⟩ := bind_eq_ok.1 h
  rw [tagTypes_eq hsafe hclosed hlower hrun hm]
  simp only [htype]
  exact singleton_iff_of_known

end Union

/-! ## A union inside of the object that it refers to -/

/-- An object whose first property is a union of references to it, told apart by its second. -/
def tagSample : Schema :=
  ⟨#[plain "o" (.object [⟨"u", 1, true, 0, ()⟩, ⟨"kind", 3, true, 0, ()⟩]),
    { name := "u", options := { discriminator := some "kind" }, shape := .union [2] },
    plain "r" (.reference 0), plain "k" .string]⟩

lemma tagSample_isClosed : tagSample.IsClosed 0 := isClosed_of_range (by decide) (by decide)

lemma tagSample_blueprint :
    ∃ b, tagSample.blueprint Sketch.types (Sketch.rules {}) 0 = .ok b ∧
      (b.part 1).variant = .union ∧
      (b.part 1).options.discriminator = some ⟨"kind", some ""⟩ ∧
      b.discriminatorTypes "kind" (b.part 1).shape.slots = ["string"] := by
  have hrun : (tagSample.blueprintWithin Sketch.types (Sketch.rules {}) 0 9).any
      (fun b => (b.part 1).variant = .union ∧
        (b.part 1).options.discriminator = some ⟨"kind", some ""⟩ ∧
        b.discriminatorTypes "kind" (b.part 1).shape.slots = ["string"]) = true := by
    decide +kernel
  obtain ⟨b, hb, hparts⟩ := blueprint_of_within hrun
  exact ⟨b, hb, of_decide_eq_true hparts⟩

/-- In the end the discriminating property is a text, but the discriminator has the empty
type. -/
theorem discriminator_type_tagSample :
    ∃ b, tagSample.blueprint Sketch.types (Sketch.rules {}) 0 = .ok b ∧
      (b.part 1).variant = .union ∧
      (b.part 1).options.discriminator = some ⟨"kind", some ""⟩ ∧
      b.tagTypes 1 "kind" = {"string"} := by
  obtain ⟨b, hb, hvariant, hd, htypes⟩ := tagSample_blueprint
  exact ⟨b, hb, hvariant, hd, Blueprint.discriminatorTypes_eq_singleton.1 htypes⟩

/-- When the walk leaves the union, the type of the discriminating property is missing. -/
theorem tagSample_missing :
    ∃ (past : List Event) (v : Visit) (rest : List Event),
      walk tagSample.edges tagSample.size 0 = past ++ .leave v :: rest ∧
      tagSample.placeOf 0 v.node = 1 ∧ ∃ e, tagSample.IsTag v.node "kind" e ∧
        ¬ tagSample.IsTyped (past ++ [.leave v]) e := by
  obtain ⟨b, hb, hvariant, hd, htypes⟩ := tagSample_blueprint
  obtain ⟨past, v, rest, hsplit, hplace, -, hiff⟩ :=
    discriminator_type_iff rfl tagSample_isClosed hb hvariant hd
  refine ⟨past, v, rest, hsplit, hplace.symm, ?_⟩
  by_contra hnone
  push Not at hnone
  have hend := hiff.2 (.inl fun e he => .inl (hnone e he)) ""
  rw [Blueprint.discriminatorTypes_eq_singleton.1 htypes] at hend
  simp at hend

end Schema

end Modelsmith
