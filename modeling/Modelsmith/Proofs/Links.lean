/-
# Links of a blueprint

Where the slots and references of a blueprint lead to can be told from the schema.  A link of a
part leads to the part of the model that the link of its model leads to, unless it leads back;
then it leads to a part that stands for this model, and holds nothing.  So what the root of a
blueprint reaches are the parts of the models that it reaches in the schema, as long as no link
on the way leads back.
-/
import Modelsmith.Proofs.References
import Modelsmith.Proofs.Typing.Acyclic

namespace Modelsmith

lemma reaches_mono {out out' : ModelId → List Edge} {m n : ModelId}
    (hout : ∀ n, ∀ e ∈ out n, e ∈ out' n) (h : Reaches out m n) : Reaches out' m n := by
  refine Relation.ReflTransGen.mono ?_ _ _ h
  rintro a c ⟨e, he, htarget⟩
  exact ⟨e, hout a e he, htarget⟩

/-- The edges for the slots of a model are those of its contents that start in a slot. -/
lemma mem_slotEdges_iff_content {ι ρ : Type} {source : ModelId} {shape : Shape ι ρ} {e : Edge} :
    e ∈ slotEdges source shape ↔
      e ∈ slotEdges source shape ++ targetEdges source shape ∧ ∃ i, e.link = .slot i := by
  rw [List.mem_append]
  constructor
  · intro he
    obtain ⟨-, i, hi, -⟩ := mem_mapIdx_edge.1 he
    exact ⟨.inl he, i, hi⟩
  · rintro ⟨he | he, i, hi⟩
    · exact he
    · obtain ⟨t, -, rfl⟩ := List.mem_map.1 he
      simp at hi

namespace Schema

variable {s : Schema} {rules : NamingRules} {table : TypeTable} {root m m' t t' j : ModelId}
  {b b₀ : Blueprint} {e : Edge}

/-- A part that stands for a model: one of any value that follows the parts of the models, with
the name of the model. -/
structure IsStandFor (s : Schema) (root : ModelId) (b : Blueprint) (t j : ModelId) : Prop where
  further : (s.reached root).length ≤ j
  lt : j < b.size
  shape : (b.part j).shape = .any
  name : (b.part j).name = (b.part (s.placeOf root t)).name
  source : (b.part j).source = t

/-- Whether a link from `m` to `t` may lead to the part `j` of a blueprint: to a part that stands
for `t` if it leads back, and to the part of `t` otherwise. -/
def EndsAt (s : Schema) (root : ModelId) (b : Blueprint) (m t j : ModelId) : Prop :=
  (s.LeadsBack root m t ∧ s.IsStandFor root b t j) ∨
    (¬ s.LeadsBack root m t ∧ j = s.placeOf root t)

/-- Whether some link that the root reaches through slots and targets leads back. -/
def TurnsBack (s : Schema) (root : ModelId) : Prop :=
  ∃ e : Edge, Reaches s.contentEdges root e.source ∧ e ∈ s.contentEdges e.source ∧
    s.LeadsBack root e.source e.target

lemma reaches_contents_of_slots {m n : ModelId} (h : Reaches s.slotEdges m n) :
    Reaches s.contentEdges m n :=
  reaches_mono (fun _ _ he => (mem_slotEdges_iff_content.1 he).1) h

lemma mem_reached_of_contents (hclosed : s.IsClosed root) (h : Reaches s.contentEdges root m) :
    m ∈ s.reached root :=
  (mem_reached_iff hclosed).2 (reaches_mono (fun _ _ he => (mem_contentEdges.1 he).1) h)

section Links

variable (hsafe : table.isSafe = Variant.isSelfContained) (hclosed : s.IsClosed root)
  (h : s.blueprint table rules root = .ok b)
include h

lemma placeOf_lt_size (hm : m ∈ s.reached root) : s.placeOf root m < b.size := by
  obtain ⟨b₀, hlower, -, hcut⟩ := blueprint_isCut h
  refine Nat.lt_of_lt_of_le (placeOf_lt_length hm) ?_
  rw [← lower_size hlower, hcut.size_of_bare]
  exact Nat.le_add_right _ _

/-- A blueprint has the parts of the reached models, and parts of any value that hold nothing. -/
lemma part_cases (hj : j < b.size) :
    (∃ m ∈ s.reached root, j = s.placeOf root m) ∨
      ((b.part j).shape = .any ∧ b.contentEdges j = []) := by
  obtain ⟨b₀, hlower, -, hcut⟩ := blueprint_isCut h
  rcases hcut.part_cases hj with ⟨hlt, -⟩ | ⟨v, -, hge, hstand⟩
  · rw [lower_size hlower] at hlt
    exact .inl ⟨_, List.getElem_mem hlt, (placeOf_reached_getElem hlt).symm⟩
  · refine .inr ⟨?_, hcut.contentEdges_stand hge⟩
    rw [← Part.shape_bare, hstand]

/-- A part with a slot or a target is the part of a reached model. -/
lemma exists_model_of_content (he : e ∈ b.contentEdges j) :
    ∃ m ∈ s.reached root, j = s.placeOf root m := by
  have hj : j < b.size := Blueprint.lt_size_of_mem_edges (Blueprint.mem_contentEdges.1 he).1
  rcases part_cases h hj with hmodel | ⟨-, hnone⟩
  · exact hmodel
  · simp [hnone] at he

include hsafe hclosed

omit h in
/-- Where typing leads a link of a lowered part. -/
lemma endAfter_endsAt (hlower : s.lower rules root = .ok b₀)
    (hcuts : b₀.AreCuts (b₀.cutsOf table (walk b₀.edges b₀.size b₀.root)))
    (hcut : b₀.IsCut (b₀.cutsOf table (walk b₀.edges b₀.size b₀.root)) b.bare)
    (hsource : e.source ∈ s.reached root) (he : e ∈ s.edges e.source) :
    s.EndsAt root b e.source e.target (b₀.endAfter
      (b₀.cutsOf table (walk b₀.edges b₀.size b₀.root)) (s.placeOf root e.source) e.link
      (s.placeOf root e.target)) := by
  have htarget : e.target ∈ s.reached root :=
    (mem_reached_iff hclosed).2 (((mem_reached_iff hclosed).1 hsource).tail ⟨e, he, rfl⟩)
  have htargetLt : s.placeOf root e.target < b₀.size :=
    lower_size hlower ▸ placeOf_lt_length htarget
  have he₀ : e.rename (s.placeOf root) ∈ b₀.edges (s.placeOf root e.source) := by
    rw [lower_edges hlower hsource]
    exact List.mem_map.2 ⟨e, he, rfl⟩
  have hiff := mem_cutsOf_iff table hclosed hlower hsource he
  rw [hsafe] at hiff
  obtain ⟨hlt, hname, hpartSource⟩ := hcut.end_eq hcuts he₀ htargetLt
  rcases hcuts.endAfter_cases he₀ with ⟨k, hk, hend⟩ | ⟨hnot, hend⟩ <;>
    simp only [Edge.rename] at hend
  · -- the part of the cut follows all lowered parts, and copies the name of what it stands for
    refine .inl ⟨hiff.1 (List.mem_of_getElem? hk), ⟨?_, hlt, ?_, ?_, ?_⟩⟩
    · rw [hend, ← lower_size hlower]
      exact Nat.le_add_right _ _
    · rw [hend, ← Part.shape_bare, hcut.part_stand hk]
    · refine hname.trans ?_
      rw [← Part.name_bare (b.part _), hcut.part_kept htargetLt]
      rfl
    · exact hpartSource.trans (lower_part hlower htarget).source
  · exact .inr ⟨fun hback => hnot (hiff.2 hback), hend⟩

/-- Every slot or target of a model is one of its part. -/
lemma exists_part_edge (hm : m ∈ s.reached root) (he : e ∈ s.contentEdges m) :
    ∃ j, (⟨s.placeOf root m, e.link, j⟩ : Edge) ∈ b.contentEdges (s.placeOf root m) ∧
      s.EndsAt root b m e.target j := by
  obtain ⟨b₀, hlower, hcuts, hcut⟩ := blueprint_isCut h
  obtain ⟨hmem, hlink⟩ := mem_contentEdges.1 he
  obtain rfl := s.edges_source m e hmem
  refine ⟨_, ?_, endAfter_endsAt hsafe hclosed hlower hcuts hcut hm hmem⟩
  rw [hcut.contentEdges_eq (lower_size hlower ▸ placeOf_lt_length hm)]
  have he₀ : e.rename (s.placeOf root) ∈ b₀.edges (s.placeOf root e.source) := by
    rw [lower_edges hlower hm]
    exact List.mem_map.2 ⟨e, hmem, rfl⟩
  exact List.mem_map.2 ⟨_, Blueprint.mem_contentEdges.2 ⟨he₀, hlink⟩, rfl⟩

/-- Every slot or target of a part is one of its model. -/
lemma exists_model_edge (hm : m ∈ s.reached root) (he : e ∈ b.contentEdges (s.placeOf root m)) :
    ∃ t, (⟨m, e.link, t⟩ : Edge) ∈ s.contentEdges m ∧ s.EndsAt root b m t e.target := by
  obtain ⟨b₀, hlower, hcuts, hcut⟩ := blueprint_isCut h
  rw [hcut.contentEdges_eq (lower_size hlower ▸ placeOf_lt_length hm)] at he
  obtain ⟨e₀, he₀, rfl⟩ := List.mem_map.1 he
  obtain ⟨hmem₀, hlink⟩ := Blueprint.mem_contentEdges.1 he₀
  rw [lower_edges hlower hm] at hmem₀
  obtain ⟨old, hold, rfl⟩ := List.mem_map.1 hmem₀
  obtain rfl := s.edges_source m old hold
  exact ⟨old.target, mem_contentEdges.2 ⟨hold, hlink⟩,
    endAfter_endsAt hsafe hclosed hlower hcuts hcut hm hold⟩

/-! ## Reachable parts -/

/-- What the root of a blueprint reaches through slots is the part of a model that it reaches in
the schema, or stands for one. -/
lemma reaches_slots_cases (hreaches : Reaches b.slotEdges b.root j) :
    (∃ m, Reaches s.slotEdges root m ∧ j = s.placeOf root m) ∨ (b.part j).shape = .any := by
  induction hreaches with
  | refl => exact .inl ⟨root, .refl, (blueprint_root h).trans (placeOf_root hclosed).symm⟩
  | @tail i j _ hlead ih =>
    obtain ⟨e, he, rfl⟩ := hlead
    obtain ⟨hcontent, i, hi⟩ := mem_slotEdges_iff_content.1 he
    rcases ih with ⟨m, hm, rfl⟩ | hany
    · have hreached := mem_reached_of_contents hclosed (reaches_contents_of_slots hm)
      obtain ⟨t, ht, ⟨-, hstand⟩ | ⟨-, hplace⟩⟩ :=
        exists_model_edge hsafe hclosed h hreached hcontent
      · exact .inr hstand.shape
      · exact .inl ⟨t, hm.tail ⟨_, mem_slotEdges_iff_content.2 ⟨ht, i, hi⟩, rfl⟩, hplace⟩
    · simp [Blueprint.slotEdges, Modelsmith.slotEdges, hany, Shape.slots] at he

/-- What the root of a blueprint reaches through slots and targets is the part of a model that
it reaches in the schema, unless a link leads back. -/
lemma reaches_contents_cases (hreaches : Reaches b.contentEdges b.root j) :
    (∃ m, Reaches s.contentEdges root m ∧ j = s.placeOf root m) ∨
      (s.TurnsBack root ∧ ∃ t, s.IsStandFor root b t j) := by
  induction hreaches with
  | refl => exact .inl ⟨root, .refl, (blueprint_root h).trans (placeOf_root hclosed).symm⟩
  | @tail i j _ hlead ih =>
    obtain ⟨e, he, rfl⟩ := hlead
    rcases ih with ⟨m, hm, rfl⟩ | ⟨-, t, hstand⟩
    · have hreached := mem_reached_of_contents hclosed hm
      obtain ⟨t, ht, ⟨hback, hstand⟩ | ⟨-, hplace⟩⟩ :=
        exists_model_edge hsafe hclosed h hreached he
      · exact .inr ⟨⟨_, hm, ht, hback⟩, t, hstand⟩
      · exact .inl ⟨t, hm.tail ⟨_, ht, rfl⟩, hplace⟩
    · -- a part that stands for another has no edges
      obtain ⟨m, hm, rfl⟩ := exists_model_of_content h he
      exact absurd (placeOf_lt_length hm) (Nat.not_lt.2 hstand.further)

/-- The root of a blueprint reaches the parts of the models that it reaches in the schema, unless
it reaches a part that stands for another. -/
lemma reaches_part_or_stand (hm : Reaches s.contentEdges root m) :
    Reaches b.contentEdges b.root (s.placeOf root m) ∨
      ∃ t j, s.IsStandFor root b t j ∧ Reaches b.contentEdges b.root j := by
  induction hm with
  | refl =>
    rw [placeOf_root hclosed, blueprint_root h]
    exact .inl .refl
  | @tail m t hm hlead ih =>
    obtain ⟨e, he, rfl⟩ := hlead
    rcases ih with hpart | hstand
    · have hreached := mem_reached_of_contents hclosed hm
      obtain ⟨j, hj, ⟨-, hstand⟩ | ⟨-, rfl⟩⟩ := exists_part_edge hsafe hclosed h hreached he
      · exact .inr ⟨_, j, hstand, hpart.tail ⟨_, hj, rfl⟩⟩
      · exact .inl (hpart.tail ⟨_, hj, rfl⟩)
    · exact .inr hstand

/-- The root of a blueprint reaches a part that stands for another exactly if some link that it
reaches in the schema leads back. -/
theorem exists_stand_iff :
    (∃ t j, s.IsStandFor root b t j ∧ Reaches b.contentEdges b.root j) ↔ s.TurnsBack root := by
  constructor
  · rintro ⟨t, j, hstand, hreaches⟩
    rcases reaches_contents_cases hsafe hclosed h hreaches with ⟨m, hm, rfl⟩ | ⟨hback, -⟩
    · have hreached := mem_reached_of_contents hclosed hm
      exact absurd (placeOf_lt_length hreached) (Nat.not_lt.2 hstand.further)
    · exact hback
  · rintro ⟨e, hsource, he, hback⟩
    rcases reaches_part_or_stand hsafe hclosed h hsource with hpart | hstand
    · have hreached := mem_reached_of_contents hclosed hsource
      obtain ⟨j, hj, ⟨-, hstand⟩ | ⟨hnot, -⟩⟩ := exists_part_edge hsafe hclosed h hreached he
      · exact ⟨_, j, hstand, hpart.tail ⟨_, hj, rfl⟩⟩
      · exact absurd hback hnot
    · exact hstand

/-! ## References -/

omit hsafe hclosed in
/-- A reference of a blueprint is the part of a reference. -/
lemma exists_reference (hvariant : (b.part j).variant = .reference) :
    ∃ m ∈ s.reached root, j = s.placeOf root m ∧ ∃ t, (s.model m).shape = .reference t := by
  rcases part_cases h (Blueprint.lt_size_of_reference hvariant) with ⟨m, hm, rfl⟩ | ⟨hany, -⟩
  · rw [blueprint_variant h hm, Model.variant] at hvariant
    cases hshape : (s.model m).shape with
    | reference t => exact ⟨m, hm, rfl, t, hshape⟩
    | _ => simp [hshape, Shape.variant] at hvariant
  · rw [Part.variant, hany] at hvariant
    cases hvariant

/-- What a reference of a blueprint refers to. -/
lemma exists_target (hm : m ∈ s.reached root) (hshape : (s.model m).shape = .reference t) :
    ∃ j, b.target? (s.placeOf root m) = some j ∧ s.EndsAt root b m t j := by
  have he : (⟨m, .target, t⟩ : Edge) ∈ s.contentEdges m :=
    mem_contentEdges.2 ⟨mem_edges.2 ⟨rfl, by rw [hshape]; rfl⟩, by simp⟩
  obtain ⟨j, hj, hend⟩ := exists_part_edge hsafe hclosed h hm he
  exact ⟨j, (Blueprint.mem_edges.1 (Blueprint.mem_contentEdges.1 hj).1).2, hend⟩

/-- Different references refer to the same part exactly if they refer to the same model and
neither leads back. -/
lemma target?_eq_iff (hm : m ∈ s.reached root) (hm' : m' ∈ s.reached root)
    (hshape : (s.model m).shape = .reference t) (hshape' : (s.model m').shape = .reference t')
    (hne : m ≠ m') :
    b.target? (s.placeOf root m) = b.target? (s.placeOf root m') ↔
      t = t' ∧ ¬ s.LeadsBack root m t ∧ ¬ s.LeadsBack root m' t' := by
  obtain ⟨b₀, hlower, hcuts, hcut⟩ := blueprint_isCut h
  have htarget : ∀ {m t}, m ∈ s.reached root → (s.model m).shape = .reference t →
      t ∈ s.reached root ∧ s.placeOf root t < b₀.size := by
    intro m t hm hshape
    have ht := mem_reached_of_end hclosed .target hm (by rw [hshape]; rfl)
    exact ⟨ht, lower_size hlower ▸ placeOf_lt_length ht⟩
  obtain ⟨ht, htlt⟩ := htarget hm hshape
  obtain ⟨ht', htlt'⟩ := htarget hm' hshape'
  unfold Blueprint.target?
  rcases reference_cases hsafe hclosed hlower hcut hcuts hm hshape with
      ⟨hback, heq⟩ | ⟨hback, k, hk, heq⟩ <;>
    rcases reference_cases hsafe hclosed hlower hcut hcuts hm' hshape' with
      ⟨hback', heq'⟩ | ⟨hback', k', hk', heq'⟩
  · have hinj : s.placeOf root t = s.placeOf root t' ↔ t = t' :=
      ⟨placeOf_inj ht ht', congrArg _⟩
    simp [heq, heq', hback, hback', Shape.target?, hinj]
  · have hstand : s.placeOf root t ≠ b₀.size + k' := by lia
    simp [heq, heq', hback', Shape.target?, hstand]
  · have hstand : b₀.size + k ≠ s.placeOf root t' := by lia
    simp [heq, heq', hback, Shape.target?, hstand]
  · -- different references are cut at different places
    have hcutNe : k ≠ k' := by
      rintro rfl
      rw [hk, Option.some.injEq, Edge.visit_inj] at hk'
      exact hne (placeOf_inj hm hm' (congrArg Edge.source hk'))
    simp [heq, heq', hback, Shape.target?, hcutNe]

end Links

end Schema

end Modelsmith
