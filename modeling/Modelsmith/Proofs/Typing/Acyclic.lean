/-
# No type contains itself

The type of a part of an unsafe variant contains the types of what the part holds.  Cutting
makes this sound for every choice of safe variants: an edge to an unsafe part that is not cut
leads to a part that the walk has left before, so that the walk leaves the parts in an order
that goes down along these edges.  Hence no cycle of edges runs through unsafe parts only, and
every such cycle of the schema has an edge that is cut.
-/
import Mathlib.Order.WellFounded
import Modelsmith.Proofs.TypeConsistency

namespace Modelsmith

/-! ## Cycles of edges -/

/-- A cycle of edges: each edge leads to where the next one starts, the last one to where the
first one starts. -/
structure IsCycle (cycle : List Edge) : Prop where
  ne_nil : cycle ≠ []
  chain : cycle.IsChain fun e e' => e.target = e'.source
  closes : ∀ e ∈ cycle.getLast?, ∀ e' ∈ cycle.head?, e.target = e'.source

/-- A chain of edges is a chain of steps from its first start to its last end. -/
lemma transGen_of_isChain {R : ModelId → ModelId → Prop} {e last : Edge} {edges : List Edge}
    (hchain : (e :: edges).IsChain fun e e' => e.target = e'.source)
    (hlast : (e :: edges).getLast? = some last)
    (hstep : ∀ e' ∈ e :: edges, R e'.source e'.target) :
    Relation.TransGen R e.source last.target := by
  induction edges generalizing e with
  | nil =>
    obtain rfl : e = last := by simpa using hlast
    exact .single (hstep e (by simp))
  | cons next edges ih =>
    obtain ⟨hnext, hchain⟩ := List.isChain_cons_cons.1 hchain
    have hrest : Relation.TransGen R next.source last.target := by
      refine ih hchain (by simpa using hlast) fun e' he' => ?_
      exact hstep e' (List.mem_cons_of_mem _ he')
    exact .head (hnext ▸ hstep e (by simp)) hrest

namespace IsCycle

variable {cycle : List Edge} (h : IsCycle cycle)
include h

/-- Every edge of a cycle leads to where an edge of the cycle starts. -/
lemma exists_source_eq {e : Edge} (he : e ∈ cycle) : ∃ e' ∈ cycle, e'.source = e.target := by
  obtain ⟨i, hi, rfl⟩ := List.getElem_of_mem he
  rcases Nat.lt_or_ge (i + 1) cycle.length with hnext | hend
  · exact ⟨cycle[i + 1], List.getElem_mem hnext, (List.isChain_iff_getElem.1 h.chain i hnext).symm⟩
  · have hlast : cycle[i] ∈ cycle.getLast? := by
      have hi' : cycle.length - 1 = i := by omega
      rw [List.getLast?_eq_getElem?, hi', List.getElem?_eq_getElem hi]
      rfl
    obtain ⟨first, rest, rfl⟩ := List.exists_cons_of_ne_nil h.ne_nil
    exact ⟨first, by simp, (h.closes _ hlast first (by simp)).symm⟩

/-- A cycle of steps comes back to where it starts. -/
lemma transGen {R : ModelId → ModelId → Prop} (hstep : ∀ e ∈ cycle, R e.source e.target) :
    ∃ id, Relation.TransGen R id id := by
  obtain ⟨first, rest, rfl⟩ := List.exists_cons_of_ne_nil h.ne_nil
  have hlast : (first :: rest).getLast? = some ((first :: rest).getLast (by simp)) :=
    List.getLast?_eq_some_getLast _
  have hcloses := h.closes _ hlast first (by simp)
  exact ⟨first.source, hcloses ▸ transGen_of_isChain h.chain hlast hstep⟩

end IsCycle

namespace Blueprint

/-! ## The order of leaving parts -/

variable {table : TypeTable} {b b₀ : Blueprint} {root id : ModelId} {past all : List Event}
  {progress : Array Progress} {tasks : List Task} {cuts : List Visit}

/-- Whether a part of an unsafe variant is in a slot of another part or the target of it. -/
def IsUnsafeBelow (table : TypeTable) (b : Blueprint) (inner outer : ModelId) : Prop :=
  table.isSafe (b.part inner).variant = false ∧ ∃ e ∈ b.contentEdges outer, e.target = inner

/-- A part that stands for another holds nothing. -/
lemma IsCut.contentEdges_stand (h : b₀.IsCut cuts b.bare) (hid : b₀.size ≤ id) :
    b.contentEdges id = [] := by
  have hshape : (b.part id).shape = .any := by
    rcases Nat.lt_or_ge id b.size with hlt | hge
    · rcases h.part_cases hlt with ⟨hlt₀, -⟩ | ⟨v, -, -, hstand⟩
      · exact absurd hlt₀ (Nat.not_lt.2 hid)
      · rw [← Part.shape_bare, hstand]
    · simp [part, show ¬ id < b.parts.size from Nat.not_lt.2 hge]
  simp [contentEdges, slotEdges, Modelsmith.slotEdges, targetEdges, hshape, Shape.slots,
    Shape.target?]

/-- What a part holds after cuts is where its edges lead to after cuts. -/
lemma IsCut.contentEdges_eq (h : b₀.IsCut cuts b.bare) (hid : id < b₀.size) :
    b.contentEdges id = (b₀.contentEdges id).map fun e =>
      { e with target := b₀.endAfter cuts e.source e.link e.target } := by
  rw [contentEdges, contentEdges, slotEdges, slotEdges, h.shape_kept hid, List.map_append]
  congr 1
  · apply List.ext_getElem <;> simp [Modelsmith.slotEdges, Shape.slots_relink]
  · cases htarget : (b₀.part id).shape.target? <;>
      simp [targetEdges, Shape.target?_relink, htarget]

/-- From a part that the walk has left, every way down through unsafe parts comes to an end. -/
lemma acc_of_done (h : WalkState b₀.edges b₀.size root past progress tasks) (hpre : past <+: all)
    (hcut : b₀.IsCut (b₀.cutsOf table all) b.bare) (hid : progress[id]? = some .done) :
    Acc (b.IsUnsafeBelow table) id := by
  induction h generalizing id with
  | start => simp [Array.getElem?_replicate] at hid
  | @leave past progress v rest before ih =>
    have hpast : past <+: all := (List.prefix_append _ _).trans hpre
    by_cases hsame : v.node = id
    · subst hsame
      have hinside : progress[v.node]? = some .inside :=
        (before.tracked.inside_iff _).2 ⟨v, by simp, rfl⟩
      have hlt : v.node < b₀.size :=
        before.tracked.size_eq ▸ (Array.getElem?_eq_some_iff.1 hinside).1
      refine Acc.intro _ ?_
      rintro c ⟨hother, e, he, rfl⟩
      rw [hcut.contentEdges_eq hlt] at he
      obtain ⟨e₀, he₀, rfl⟩ := List.mem_map.1 he
      -- the edge leads to a part with a type, whatever is cut later on
      have htype : b₀.HasType table progress
          (b₀.endAfter (b₀.cutsOf table all) e₀.source e₀.link e₀.target) := by
        obtain ⟨more, rfl⟩ := hpast
        rw [cutsOf_append]
        exact (close_hasType table before e₀ (mem_contentEdges.1 he₀).1).endAfter_append _ _
      rcases htype with hge | hdone | ⟨hopen, hsafe⟩
      · exact Acc.intro _ fun d ⟨_, e', he', _⟩ => by simp [hcut.contentEdges_stand hge] at he'
      · exact ih hpast hdone
      · have htarget := before.tracked.size_eq ▸ (Array.getElem?_eq_some_iff.1 hopen).1
        rw [hcut.variant_eq htarget, hsafe] at hother
        cases hother
    · rw [Array.getElem?_setIfInBounds_ne hsame] at hid
      exact ih hpast hid
  | @enter past progress v rest before fresh ih =>
    have hne : v.node ≠ id := by
      rintro rfl
      have hlt := (Array.getElem?_eq_some_iff.1 fresh).1
      simp [hlt] at hid
    rw [Array.getElem?_setIfInBounds_ne hne] at hid
    exact ih ((List.prefix_append _ _).trans hpre) hid
  | again _ _ ih => exact ih ((List.prefix_append _ _).trans hpre) hid

end Blueprint

namespace Schema

variable {s : Schema} {table : TypeTable} {rules : NamingRules} {root : ModelId}
  {b b₀ : Blueprint}

/-- In a blueprint every way down through unsafe parts comes to an end. -/
theorem isUnsafeBelow_wellFounded (hclosed : s.IsClosed root)
    (h : s.blueprint table rules root = .ok b) : WellFounded (b.IsUnsafeBelow table) := by
  obtain ⟨b₀, hlower, -, hcut⟩ := blueprint_isCut h
  obtain ⟨progress, hwalk⟩ := walkState_walk b₀.edges b₀.size b₀.root
  refine ⟨fun id => ?_⟩
  rcases Nat.lt_or_ge id b₀.size with hlt | hge
  · have hdone := hwalk.done_of_entered (lower_entered hclosed hlower hlt)
    exact Blueprint.acc_of_done hwalk List.prefix_rfl hcut hdone
  · exact Acc.intro _ fun c ⟨_, e, he, _⟩ => by simp [hcut.contentEdges_stand hge] at he

/-- Whether an edge of a schema is cut in a blueprint: where its model led to another, the part
has a part of any value that stands for the other. -/
def IsCutIn (s : Schema) (root : ModelId) (b : Blueprint) (e : Edge) : Prop :=
  ∃ j, e.link.end? (b.part (s.placeOf root e.source)).shape
      (b.part (s.placeOf root e.source)).options.parents = some j ∧
    (s.reached root).length ≤ j ∧ j < b.size ∧ (b.part j).shape = .any ∧
    (b.part j).source = e.target

/-- An edge of the schema is cut, or it leads from the part of its model to the part of its
target. -/
lemma content_cases (hclosed : s.IsClosed root) (h : s.blueprint table rules root = .ok b)
    {e : Edge} (hsource : e.source ∈ s.reached root) (he : e ∈ s.contentEdges e.source) :
    s.IsCutIn root b e ∨
      ∃ e' ∈ b.contentEdges (s.placeOf root e.source), e'.target = s.placeOf root e.target := by
  obtain ⟨b₀, hlower, hcuts, hcut⟩ := blueprint_isCut h
  obtain ⟨hmem, hlink⟩ := mem_contentEdges.1 he
  have hlt : s.placeOf root e.source < b₀.size := lower_size hlower ▸ placeOf_lt_length hsource
  have he₀ : e.rename (s.placeOf root) ∈ b₀.edges (s.placeOf root e.source) := by
    rw [lower_edges hlower hsource]
    exact List.mem_map.2 ⟨e, hmem, rfl⟩
  generalize b₀.cutsOf table (walk b₀.edges b₀.size b₀.root) = cuts at hcuts hcut
  have hend : (⟨s.placeOf root e.source, e.link, b₀.endAfter cuts (s.placeOf root e.source)
      e.link (s.placeOf root e.target)⟩ : Edge) ∈ b.contentEdges (s.placeOf root e.source) := by
    rw [hcut.contentEdges_eq hlt]
    exact List.mem_map.2 ⟨_, Blueprint.mem_contentEdges.2 ⟨he₀, hlink⟩, rfl⟩
  rcases hcuts.endAfter_cases he₀ with ⟨k, hk, hstand⟩ | ⟨-, hkept⟩
  · have hk' := (List.getElem?_eq_some_iff.1 hk).1
    have hpart := hcut.part_stand hk
    have htarget : e.target ∈ s.reached root :=
      (mem_reached_iff hclosed).2 (((mem_reached_iff hclosed).1 hsource).tail ⟨e, hmem, rfl⟩)
    refine .inl ⟨b₀.size + k, ?_, ?_, ?_, ?_, ?_⟩
    · rw [← hstand]
      exact (Blueprint.mem_edges.1 (Blueprint.mem_contentEdges.1 hend).1).2
    · rw [← lower_size hlower]
      exact Nat.le_add_right _ _
    · rw [hcut.size_of_bare]
      exact Nat.add_lt_add_left hk' _
    · rw [← Part.shape_bare, hpart]
    · rw [← Part.source_bare, hpart]
      exact (lower_part hlower htarget).source
  · exact .inr ⟨_, hend, hkept⟩

/-- Whatever variants are safe for a table: in a blueprint no cycle of slots and targets runs
through parts of unsafe variants only, and every such cycle below the root of the schema has an
edge that is cut. -/
theorem blueprint_unsafe_acyclic (hclosed : s.IsClosed root)
    (h : s.blueprint table rules root = .ok b) :
    (¬ ∃ cycle, IsCycle cycle ∧ ∀ e ∈ cycle, e ∈ b.contentEdges e.source ∧
        table.isSafe (b.part e.source).variant = false) ∧
      ∀ cycle, IsCycle cycle →
        (∀ e ∈ cycle, Reaches s.edges root e.source ∧ e ∈ s.contentEdges e.source ∧
          table.isSafe (s.model e.source).variant = false) →
        ∃ e ∈ cycle, s.IsCutIn root b e := by
  have hwf : WellFounded (Relation.TransGen (b.IsUnsafeBelow table)) :=
    (isUnsafeBelow_wellFounded hclosed h).transGen
  have hirrefl : ∀ id, ¬ Relation.TransGen (Function.swap (b.IsUnsafeBelow table)) id id :=
    fun id hid => hwf.irrefl.irrefl id (Relation.transGen_swap.1 hid)
  refine ⟨?_, fun cycle hcycle hother => ?_⟩
  · rintro ⟨cycle, hcycle, hother⟩
    obtain ⟨id, hid⟩ := hcycle.transGen (R := Function.swap (b.IsUnsafeBelow table)) (by
      intro e he
      obtain ⟨e', he', hnext⟩ := hcycle.exists_source_eq he
      exact ⟨hnext ▸ (hother e' he').2, e, (hother e he).1, rfl⟩)
    exact hirrefl id hid
  · by_contra hnone
    -- if no edge is cut, the parts of the models lie on a cycle
    obtain ⟨id, hid⟩ := hcycle.transGen
      (R := fun a c => b.IsUnsafeBelow table (s.placeOf root c) (s.placeOf root a)) (by
      intro e he
      obtain ⟨e', he', hnext⟩ := hcycle.exists_source_eq he
      obtain ⟨hreach', -, hother'⟩ := hother e' he'
      obtain ⟨hreach, hcontent, -⟩ := hother e he
      have htarget : e'.source ∈ s.reached root := (mem_reached_iff hclosed).2 hreach'
      refine ⟨?_, ?_⟩
      · rw [← hnext, blueprint_variant h htarget]
        exact hother'
      · exact (content_cases hclosed h ((mem_reached_iff hclosed).2 hreach) hcontent).resolve_left
          fun hcut => hnone ⟨e, he, hcut⟩)
    exact hirrefl _ (hid.lift (s.placeOf root) fun _ _ hstep => hstep)

/-- The types of sketches, with no variant taken as safe. -/
def noneSafe : TypeTable := { Sketch.types with isSafe := fun _ => false }

/-- If no variant is safe, references are unsafe, too: the cycle of a pair through its first
reference is cut at the target of the reference. -/
theorem blueprint_unsafe_acyclic_pairSample :
    ∃ b, pairSample.blueprint noneSafe (Sketch.rules {}) 0 = .ok b ∧
      b.parts.toList.map (fun p => (p.source, p.variant, p.shape.slots, p.shape.target?)) =
        [(0, .union, [1, 2], none), (1, .reference, [], some 3), (2, .reference, [], some 4),
          (0, .any, [], none), (0, .any, [], none)] ∧
      (¬ ∃ cycle, IsCycle cycle ∧ ∀ e ∈ cycle, e ∈ b.contentEdges e.source ∧
        noneSafe.isSafe (b.part e.source).variant = false) ∧
      ∃ e ∈ [(⟨0, .slot 0, 1⟩ : Edge), ⟨1, .target, 0⟩], pairSample.IsCutIn 0 b e := by
  have hrun : (pairSample.blueprintWithin noneSafe (Sketch.rules {}) 0 9).any
      (fun b => b.parts.toList.map
        (fun p => (p.source, p.variant, p.shape.slots, p.shape.target?)) =
          [(0, .union, [1, 2], none), (1, .reference, [], some 3), (2, .reference, [], some 4),
            (0, .any, [], none), (0, .any, [], none)]) = true := by
    decide +kernel
  obtain ⟨b, hb, hparts⟩ := blueprint_of_within hrun
  obtain ⟨hacyclic, hcut⟩ := blueprint_unsafe_acyclic pairSample_isClosed hb
  have hcycle : IsCycle [⟨0, .slot 0, 1⟩, ⟨1, .target, 0⟩] := ⟨by simp, by simp, by simp⟩
  have hreaches : Reaches pairSample.edges 0 1 := .single ⟨⟨0, .slot 0, 1⟩, by decide, rfl⟩
  refine ⟨b, hb, of_decide_eq_true hparts, hacyclic, hcut _ hcycle ?_⟩
  intro e he
  rcases List.mem_cons.1 he with rfl | he
  · exact ⟨.refl, by decide, rfl⟩
  · obtain rfl : e = ⟨1, .target, 0⟩ := by simpa using he
    exact ⟨hreaches, by decide, rfl⟩

end Schema

end Modelsmith
