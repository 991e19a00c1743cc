/-
# References in cut blueprints

A cut ends a trail of references at a part of any value that has the name of the old end.  So
the name that a reference resolves to is known before any cycle is cut.
-/
import Modelsmith.Proofs.Trail
import Modelsmith.Proofs.Typing.Cut

namespace Modelsmith

namespace Blueprint

variable {b c : Blueprint} {cuts : List Visit} {id last : ModelId} {path : List ModelId}

/-- The part that a part refers to directly. -/
def target? (b : Blueprint) (id : ModelId) : Option ModelId := (b.part id).shape.target?

lemma IsCut.target?_kept (h : b.IsCut cuts c.bare) (hid : id < b.size) :
    c.target? id = (b.target? id).map (b.endAfter cuts id .target) := by
  rw [target?, target?, h.shape_kept hid, Shape.target?_relink]

lemma IsCut.target?_stand (h : b.IsCut cuts c.bare) {k : Nat} {v : Visit}
    (hk : cuts[k]? = some v) : c.target? (b.size + k) = none := by
  rw [target?, ← Part.shape_bare, h.part_stand hk]
  rfl

lemma edge_of_target? {id' : ModelId} (h : b.target? id = some id') :
    (⟨id, .target, id'⟩ : Edge) ∈ b.edges id := by
  exact mem_edges.2 ⟨rfl, h⟩

lemma variant_eq_reference_iff :
    (b.part id).variant = .reference ↔ ∃ t, b.target? id = some t := by
  rw [Part.variant, target?]
  cases (b.part id).shape <;> simp [Shape.variant, Shape.target?]

lemma lt_size_of_reference (h : (b.part id).variant = .reference) : id < b.size := by
  obtain ⟨t, ht⟩ := variant_eq_reference_iff.1 h
  exact lt_size_of_mem_edges (edge_of_target? ht)

/-- References of a cut blueprint refer to its parts. -/
lemma IsCut.target?_lt (h : b.IsCut cuts c.bare) (hcuts : b.AreCuts cuts) (hclosed : b.IsClosed) :
    ∀ i j, c.target? i = some j → i < c.size → j < c.size := by
  intro i j htarget hi
  rcases h.part_cases hi with ⟨hi, -⟩ | ⟨v, -, -, hstand⟩
  · rw [h.target?_kept hi] at htarget
    obtain ⟨old, hold, rfl⟩ := Option.map_eq_some_iff.1 htarget
    have he := edge_of_target? hold
    exact (h.end_eq hcuts he (hclosed i hi _ he)).1
  · rw [target?, ← Part.shape_bare, hstand] at htarget
    simp [Shape.target?] at htarget

/-- A cut blueprint has a trail for every trail before, and its end has the same name. -/
lemma IsCut.exists_trail (h : b.IsCut cuts c.bare) (hcuts : b.AreCuts cuts)
    (hclosed : b.IsClosed) (hother : ∀ v ∈ cuts, (b.part v.node).variant ≠ .reference)
    (htrail : Trail b.target? id path last) (hid : id < b.size) :
    ∃ path' last', Trail c.target? id path' last' ∧ (c.part last').name = (b.part last).name := by
  induction htrail with
  | @last id stop =>
    refine ⟨_, _, .last ?_, ?_⟩
    · rw [h.target?_kept hid, stop, Option.map_none]
    · rw [← Part.name_bare, h.part_kept hid]
  | @step id id' last path go rest ih =>
    have he := edge_of_target? go
    have hid' : id' < b.size := hclosed id hid _ he
    have htarget : c.target? id = some (b.endAfter cuts id .target id') := by
      rw [h.target?_kept hid, go, Option.map_some]
    rcases hcuts.endAfter_cases he with ⟨k, hk, hend⟩ | ⟨-, hend⟩
    · -- the old end is no reference, so that the old trail ended there, too
      have hstop : b.target? id' = none := by
        have hvariant : (b.part id').variant ≠ .reference := hother _ (List.mem_of_getElem? hk)
        unfold target?
        cases hshape : (b.part id').shape with
        | reference target => simp [Part.variant, hshape, Shape.variant] at hvariant
        | _ => rfl
      obtain ⟨-, rfl⟩ := rest.unique (.last hstop)
      rw [hend] at htarget
      refine ⟨_, _, .step htarget (.last (h.target?_stand hk)), ?_⟩
      rw [← Part.name_bare, h.part_stand hk]
      rfl
    · rw [hend] at htarget
      obtain ⟨path', last', htrail, hname⟩ := ih hid'
      exact ⟨_, _, .step htarget htrail, hname⟩

/-- The name that a part of a cut blueprint resolves to is the one at the end of its trail
before. -/
theorem IsCut.resolvedName_eq (h : b.IsCut cuts c.bare) (hcuts : b.AreCuts cuts)
    (hclosed : b.IsClosed) (hother : ∀ v ∈ cuts, (b.part v.node).variant ≠ .reference)
    (htrail : Trail b.target? id path last) (hid : id < b.size)
    (property : Option (Property String)) :
    TypeContext.resolvedName { blueprint := c, id, property } = (b.part last).name := by
  obtain ⟨path', last', htrail', hname⟩ := h.exists_trail hcuts hclosed hother htrail hid
  have hid' : id < c.size := Nat.lt_of_lt_of_le hid (h.size_of_bare ▸ Nat.le_add_right _ _)
  have hresolve : c.resolve id = last' := htrail'.follow_size (h.target?_lt hcuts hclosed) hid'
  rw [TypeContext.resolvedName, hresolve, hname]

end Blueprint

end Modelsmith
