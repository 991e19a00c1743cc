/-
# What further cuts keep

While typing goes on, more cycles are cut.  A further cut keeps what the type of a part was
written from: its name, format and variant, the name that it resolves to, and, unless the cut
starts at the part itself, its shape.
-/
import Modelsmith.Proofs.Typing.Local
import Modelsmith.Proofs.Typing.Resolve

namespace Modelsmith

namespace Blueprint

variable {table : TypeTable} {b c c' : Blueprint} {cuts more : List Visit} {id : ModelId}

/-- Cuts of other parts leave the links of a part as they are. -/
lemma endAfter_append_of_ne (h : ∀ v ∈ more, ∀ e, v.via = some e → e.source ≠ id) :
    b.endAfter (cuts ++ more) id = b.endAfter cuts id := by
  have hnone : ∀ link, cutAt more id link = none := by
    intro link
    rw [cutAt, List.findIdx?_eq_none_iff]
    intro v hv
    cases hvia : v.via with
    | none => rfl
    | some e => simp [h v hv e hvia]
  funext link old
  unfold endAfter
  have hcut : cutAt (cuts ++ more) id link = cutAt cuts id link := by
    have hmore := hnone link
    unfold cutAt at hmore ⊢
    rw [List.findIdx?_append, hmore]
    simp
  rw [hcut]

/-- Further cuts keep the name, the format and the variant of a part, and its shape if none of
them starts there. -/
lemma IsCut.append_part (h : b.IsCut cuts c.bare) (h' : b.IsCut (cuts ++ more) c'.bare)
    (hid : id < c.size) :
    (c'.part id).name = (c.part id).name ∧
      (c'.part id).options.format = (c.part id).options.format ∧
      (c'.part id).variant = (c.part id).variant ∧
      ((∀ v ∈ more, ∀ e, v.via = some e → e.source ≠ id) →
        (c'.part id).shape = (c.part id).shape) := by
  rcases Nat.lt_or_ge id b.size with hlt | hge
  · have hkept := h.part_kept hlt
    have hkept' := h'.part_kept hlt
    refine ⟨?_, ?_, ?_, fun hother => ?_⟩
    · rw [← Part.name_bare (c'.part id), ← Part.name_bare (c.part id), hkept', hkept]
    · rw [← Part.format_bare (c'.part id), ← Part.format_bare (c.part id), hkept', hkept]
    · rw [h'.variant_eq hlt, h.variant_eq hlt]
    · rw [h'.shape_kept hlt, h.shape_kept hlt, endAfter_append_of_ne hother]
  · have hk : id - b.size < cuts.length := by
      have hsize := h.size_of_bare
      lia
    have hsame : (c'.part id).bare = (c.part id).bare := by
      have hget : cuts[id - b.size]? = some cuts[id - b.size] := List.getElem?_eq_getElem hk
      have hstand := h.part_stand hget
      have hstand' := h'.part_stand (List.getElem?_append_left hk ▸ hget)
      rw [Nat.add_sub_of_le hge] at hstand hstand'
      rw [hstand, hstand']
    have hshape : (c'.part id).shape = (c.part id).shape := by
      rw [← Part.shape_bare, hsame, Part.shape_bare]
    refine ⟨?_, ?_, congrArg Shape.variant hshape, fun _ => hshape⟩
    · rw [← Part.name_bare, hsame, Part.name_bare]
    · rw [← Part.format_bare, hsame, Part.format_bare]

/-- A slot after cuts holds the part at the end of an edge. -/
lemma IsCut.exists_edge_of_slot (h : b.IsCut cuts c.bare) (hcuts : b.AreCuts cuts)
    (hclosed : b.IsClosed) (hid : id < b.size) {j : ModelId}
    (hj : j ∈ (c.part id).shape.slots) :
    ∃ e ∈ b.edges id, j = b.endAfter cuts e.source e.link e.target ∧ j < c.size := by
  rw [h.shape_kept hid, Shape.slots_relink] at hj
  obtain ⟨i, hi, rfl⟩ := List.mem_mapIdx.1 hj
  have he : (⟨id, .slot i, (b.part id).shape.slots[i]⟩ : Edge) ∈ b.edges id :=
    mem_edges.2 ⟨rfl, List.getElem?_eq_getElem hi⟩
  exact ⟨_, he, rfl, (h.end_eq hcuts he (hclosed id hid _ he)).1⟩

/-- What typing starts from: a table that looks at no more than it may, and a bare blueprint
without cycles of references. -/
structure IsReady (table : TypeTable) (b : Blueprint) : Prop where
  isLocal : table.IsLocal
  isBare : b.bare = b
  isClosed : b.IsClosed
  trail : ∀ id < b.size, ∃ path last, Trail b.target? id path last

/-- References are never at the end of a cut. -/
lemma IsReady.cut_ne_reference (hb : b.IsReady table) {past : List Event} {v : Visit}
    (hv : v ∈ b.cutsOf table past) : (b.part v.node).variant ≠ .reference := by
  intro hvariant
  have hother := (mem_cutsOf.1 hv).2
  rw [hb.isLocal.isSafe, hvariant] at hother
  simp [Variant.isSelfContained] at hother

/-- Only parts of before have a variant that is not safe. -/
lemma IsCut.lt_of_not_isSelfContained (h : b.IsCut cuts c.bare) (hid : id < c.size)
    (hother : (c.part id).variant.isSelfContained = false) : id < b.size := by
  rcases h.part_cases hid with ⟨hlt, -⟩ | ⟨v, -, -, hstand⟩
  · exact hlt
  · have hshape : (c.part id).shape = .any := by rw [← Part.shape_bare, hstand]
    simp [Part.variant, hshape, Shape.variant, Variant.isSelfContained] at hother

/-- Further cuts keep what the type of a part may depend on, if none of them starts at a part
of an unsafe variant and the types in its slots stay. -/
lemma IsCut.agrees (hb : b.IsReady table) (h : b.IsCut cuts c.bare)
    (h' : b.IsCut (cuts ++ more) c'.bare) (hcuts : b.AreCuts (cuts ++ more))
    (hend : ∀ v ∈ cuts ++ more, (b.part v.node).variant ≠ .reference) (hid : id < c.size)
    (hsource : (c.part id).variant.isSelfContained = false →
      ∀ v ∈ more, ∀ e, v.via = some e → e.source ≠ id)
    (htypes : (c.part id).variant.isSelfContained = false →
      ∀ j ∈ (c.part id).shape.slots, (c'.part j).type = (c.part j).type)
    (p p' : Option (Property String)) :
    TypeContext.Agrees { blueprint := c, id, property := p }
      { blueprint := c', id, property := p' } := by
  obtain ⟨hname, hformat, hvariant, hshape⟩ := h.append_part h' hid
  refine ⟨hname, hformat, hvariant, fun href => ?_, fun hother => hshape (hsource hother), htypes⟩
  have hlt : id < b.size := by
    rcases h.part_cases hid with ⟨hlt, -⟩ | ⟨v, -, -, hstand⟩
    · exact hlt
    · have hany : (c.part id).shape = .any := by rw [← Part.shape_bare, hstand]
      simp [TypeContext.part, Part.variant, hany, Shape.variant] at href
  obtain ⟨path, last, htrail⟩ := hb.trail id hlt
  rw [h'.resolvedName_eq hcuts hb.isClosed hend htrail hlt,
    h.resolvedName_eq hcuts.of_append hb.isClosed (fun v hv => hend v (by simp [hv])) htrail hlt]

end Blueprint

end Modelsmith
