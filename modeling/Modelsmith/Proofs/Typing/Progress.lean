/-
# Which parts have their types

How far the walk is with a part says whether it has its type: a part of a safe variant has it
as soon as it has been entered, any other part when it has been left, and a part that stands
for another has it from the start.  Where an edge that has been followed leads to after the
cuts so far, there is a part with a type, or the walk is still inside of the part to which it
followed the edge.  So whenever the walk leaves a part, all its edges lead to parts with types.
-/
import Modelsmith.Proofs.Typing.Cut
import Modelsmith.Proofs.Walk.Path

namespace Modelsmith

namespace Blueprint

variable {table : TypeTable} {b : Blueprint} {root : ModelId} {past : List Event}
  {progress : Array Progress} {tasks rest : List Task} {v : Visit} {id : ModelId}

/-- Whether a part has its type when the walk is as far as `progress` says. -/
def HasType (table : TypeTable) (b : Blueprint) (progress : Array Progress) (id : ModelId) :
    Prop :=
  b.size ≤ id ∨ progress[id]? = some .done ∨
    (progress[id]? = some .inside ∧ table.isSafe (b.part id).variant = true)

lemma hasType_of_le (h : b.size ≤ id) : b.HasType table progress id := .inl h

lemma hasType_done (h : id < progress.size) :
    b.HasType table (progress.setIfInBounds id .done) id :=
  .inr (.inl (by simp [h]))

/-- A part that has not been entered has no type yet. -/
lemma HasType.not_fresh (h : b.HasType table progress id) (hid : id < b.size) :
    progress[id]? ≠ some .fresh := by
  rcases h with hge | hdone | ⟨hinside, -⟩
  · exact absurd hid (Nat.not_lt.2 hge)
  · simp [hdone]
  · simp [hinside]

/-- A part that the walk is inside of has its type only if it is of a safe variant. -/
lemma HasType.isSafe_of_inside (h : b.HasType table progress id) (hid : id < b.size)
    (hinside : progress[id]? = some .inside) : table.isSafe (b.part id).variant = true := by
  rcases h with hge | hdone | ⟨-, hsafe⟩
  · exact absurd hid (Nat.not_lt.2 hge)
  · simp [hinside] at hdone
  · exact hsafe

lemma HasType.enter (h : b.HasType table progress id)
    (fresh : progress[v.node]? = some .fresh) :
    b.HasType table (progress.setIfInBounds v.node .inside) id := by
  rcases Nat.lt_or_ge id b.size with hlt | hge
  · have hne : v.node ≠ id := by
      rintro rfl
      exact h.not_fresh hlt fresh
    simpa [HasType, Array.getElem?_setIfInBounds_ne hne] using h
  · exact hasType_of_le hge

lemma HasType.leave (h : b.HasType table progress id) :
    b.HasType table (progress.setIfInBounds v.node .done) id := by
  by_cases hsame : v.node = id
  · subst hsame
    rcases h with hge | hdone | ⟨hinside, -⟩
    · exact .inl hge
    · exact hasType_done (Array.getElem?_eq_some_iff.1 hdone).1
    · exact hasType_done (Array.getElem?_eq_some_iff.1 hinside).1
  · simpa [HasType, Array.getElem?_setIfInBounds_ne hsame] using h

/-- Further cuts lead links only to parts with types. -/
lemma HasType.endAfter_append (cuts more : List Visit) {source old : ModelId} {link : Link}
    (h : b.HasType table progress (b.endAfter cuts source link old)) :
    b.HasType table progress (b.endAfter (cuts ++ more) source link old) := by
  unfold endAfter cutAt at h ⊢
  rw [List.findIdx?_append]
  cases hcut : cuts.findIdx? fun v => v.via.any fun e => e.source = source ∧ e.link = link with
  | some k => exact hasType_of_le (Nat.le_add_right _ _)
  | none =>
    rw [hcut] at h
    cases more.findIdx? fun v => v.via.any fun e => e.source = source ∧ e.link = link with
    | some k => exact hasType_of_le (Nat.le_add_right _ _)
    | none => exact h

/-- An edge to a part with a type leads to one after any cuts. -/
lemma HasType.endAfter (h : b.HasType table progress id) (cuts : List Visit) (source : ModelId)
    (link : Link) : b.HasType table progress (b.endAfter cuts source link id) :=
  HasType.endAfter_append [] cuts h

/-- A link that has just been cut leads to a part that stands for another. -/
lemma size_le_endAfter_append {cuts : List Visit} (e : Edge) (old : ModelId) :
    b.size ≤ b.endAfter (cuts ++ [e.visit]) e.source e.link old := by
  unfold Blueprint.endAfter
  rw [cutAt_append]
  cases cutAt cuts e.source e.link <;> simp

/-- An edge along which the walk comes to a part again leads to a part with a type: the part
has its type, or the edge is cut. -/
lemma again_hasType (table : TypeTable) (hsize : progress.size = b.size) (e : Edge)
    (seen : progress[e.target]? ≠ some .fresh) (cuts : List Visit) :
    b.HasType table progress (b.endAfter
      (cuts ++ b.cutsOf table [.again e.visit (progress[e.target]? == some .inside)])
      e.source e.link e.target) := by
  cases hp : progress[e.target]? with
  | none =>
    have hge : b.size ≤ e.target := hsize ▸ Array.getElem?_eq_none_iff.1 hp
    exact (hasType_of_le hge).endAfter _ _ _
  | some p =>
    cases p with
    | fresh => exact absurd hp seen
    | done => exact HasType.endAfter (.inr (.inl hp)) _ _ _
    | inside =>
      cases hsafe : table.isSafe (b.part e.target).variant with
      | true => exact HasType.endAfter (.inr (.inr ⟨hp, hsafe⟩)) _ _ _
      | false =>
        rw [beq_self_eq_true, cutsOf_other hsafe]
        exact hasType_of_le (size_le_endAfter_append e _)

/-- An edge that has been followed leads to a part with a type, or the walk is still inside of
the part to which it followed the edge. -/
lemma followed_hasType (table : TypeTable)
    (h : WalkState b.edges b.size root past progress tasks) :
    ∀ e ∈ arrivals past,
      b.HasType table progress (b.endAfter (b.cutsOf table past) e.source e.link e.target) ∨
        e.visit ∈ openVisits tasks := by
  induction h with
  | start => simp
  | @leave past progress v rest before ih =>
    intro e he
    rw [cutsOf_append, cutsOf_leave, List.append_nil]
    rcases ih e (by simpa using he) with htype | hopen
    · exact .inl htype.leave
    · rcases List.mem_cons.1 hopen with hv | hopen
      · have hinside : progress[v.node]? = some .inside :=
          (before.tracked.inside_iff _).2 ⟨v, by simp, rfl⟩
        have hdone : b.HasType table (progress.setIfInBounds v.node .done) v.node :=
          hasType_done (Array.getElem?_eq_some_iff.1 hinside).1
        refine .inl (HasType.endAfter ?_ _ _ _)
        rwa [← Edge.visit_node, hv]
      · exact .inr hopen
  | @enter past progress v rest before fresh ih =>
    intro e he
    rw [cutsOf_append, cutsOf_enter, List.append_nil]
    rw [arrivals_append, arrivals_enter, List.mem_append] at he
    rcases he with he | he
    · rcases ih e he with htype | hopen
      · exact .inl (htype.enter fresh)
      · exact .inr (by simpa using .inr hopen)
    · rcases before.due with ⟨-, rfl⟩ | ⟨u, opens, e', -, -, -, rfl⟩
      · simp at he
      · obtain rfl : e = e' := by simpa using he
        exact .inr (by simp)
  | @again past progress v rest before seen ih =>
    intro e he
    rw [cutsOf_append]
    rw [arrivals_append, arrivals_again, List.mem_append] at he
    rcases he with he | he
    · exact (ih e he).imp (HasType.endAfter_append _ _) (by simp)
    · rcases before.due with ⟨-, rfl⟩ | ⟨u, opens, e', -, -, he', rfl⟩
      · simp at he
      · obtain rfl : e = e' := by simpa using he
        exact .inl (again_hasType table before.tracked.size_eq e seen _)

/-- When the walk leaves a part, all edges of the part lead to parts with types. -/
lemma close_hasType (table : TypeTable)
    (h : WalkState b.edges b.size root past progress (.close v :: rest)) :
    ∀ e ∈ b.edges v.node,
      b.HasType table progress (b.endAfter (b.cutsOf table past) e.source e.link e.target) := by
  intro e he
  rcases followed_hasType table h e (h.followed_of_close b.edges_source he) with htype | hopen
  · exact htype
  · exact absurd (b.edges_source _ e he) (h.source_ne_of_open b.edges_source hopen)

/-- All edges of a part that has been left lead to parts with types. -/
lemma done_hasType (table : TypeTable)
    (h : WalkState b.edges b.size root past progress tasks)
    (hid : progress[id]? = some .done) :
    ∀ e ∈ b.edges id,
      b.HasType table progress (b.endAfter (b.cutsOf table past) e.source e.link e.target) := by
  induction h with
  | start => simp [Array.getElem?_replicate] at hid
  | @leave past progress v rest before ih =>
    intro e he
    rw [cutsOf_append, cutsOf_leave, List.append_nil]
    by_cases hsame : v.node = id
    · subst hsame
      exact (close_hasType table before e he).leave
    · rw [Array.getElem?_setIfInBounds_ne hsame] at hid
      exact (ih hid e he).leave
  | @enter past progress v rest before fresh ih =>
    intro e he
    rw [cutsOf_append, cutsOf_enter, List.append_nil]
    have hne : v.node ≠ id := by
      rintro rfl
      have hlt := (Array.getElem?_eq_some_iff.1 fresh).1
      simp [hlt] at hid
    rw [Array.getElem?_setIfInBounds_ne hne] at hid
    exact (ih hid e he).enter fresh
  | again before seen ih =>
    intro e he
    rw [cutsOf_append]
    exact HasType.endAfter_append _ _ (ih hid e he)

end Blueprint

end Modelsmith
