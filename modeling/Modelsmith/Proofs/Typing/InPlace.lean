/-
# Typing in place

Typing adds parts to the blueprint that it walks through, and leads edges to them.  Here it is
written down as one loop: it reads the edges of a part when it enters the part, off the
blueprint as it is by then, and marks the parts that it adds as done.  The loop stops when it
has taken as many steps as a bound says.  If the bound is no less than the number of events of
the walk through the blueprint as it was, the loop comes to its end and does what typing does:
an edge is led to an added part only after the loop has read it, so that the loop enters no
added part.
-/
import Modelsmith.Proofs.Typing.Kept

namespace Modelsmith.Blueprint

/-! ## The loop -/

/-- Go on after a step, unless it fails. -/
def goOn (result : Except Failure Blueprint)
    (next : Blueprint → Option (Except Failure Blueprint)) : Option (Except Failure Blueprint) :=
  match result with
  | .ok b => next b
  | .error failure => some (.error failure)

/-- The progress after a step from `b` to `b'`, which is done with the parts that it adds. -/
def markAdded (b b' : Blueprint) (progress : ModelId → Progress) : ModelId → Progress :=
  fun n => if b.size ≤ n ∧ n < b'.size then .done else progress n

/-- Typing in place from a given progress and with given tasks left, if it takes at most as many
steps as the bound says. -/
def typeWithin (table : TypeTable) (rules : NamingRules) :
    Nat → (ModelId → Progress) → List Task → Blueprint → Option (Except Failure Blueprint)
  | _, _, [], b => some (.ok b)
  | 0, _, _, _ => none
  | bound + 1, progress, .close v :: rest, b =>
    goOn (typeEvent table rules b (.leave v)) fun b' =>
      typeWithin table rules bound (Function.update progress v.node .done) rest b'
  | bound + 1, progress, .visit v :: rest, b =>
    if progress v.node = .fresh then
      goOn (typeEvent table rules b (.enter v)) fun b' =>
        typeWithin table rules bound (Function.update progress v.node .inside)
          (visits (b'.edges v.node) ++ .close v :: rest) b'
    else
      goOn (typeEvent table rules b (.again v (progress v.node == .inside))) fun b' =>
        typeWithin table rules bound (b.markAdded b' progress) rest b'

/-- Typing in place, if it takes at most as many steps as the bound says. -/
def assignTypesWithin (table : TypeTable) (rules : NamingRules) (bound : Nat) (b : Blueprint) :
    Option (Except Failure Blueprint) :=
  b.typeWithin table rules bound (fun _ => .fresh) [.visit ⟨b.root, none⟩]

variable {table : TypeTable} {rules : NamingRules} {b c c' : Blueprint} {root n : ModelId}
  {past : List Event} {progress : Array Progress} {tasks rest : List Task} {v : Visit}

lemma goOn_eq_some {result : Except Failure Blueprint}
    {next : Blueprint → Option (Except Failure Blueprint)}
    {later : Blueprint → Except Failure Blueprint}
    (h : ∀ b, result = .ok b → next b = some (later b)) :
    goOn result next = some (result >>= later) := by
  cases result with
  | ok b => exact h b rfl
  | error failure => rfl

/-! ## The same walk -/

/-- An account of the progress that agrees with that of the walk on the parts of before. -/
def Follows (size : Nat) (progress : Array Progress) (marks : ModelId → Progress) : Prop :=
  ∀ n < size, progress[n]? = some (marks n)

namespace Follows

variable {size : Nat} {marks : ModelId → Progress}

lemma update (h : Follows size progress marks) (n : ModelId) (p : Progress) :
    Follows size (progress.setIfInBounds n p) (Function.update marks n p) := by
  intro m hm
  have hlt := (Array.getElem?_eq_some_iff.1 (h m hm)).1
  rw [Array.getElem?_setIfInBounds, Function.update_apply]
  by_cases hmn : n = m
  · simp [hmn, hlt]
  · simp [hmn, Ne.symm hmn, h m hm]

lemma markAdded (h : Follows size progress marks) (hsize : size ≤ c.size) :
    Follows size progress (c.markAdded c' marks) := by
  intro m hm
  rw [h m hm, Blueprint.markAdded, if_neg]
  omega

end Follows

/-- When the walk enters a part, the edges of the part lead where they led before. -/
lemma edges_of_enter (hbare : b.bare = b)
    (h : WalkState b.edges b.size root past progress (.visit v :: rest))
    (fresh : progress[v.node]? = some .fresh)
    (hrun : (past ++ [Event.enter v]).foldlM (typeEvent table rules) b = .ok c) :
    c.edges v.node = b.edges v.node := by
  obtain ⟨hlt, hnew⟩ := (h.tracked.fresh_iff _).1 fresh
  have hcut := isCut_of_run (h.enter fresh) hbare hrun
  have hcuts := areCuts_cutsOf table (h.enter fresh)
  rw [cutsOf_append, cutsOf_enter, List.append_nil] at hcut hcuts
  rw [hcut.edges_eq hlt]
  refine (List.map_congr_left fun e he => ?_).trans (List.map_id _)
  have hsource := b.edges_source v.node e he
  -- a cut of the edge would have been made from inside the part
  have hnot : e.visit ∉ b.cutsOf table past := by
    intro hmem
    obtain ⟨-, n, hn, hen⟩ := h.arrival_edge (mem_cutsOf.1 hmem).1 rfl rfl
    rw [← b.edges_source n e hen, hsource] at hn
    exact hnew hn
  have hend : b.newEnd (b.cutsOf table past) e = e.target := by
    unfold newEnd
    split
    · rfl
    · rcases hcuts.endAfter_cases (hsource.symm ▸ he) with ⟨k, hk, -⟩ | ⟨-, hend⟩
      · exact absurd (List.mem_of_getElem? hk) hnot
      · exact hend
  rw [hend]
  rfl

/-- From every state of the walk, the loop goes on as the walk does. -/
lemma typeWithin_eq (hbare : b.bare = b) (hclosed : ∀ n, Reaches b.edges root n → n < b.size)
    {marks : ModelId → Progress} {bound : Nat}
    (h : WalkState b.edges b.size root past progress tasks)
    (hrun : past.foldlM (typeEvent table rules) b = .ok c)
    (hmarks : Follows b.size progress marks)
    (hbound : (walkFrom b.edges progress tasks).length ≤ bound) :
    c.typeWithin table rules bound marks tasks =
      some ((walkFrom b.edges progress tasks).foldlM (typeEvent table rules) c) := by
  fun_induction walkFrom b.edges progress tasks generalizing past marks c bound with
  | case1 progress => cases bound <;> rfl
  | case2 progress v rest ih =>
    obtain _ | bound := bound
    · simp at hbound
    rw [typeWithin, List.foldlM_cons]
    refine goOn_eq_some fun c' hc' => ?_
    exact ih h.leave (run_concat hrun hc') (hmarks.update _ _) (Nat.le_of_succ_le_succ hbound)
  | case3 progress v rest fresh ih =>
    obtain _ | bound := bound
    · simp at hbound
    have hmark : marks v.node = .fresh := by
      have hnode := hmarks _ ((h.tracked.fresh_iff _).1 fresh).1
      exact Option.some.inj (hnode.symm.trans fresh)
    rw [typeWithin, if_pos hmark, List.foldlM_cons]
    refine goOn_eq_some fun c' hc' => ?_
    have hrun' := run_concat hrun hc'
    rw [edges_of_enter hbare h fresh hrun']
    exact ih (h.enter fresh) hrun' (hmarks.update _ _) (Nat.le_of_succ_le_succ hbound)
  | case4 progress v rest seen ih =>
    obtain _ | bound := bound
    · simp at hbound
    -- the marks count for the parts of before only, and the visit goes to one of these
    have hnode := hmarks _ (hclosed _ h.reaches_of_due)
    have hmark : marks v.node ≠ .fresh := by
      intro hfresh
      exact seen (hfresh ▸ hnode)
    have hopen : (marks v.node == .inside) = (progress[v.node]? == some .inside) := by
      rw [hnode]
      rfl
    rw [typeWithin, if_neg hmark, List.foldlM_cons, hopen]
    refine goOn_eq_some fun c' hc' => ?_
    have hsize : b.size ≤ c.size := by
      rw [(isCut_of_run h hbare hrun).size_of_bare]
      exact Nat.le_add_right _ _
    exact ih (h.again seen) (run_concat hrun hc') (hmarks.markAdded hsize)
      (Nat.le_of_succ_le_succ hbound)

lemma IsClosed.lt_of_reaches (h : b.IsClosed) (hroot : root < b.size)
    (hn : Reaches b.edges root n) : n < b.size := by
  induction hn with
  | refl => exact hroot
  | tail _ hlead ih =>
    obtain ⟨e, he, rfl⟩ := hlead
    exact h _ ih e he

/-- Typing in place comes to its end within as many steps as the walk through the blueprint has
events, and does what typing does. -/
theorem assignTypesWithin_eq (hbare : b.bare = b) (hclosed : b.IsClosed) (hroot : b.root < b.size)
    {bound : Nat} (hbound : (walk b.edges b.size b.root).length ≤ bound) :
    b.assignTypesWithin table rules bound = some (b.assignTypes table rules) :=
  typeWithin_eq hbare (fun _ hn => hclosed.lt_of_reaches hroot hn) .start rfl
    (fun n hn => by simp [hn]) hbound

end Modelsmith.Blueprint
