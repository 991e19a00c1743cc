/-
# The effort of making a blueprint

Both passes come to their end, whatever cycles the models form: a walk enters and leaves every
model that it reaches once, follows every link once and starts once, which is all it does.  The
blueprint gets one part for every model and at most one more for every link that the walk takes
to where it has been, so that links and models bound its size.
-/
import Mathlib.Algebra.BigOperators.Group.Finset.Basic
import Modelsmith.Proofs.Evaluation
import Modelsmith.Proofs.Success
import Modelsmith.Proofs.Typing.InPlace
import Modelsmith.Proofs.Walk.Leave

namespace Modelsmith

/-! ## The length of a walk -/

variable {out : ModelId → List Edge} {size : Nat} {root : ModelId}

/-- Entering a model adds one task for every edge that leaves it and one for leaving it, and
every event does one task. -/
lemma WalkState.length_past {past : List Event} {progress : Array Progress} {tasks : List Task}
    (h : WalkState out size root past progress tasks) :
    past.length + tasks.length =
      (entered past).length + ((entered past).flatMap out).length + 1 := by
  induction h with
  | start => rfl
  | leave before ih =>
    simp only [List.length_cons] at ih
    simp only [List.length_append, List.length_singleton, entered_append, entered_leave,
      List.append_nil]
    omega
  | enter before fresh ih =>
    simp only [List.length_cons] at ih
    simp only [List.length_append, List.length_cons, List.length_nil, visits, List.length_map,
      entered_append, entered_enter, List.flatMap_append, List.flatMap_singleton]
    omega
  | again before seen ih =>
    simp only [List.length_cons] at ih
    simp only [List.length_append, List.length_singleton, entered_append, entered_again,
      List.append_nil]
    omega

/-- The number of events of a walk. -/
theorem length_walk : (walk out size root).length =
    (walkOrder out size root).length + ((walkOrder out size root).flatMap out).length + 1 := by
  obtain ⟨progress, h⟩ := walkState_walk out size root
  exact h.length_past

/-- A walk leaves as many models as it enters. -/
lemma length_left_walk :
    (left (walk out size root)).length = (walkOrder out size root).length := by
  obtain ⟨progress, h⟩ := walkState_walk out size root
  rw [walkOrder_eq_entered]
  simpa using h.left_perm.length_eq

/-- A walk is found within a bound that is no less than the number of its events. -/
lemma walkWithin_eq_some {bound : Nat} {progress : Array Progress} {tasks : List Task}
    (h : (walkFrom out progress tasks).length ≤ bound) :
    walkWithin out bound progress tasks = some (walkFrom out progress tasks) := by
  fun_induction walkFrom out progress tasks generalizing bound with
  | case1 progress => cases bound <;> rfl
  | case2 progress v rest ih =>
    obtain _ | bound := bound
    · simp at h
    rw [walkWithin, ih (Nat.le_of_succ_le_succ h)]
    rfl
  | case3 progress v rest fresh ih =>
    obtain _ | bound := bound
    · simp at h
    have hrec : walkWithin out bound (progress.setIfInBounds v.node .inside)
        (visits (out v.node) ++ .close v :: rest) = _ := ih (Nat.le_of_succ_le_succ h)
    rw [walkWithin, if_pos fresh, hrec]
    rfl
  | case4 progress v rest seen ih =>
    obtain _ | bound := bound
    · simp at h
    rw [walkWithin, if_neg seen, ih (Nat.le_of_succ_le_succ h)]
    rfl

namespace Blueprint

/-- An event enters a part, leaves one or is cut, or none of these. -/
lemma length_cutsOf_add_le (table : TypeTable) (b : Blueprint) (events : List Event) :
    (b.cutsOf table events).length + (entered events).length + (left events).length ≤
      events.length := by
  induction events with
  | nil => simp [cutsOf]
  | cons event events ih =>
    have hone : (b.cutsOf table [event]).length + (entered [event]).length +
        (left [event]).length ≤ 1 := by
      cases event with
      | enter v => simp
      | leave v => simp
      | again v o =>
        rw [entered_again, left_again]
        exact List.length_filterMap_le _ _
    rw [← List.singleton_append, cutsOf_append, entered_append, left_append]
    simp only [List.length_append, List.length_singleton] at hone ⊢
    omega

end Blueprint

/-! ## Both passes -/

namespace Schema

/-- The number of slots, targets and parents of a model, with repetition. -/
def linkCount (s : Schema) (id : ModelId) : Nat :=
  (s.model id).shape.slots.length + (s.model id).shape.target?.toList.length +
    (s.model id).options.parents.length

/-- The blueprint of a walk through the schema, without types. -/
def lowerAlong (s : Schema) (rules : NamingRules) (events : List Event) :
    Except Failure Blueprint :=
  let order := entered events
  let places := places s.size order
  let place id := places.getD id order.length
  match order.mapM (s.lowerModel rules place) with
  | .ok parts => pure { parts := parts.toArray }
  | .error failure => do
    events.forM (s.ask rules (s.refusals rules place order))
    throw failure

/-- The blueprint of a root, if each of the two passes takes at most as many steps as the bound
says.  The second pass works in place. -/
def blueprintInPlace (s : Schema) (table : TypeTable) (rules : NamingRules) (root : ModelId)
    (bound : Nat) : Option (Except Failure Blueprint) := do
  let events ← walkWithin s.edges bound (Array.replicate s.size .fresh) [.visit ⟨root, none⟩]
  Blueprint.goOn (s.lowerAlong rules events) (Blueprint.assignTypesWithin table rules bound)

variable {s : Schema} {table : TypeTable} {rules : NamingRules} {b : Blueprint}

lemma lower_eq_lowerAlong (s : Schema) (rules : NamingRules) (root : ModelId) :
    s.lower rules root = s.lowerAlong rules (walk s.edges s.size root) := rfl

lemma length_edges (s : Schema) (id : ModelId) : (s.edges id).length = s.linkCount id := by
  simp [edges, slotEdges, Modelsmith.slotEdges, targetEdges, parentEdges, linkCount, Nat.add_assoc]

lemma card_reached (s : Schema) (root : ModelId) :
    (s.reached root).toFinset.card = (s.reached root).length :=
  List.toFinset_card_of_nodup walkOrder_nodup

/-- The steps of the walk through a schema, by the models that it reaches. -/
lemma length_walk_edges (s : Schema) (root : ModelId) : (walk s.edges s.size root).length =
    (s.reached root).toFinset.card + ∑ id ∈ (s.reached root).toFinset, s.linkCount id + 1 := by
  have hnodup : (s.reached root).Nodup := walkOrder_nodup
  rw [card_reached, List.sum_toFinset _ hnodup, length_walk, List.length_flatMap]
  simp only [length_edges]
  rfl

section

variable (hclosed : s.IsClosed root)
include hclosed

lemma length_walk_lower (h : s.lower rules root = .ok b) :
    (walk b.edges b.size b.root).length = (walk s.edges s.size root).length := by
  rw [lower_walk hclosed h, List.length_map]

lemma length_reached_pos : 0 < (s.reached root).length :=
  List.length_pos_of_mem ((mem_reached_iff hclosed).2 .refl)

/-- Each pass ends within as many steps as the walk through the schema has events. -/
lemma blueprintInPlace_eq {bound : Nat}
    (hbound : (walk s.edges s.size root).length ≤ bound) :
    s.blueprintInPlace table rules root bound = some (s.blueprint table rules root) := by
  rw [blueprintInPlace, walkWithin_eq_some hbound]
  show Blueprint.goOn (s.lowerAlong rules (walk s.edges s.size root)) _ = _
  rw [← lower_eq_lowerAlong]
  refine Blueprint.goOn_eq_some fun b hlower => ?_
  have hroot : b.root < b.size := by
    rw [lower_root hlower, lower_size hlower]
    exact length_reached_pos hclosed
  exact Blueprint.assignTypesWithin_eq (lower_bare hlower) (lower_isClosed hclosed hlower) hroot
    ((length_walk_lower hclosed hlower).trans_le hbound)

/-- A link that typing cuts is none of those by which the walk enters a model. -/
lemma length_cuts_add_le (table : TypeTable) (h : s.lower rules root = .ok b) :
    (b.cutsOf table (walk b.edges b.size b.root)).length + 2 * (s.reached root).length ≤
      (walk s.edges s.size root).length := by
  have hparts : (walkOrder b.edges b.size b.root).length = (s.reached root).length := by
    rw [walkOrder_eq_entered, lower_walk hclosed h, entered_rename, List.length_map]
    rfl
  -- every part is entered once and left once, and these events are no cuts
  have hle := b.length_cutsOf_add_le table (walk b.edges b.size b.root)
  rw [length_left_walk, ← walkOrder_eq_entered, hparts, length_walk_lower hclosed h] at hle
  omega

/-- A blueprint has a part for its root and no more than one part for every link. -/
lemma blueprint_size_le (h : s.blueprint table rules root = .ok b) :
    b.size ≤ ∑ id ∈ (s.reached root).toFinset, s.linkCount id + 1 := by
  obtain ⟨b₀, hlower, -, hcut⟩ := blueprint_isCut h
  have hle := length_cuts_add_le hclosed table hlower
  have hsize := lower_size hlower
  rw [length_walk_edges, card_reached] at hle
  rw [hcut.size_of_bare]
  omega

/-- Making a blueprint comes to its end: each pass takes at most one step more than there are
models and links to be reached.  It succeeds if no rule refuses, and the blueprint has at most
as many parts as there are models and links. -/
theorem blueprint_effort (table : TypeTable) (rules : NamingRules) :
    ∃ reached : Finset ModelId, (∀ id, id ∈ reached ↔ Reaches s.edges root id) ∧
      s.blueprintInPlace table rules root (reached.card + ∑ id ∈ reached, s.linkCount id + 1) =
        some (s.blueprint table rules root) ∧
      (table.IsTotal → rules.IsTotal → IsOk (s.blueprint table rules root)) ∧
      ∀ b, s.blueprint table rules root = .ok b →
        b.size ≤ reached.card + ∑ id ∈ reached, s.linkCount id := by
  refine ⟨(s.reached root).toFinset, fun id => ?_, ?_, fun htable hrules => ?_, fun b hb => ?_⟩
  · rw [List.mem_toFinset, mem_reached_iff hclosed]
  · exact blueprintInPlace_eq hclosed (s.length_walk_edges root).le
  · exact isOk_blueprint htable hrules s root
  · have hpos := length_reached_pos hclosed
    have hle := blueprint_size_le hclosed hb
    rw [card_reached]
    omega

end

/-- A union that holds itself, inherits from itself, and holds a reference to itself. -/
def loopSample : Schema :=
  ⟨#[{ plain "u" (.union [1, 0]) with options := { parents := [0] } }, plain "r" (.reference 0)]⟩

/-- Two models with four links have a blueprint of five parts: every link that leads back gets
a part of its own. -/
theorem blueprint_effort_loopSample : loopSample.IsClosed 0 ∧
    ∃ b, loopSample.blueprint Sketch.types (Sketch.rules {}) 0 = .ok b ∧ b.size = 5 ∧
      ∃ reached : Finset ModelId, reached.card = 2 ∧ ∑ id ∈ reached, loopSample.linkCount id = 4 ∧
        loopSample.blueprintInPlace Sketch.types (Sketch.rules {}) 0 7 = some (.ok b) ∧
        b.size ≤ reached.card + ∑ id ∈ reached, loopSample.linkCount id := by
  have hclosed : loopSample.IsClosed 0 := isClosed_of_range (by decide) (by decide)
  have hrun : (loopSample.blueprintWithin Sketch.types (Sketch.rules {}) 0 9).any
      (fun b => b.size = 5) = true := by
    decide +kernel
  obtain ⟨b, hb, hsize⟩ := blueprint_of_within hrun
  have hreached : loopSample.reached 0 = [0, 1] := reached_of_within 9 (by decide +kernel)
  obtain ⟨reached, hmem, hsteps, -, hle⟩ :=
    blueprint_effort hclosed Sketch.types (Sketch.rules {})
  obtain rfl : reached = {0, 1} := by
    ext id
    rw [hmem, ← mem_reached_iff hclosed, hreached]
    simp
  rw [hb] at hsteps
  exact ⟨hclosed, b, hb, of_decide_eq_true hsize, {0, 1}, rfl, rfl, hsteps, hle b hb⟩

end Schema

end Modelsmith
