/-
# Evaluation of small blueprints

The walk recurs on the number of fresh models, which does not compute by itself.  With a bound
on the number of events it is a structural recursion, and so is everything that is built on
it.  A bounded walk that comes to its end is the walk.
-/
import Modelsmith.Blueprint.Typing
import Modelsmith.Proofs.Lowering
import Modelsmith.Schema.Samples

namespace Modelsmith

/-- The events of a walk if there are at most as many as the bound says. -/
def walkWithin (out : ModelId → List Edge) :
    Nat → Array Progress → List Task → Option (List Event)
  | _, _, [] => some []
  | 0, _, _ => none
  | bound + 1, progress, .close v :: rest =>
    (walkWithin out bound (progress.setIfInBounds v.node .done) rest).map (.leave v :: ·)
  | bound + 1, progress, .visit v :: rest =>
    if progress[v.node]? = some .fresh then
      (walkWithin out bound (progress.setIfInBounds v.node .inside)
        (visits (out v.node) ++ .close v :: rest)).map (.enter v :: ·)
    else
      (walkWithin out bound progress rest).map
        (.again v (progress[v.node]? == some .inside) :: ·)

lemma walkFrom_eq_of_within {out : ModelId → List Edge} {bound : Nat}
    {progress : Array Progress} {tasks : List Task} {events : List Event}
    (h : walkWithin out bound progress tasks = some events) :
    walkFrom out progress tasks = events := by
  fun_induction walkWithin out bound progress tasks generalizing events with
  | case1 => simpa [walkFrom] using h
  | case2 => simp at h
  | case3 bound progress v rest ih =>
    obtain ⟨events, hevents, rfl⟩ := Option.map_eq_some_iff.1 h
    rw [walkFrom, ih hevents]
  | case4 bound progress v rest fresh ih =>
    obtain ⟨events, hevents, rfl⟩ := Option.map_eq_some_iff.1 h
    have hrec : walkFrom out (progress.setIfInBounds v.node .inside)
        ((out v.node).map (fun e => .visit e.visit) ++ .close v :: rest) = events := ih hevents
    rw [walkFrom, if_pos fresh, hrec]
  | case5 bound progress v rest seen ih =>
    obtain ⟨events, hevents, rfl⟩ := Option.map_eq_some_iff.1 h
    rw [walkFrom, if_neg seen, ih hevents]

namespace Schema

/-- The blueprint of a root, if it exists and the two walks keep to the bound. -/
def blueprintWithin (s : Schema) (table : TypeTable) (rules : NamingRules) (root : ModelId)
    (bound : Nat) : Option Blueprint := do
  let events ← walkWithin s.edges bound (Array.replicate s.size .fresh) [.visit ⟨root, none⟩]
  let order := entered events
  let places := places s.size order
  let parts ← (order.mapM (s.lowerModel rules fun id => places.getD id order.length)).toOption
  let b : Blueprint := { parts := parts.toArray }
  let events ← walkWithin b.edges bound (Array.replicate b.size .fresh) [.visit ⟨b.root, none⟩]
  (events.foldlM (Blueprint.typeEvent table rules) b).toOption

lemma reached_of_within {s : Schema} {root : ModelId} {order : List ModelId} (bound : Nat)
    (h : (walkWithin s.edges bound (Array.replicate s.size .fresh) [.visit ⟨root, none⟩]).map
      entered = some order) : s.reached root = order := by
  obtain ⟨events, hevents, rfl⟩ := Option.map_eq_some_iff.1 h
  exact congrArg entered (walkFrom_eq_of_within hevents)

lemma toOption_eq_some {ε α : Type} {x : Except ε α} {a : α} :
    x.toOption = some a ↔ x = .ok a := by
  cases x <;> simp [Except.toOption]

/-- A blueprint that is found within a bound is the blueprint. -/
theorem blueprint_of_within {s : Schema} {table : TypeTable} {rules : NamingRules}
    {root : ModelId} {bound : Nat} {p : Blueprint → Bool}
    (h : (s.blueprintWithin table rules root bound).any p = true) :
    ∃ b, s.blueprint table rules root = .ok b ∧ p b = true := by
  obtain ⟨b, hb, hp⟩ := (Option.any_eq_true _ _).1 h
  simp only [blueprintWithin, Option.bind_eq_bind, Option.bind_eq_some_iff, toOption_eq_some]
    at hb
  obtain ⟨events, hevents, parts, hparts, events', hevents', hrun⟩ := hb
  have hreached : s.reached root = entered events := reached_of_within bound (by rw [hevents]; rfl)
  have hlower : s.lower rules root = .ok { parts := parts.toArray } := by
    rw [lower, hreached, hparts]
    rfl
  refine ⟨b, bind_eq_ok.2 ⟨_, hlower, ?_⟩, hp⟩
  rw [Blueprint.assignTypes, walk, walkFrom_eq_of_within hevents']
  exact hrun

/-- What is found of a blueprint within a bound holds of the blueprint. -/
lemma holds_of_within {s : Schema} {table : TypeTable} {rules : NamingRules} {root : ModelId}
    {b : Blueprint} {P : Blueprint → Prop} [DecidablePred P]
    (h : s.blueprint table rules root = .ok b) (bound : Nat)
    (hrun : (s.blueprintWithin table rules root bound).any (fun b => decide (P b)) = true) :
    P b := by
  obtain ⟨b', hb', hP⟩ := blueprint_of_within hrun
  obtain rfl : b' = b := Except.ok.inj (hb'.symm.trans h)
  exact of_decide_eq_true hP

/-! ## Samples with cycles -/

/-- A tree is a text or a list of trees. -/
def treeSample : Schema :=
  ⟨#[plain "tree" (.union [1, 2]), plain "branches" (.array 0), plain "leaf" .string]⟩

lemma treeSample_isClosed : treeSample.IsClosed 0 := isClosed_of_range (by decide) (by decide)

/-- Two references back to the union that holds them. -/
def pairSample : Schema :=
  ⟨#[plain "u" (.union [1, 2]), plain "a" (.reference 0), plain "b" (.reference 0)]⟩

lemma pairSample_isClosed : pairSample.IsClosed 0 := isClosed_of_range (by decide) (by decide)

end Schema

end Modelsmith
