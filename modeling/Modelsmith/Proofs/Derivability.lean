/-
# The search behind derived traits

Whether a trait can be derived for a part is found by a search that marks every part it comes
to, takes a marked part for one that allows the trait, and stops at the first part that does
not.  The search answers as if it had looked at everything that can be reached, whatever the
parts share and however they refer to each other; and what is derived respects what one trait
requires of another.
-/
import Modelsmith.Proofs.Derives
import Modelsmith.Proofs.Walk.Meeting

namespace Modelsmith

/-! ## Searches that stop early -/

/-- Whether everything that a search comes to passes a test.  The search goes below a model
before it goes on, passes over models that it has been to, and stops at the first one that
fails. -/
def passesFrom (test : ModelId → Bool) (out : ModelId → List Edge) (progress : Array Progress)
    (todo : List ModelId) : Bool :=
  match todo with
  | [] => true
  | n :: rest =>
    if progress[n]? = some .fresh then
      test n && passesFrom test out (progress.setIfInBounds n .inside) (targets out n ++ rest)
    else passesFrom test out progress rest
termination_by (progress.count .fresh, todo.length)
decreasing_by
  · rename_i fresh
    exact Prod.Lex.left _ _ (count_fresh_enter fresh)
  · exact Prod.Lex.right _ (by simp)

/-- Whether everything that a search from `root` comes to passes a test. -/
def passes (test : ModelId → Bool) (out : ModelId → List Edge) (size : Nat) (root : ModelId) :
    Bool :=
  passesFrom test out (Array.replicate size .fresh) [root]

/-- Two accounts of the progress agree on which models are fresh. -/
def SameFresh (progress progress' : Array Progress) : Prop :=
  ∀ n : ModelId, progress[n]? = some .fresh ↔ progress'[n]? = some .fresh

namespace SameFresh

variable {progress progress' : Array Progress} {n : ModelId}

lemma enter (h : SameFresh progress progress') :
    SameFresh (progress.setIfInBounds n .inside) (progress'.setIfInBounds n .inside) := by
  intro m
  simp only [Array.getElem?_setIfInBounds]
  split
  · split <;> split <;> simp
  · exact h m

/-- Whoever leaves a model that is not fresh makes none fresh. -/
lemma leave (h : SameFresh progress progress') (hn : progress[n]? ≠ some .fresh) :
    SameFresh (progress.setIfInBounds n .done) progress' := by
  intro m
  rw [Array.getElem?_setIfInBounds]
  split
  · next hm =>
    subst hm
    rw [← h]
    split <;> simp [hn]
  · exact h m

end SameFresh

variable {test : ModelId → Bool} {out : ModelId → List Edge} {size : Nat} {root : ModelId}

/-- From every state of a walk, the search passes exactly if all models do that the walk has
still to enter. -/
lemma WalkState.passesFrom_eq {past : List Event} {progress marks : Array Progress}
    {tasks : List Task} (h : WalkState out size root past progress tasks)
    (hmarks : SameFresh progress marks) :
    passesFrom test out marks (goals tasks) =
      (entered (walkFrom out progress tasks)).all test := by
  fun_induction walkFrom out progress tasks generalizing past marks with
  | case1 progress => rw [goals_nil, passesFrom, entered_nil, List.all_nil]
  | case2 progress v rest ih =>
    -- the search does not notice that the walk leaves a model
    have hinside : progress[v.node]? = some .inside :=
      (h.tracked.inside_iff _).2 ⟨v, by simp, rfl⟩
    exact ih h.leave (hmarks.leave (by simp [hinside]))
  | case3 progress v rest fresh ih =>
    -- if the model fails, neither side looks at the rest
    have hrec : passesFrom test out (marks.setIfInBounds v.node .inside)
        (goals (visits (out v.node) ++ .close v :: rest)) = _ := ih (h.enter fresh) hmarks.enter
    rw [goals_visits_append, goals_close] at hrec
    rw [goals_visit, passesFrom, if_pos ((hmarks _).1 fresh), targets, hrec]
    rfl
  | case4 progress v rest seen ih =>
    rw [goals_visit, passesFrom, if_neg fun hfresh => seen ((hmarks _).2 hfresh)]
    exact ih (h.again seen) hmarks

/-- A search that stops early passes exactly if everything passes that a walk enters. -/
theorem passes_eq_all : passes test out size root = (walkOrder out size root).all test :=
  WalkState.start.passesFrom_eq fun _ => Iff.rfl

/-! ## What one trait requires of another -/

namespace DeriveTrait

/-- The traits that must be derived as well for a trait to be derived. -/
def requires : DeriveTrait → List DeriveTrait
  | eq => [partialEq]
  | ord => [eq, partialOrd]
  | _ => []

/-- One trait requires another, through any number of steps. -/
def Needs (t u : DeriveTrait) : Prop := Relation.ReflTransGen (fun t u => u ∈ t.requires) t u

variable {t u : DeriveTrait}

lemma Needs.of_requires (h : u ∈ t.requires) : t.Needs u := Relation.ReflTransGen.single h

lemma mem_closure_of_requires {v : DeriveTrait} (hu : u ∈ t.closure) (hv : v ∈ u.requires) :
    v ∈ t.closure := by
  cases t <;> cases u <;> cases v <;> simp_all [closure, requires]

/-- The traits of the closure are those that can be got to step by step. -/
lemma mem_closure_iff : u ∈ t.closure ↔ t.Needs u := by
  constructor
  · intro hu
    have heq : eq.Needs partialEq := .of_requires (by decide)
    cases t with
    | eq =>
      obtain rfl | rfl : u = partialEq ∨ u = eq := by simpa [closure] using hu
      · exact heq
      · exact .refl
    | ord =>
      obtain rfl | rfl | rfl | rfl : u = partialEq ∨ u = eq ∨ u = partialOrd ∨ u = ord := by
        simpa [closure] using hu
      · exact (Needs.of_requires (by decide)).trans heq
      · exact .of_requires (by decide)
      · exact .of_requires (by decide)
      · exact .refl
    | _ =>
      obtain rfl := List.mem_singleton.1 hu
      exact .refl
  · intro h
    induction h with
    | refl => exact t.mem_closure
    | tail _ hv ih => exact mem_closure_of_requires ih hv

/-- What holds of all that a trait needs holds of what each trait that it requires needs, and of
the trait itself. -/
lemma all_closure (test : DeriveTrait → Bool) (t : DeriveTrait) :
    t.closure.all test = (t.requires.all (fun u => u.closure.all test) && test t) := by
  cases t <;> simp [closure, requires, Bool.and_assoc]

/-- `partialOrd` requires no other trait, yet no shape allows it without `partialEq`. -/
lemma allows_partialEq {p : Shape String Member} (h : partialOrd.allows p = true) :
    partialEq.allows p = true := by
  cases hvariant : p.variant <;> simp_all [allows]

end DeriveTrait

/-! ## What can be derived -/

namespace Blueprint

variable {b : Blueprint} {id n : ModelId} {t u : DeriveTrait}

/-- The search for a part that does not allow a trait. -/
def searchAllows (b : Blueprint) (id : ModelId) (t : DeriveTrait) : Bool :=
  passes (fun n => t.allows (b.part n).shape) b.contentEdges b.size id

/-- A trait is derived if those are that it requires and the search finds no part against it. -/
lemma canDerive_eq_search (b : Blueprint) (id : ModelId) (t : DeriveTrait) :
    b.canDerive id t = (t.requires.all (b.canDerive id) && b.searchAllows id t) := by
  rw [searchAllows, passes_eq_all, canDerive, allAllow, DeriveTrait.all_closure]
  rfl

lemma canDerive_iff_needs : b.canDerive id t = true ↔ ∀ n < b.size, Reaches b.contentEdges id n →
    ∀ u, t.Needs u → u.allows (b.part n).shape = true := by
  simp only [canDerive_iff, DeriveTrait.mem_closure_iff]
  exact ⟨fun h n hlt hn u hu => h u hu n hn hlt, fun h u hu n hn hlt => h n hlt hn u hu⟩

/-- What is derived for a part is derived for everything that it reaches. -/
lemma canDerive_of_reaches (hn : Reaches b.contentEdges id n) (h : b.canDerive id t = true) :
    b.canDerive n t = true := by
  rw [canDerive_iff_needs] at h ⊢
  exact fun m hlt hm => h m hlt (hn.trans hm)

lemma canDerive_of_needs (hu : t.Needs u) (h : b.canDerive id t = true) :
    b.canDerive id u = true := by
  rw [canDerive_iff_needs] at h ⊢
  exact fun m hlt hm v hv => h m hlt hm v (hu.trans hv)

lemma canDerive_partialEq (h : b.canDerive id .partialOrd = true) :
    b.canDerive id .partialEq = true := by
  rw [canDerive_iff_needs] at h ⊢
  intro m hlt hm u hu
  -- equality needs nothing but itself
  obtain rfl : u = .partialEq := List.mem_singleton.1 (DeriveTrait.mem_closure_iff.2 hu)
  exact DeriveTrait.allows_partialEq (h m hlt hm .partialOrd .refl)

/-- A trait can be derived for a part exactly if everything that the part reaches allows the
trait and all that it needs, as the search finds that shares its marks and stops early.  So what
is derived carries over to everything below, and respects what the traits require. -/
theorem canDerive_reachable (b : Blueprint) (id : ModelId) (t : DeriveTrait) :
    b.canDerive id t = (t.requires.all (b.canDerive id) && b.searchAllows id t) ∧
    (b.canDerive id t = true ↔ ∀ n < b.size, Reaches b.contentEdges id n →
      ∀ u, t.Needs u → u.allows (b.part n).shape = true) ∧
    (b.canDerive id t = true → ∀ n, Reaches b.contentEdges id n → b.canDerive n t = true) ∧
    (b.canDerive id .ord = true → b.canDerive id .eq = true ∧ b.canDerive id .partialOrd = true) ∧
    (b.canDerive id .eq = true → b.canDerive id .partialEq = true) ∧
    (b.canDerive id .partialOrd = true → b.canDerive id .partialEq = true) := by
  refine ⟨b.canDerive_eq_search id t, canDerive_iff_needs, fun h n hn => canDerive_of_reaches hn h,
    fun h => ⟨?_, ?_⟩, fun h => ?_, canDerive_partialEq⟩
  · exact canDerive_of_needs (.of_requires (by decide)) h
  · exact canDerive_of_needs (.of_requires (by decide)) h
  · exact canDerive_of_needs (.of_requires (by decide)) h

end Blueprint

end Modelsmith
