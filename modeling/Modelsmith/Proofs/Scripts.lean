/-
# Scripts

Scripts are put together like programs, and executing them respects that: what comes of one
script after another is what comes of the second from where the first one ends.
-/
import Mathlib.Tactic.Common
import Modelsmith.Render.Script

namespace Modelsmith

/-- Change the result of a script, if it has one. -/
def Outcome.map {α β : Type} (f : α → β) (o : Outcome α) : Outcome β :=
  { o with result := f <$> o.result }

namespace Script

variable {α β γ : Type}

/-! ## One script after another -/

lemma bind_done (script : Script α) : script.bind done = script := by
  induction script with
  | done a => rfl
  | fail fault => rfl
  | addDependency line next ih => exact congrArg (addDependency line) ih
  | readDependencies next ih => exact congrArg readDependencies (funext ih)
  | runHook hook item next ih => exact congrArg (runHook hook item) (funext ih)

lemma bind_bind (script : Script α) (f : α → Script β) (g : β → Script γ) :
    (script.bind f).bind g = script.bind fun a => (f a).bind g := by
  induction script with
  | done a => rfl
  | fail fault => rfl
  | addDependency line next ih => exact congrArg (addDependency line) ih
  | readDependencies next ih => exact congrArg readDependencies (funext ih)
  | runHook hook item next ih => exact congrArg (runHook hook item) (funext ih)

instance : LawfulMonad Script := .mk' Script bind_done (fun _ _ => rfl) bind_bind

/-- What holds of scripts that finish at once, and of one script after another when it holds of
both, holds of a script for every member of a list. -/
lemma mapM_induction {P : ∀ {γ : Type}, Script γ → Prop}
    (hpure : ∀ {γ : Type} (c : γ), P (pure c))
    (hbind : ∀ {γ δ : Type} {script : Script γ} {f : γ → Script δ}, P script → (∀ c, P (f c)) →
      P (script >>= f))
    {f : α → Script β} (hf : ∀ a, P (f a)) (xs : List α) : P (xs.mapM f) := by
  induction xs with
  | nil => exact hpure []
  | cons x xs ih =>
    rw [List.mapM_cons]
    exact hbind (hf x) fun y => hbind ih fun ys => hpure (y :: ys)

/-- The same of a text that is handed on from member to member. -/
lemma foldlM_induction {P : Script β → Prop} (hpure : ∀ b, P (pure b))
    (hbind : ∀ {script : Script β} {f : β → Script β}, P script → (∀ b, P (f b)) →
      P (script >>= f))
    {f : β → α → Script β} {xs : List α} (hf : ∀ x ∈ xs, ∀ b, P (f b x)) (b : β) :
    P (xs.foldlM f b) := by
  induction xs generalizing b with
  | nil => exact hpure b
  | cons x xs ih =>
    rw [List.foldlM_cons]
    exact hbind (hf x (by simp) b) (ih fun y hy => hf y (by simp [hy]))

/-! ## Execution -/

section Execute

variable {hooks : String → Item → Script String} {lines : List String}

@[simp] lemma execute_done (a : α) :
    (done a).execute hooks lines = some ⟨.ok a, lines⟩ := by
  rw [execute]

@[simp] lemma execute_fail (fault : Fault) :
    (fail fault : Script α).execute hooks lines = some ⟨.error fault, lines⟩ := by
  rw [execute]

@[simp] lemma execute_addDependency (line : String) (next : Script α) :
    (addDependency line next).execute hooks lines =
      next.execute hooks (recordLine line lines) := by
  rw [execute]

@[simp] lemma execute_readDependencies (next : List String → Script α) :
    (readDependencies next).execute hooks lines = (next lines).execute hooks lines := by
  rw [execute]

@[simp] lemma execute_runHook (hook : String) (item : Item)
    (next : Except Fault String → Script α) :
    (runHook hook item next).execute hooks lines =
      ((hooks hook item).execute hooks lines).bind fun outcome =>
        (next outcome.result).execute hooks outcome.dependencies := by
  rw [execute]
  rfl

/-- What comes of going on with `f` after `outcome`. -/
def afterwards (hooks : String → Item → Script String) (f : α → Script β) :
    Outcome α → Option (Outcome β)
  | ⟨.ok a, lines⟩ => (f a).execute hooks lines
  | ⟨.error fault, lines⟩ => some ⟨.error fault, lines⟩

lemma execute_bind (script : Script α) (f : α → Script β) :
    (script >>= f).execute hooks lines =
      (script.execute hooks lines).bind (afterwards hooks f) := by
  change (script.bind f).execute hooks lines = _
  induction script generalizing lines with
  | done a => simp [Script.bind, afterwards]
  | fail fault => simp [Script.bind, afterwards]
  | addDependency line next ih => simp [Script.bind, ih]
  | readDependencies next ih => simp [Script.bind, ih]
  | runHook hook item next ih => simp [Script.bind, ih, Option.bind_assoc]

lemma execute_map (f : α → β) (script : Script α) :
    (f <$> script).execute hooks lines = (script.execute hooks lines).map (Outcome.map f) := by
  rw [map_eq_pure_bind, execute_bind, Option.map_eq_bind]
  refine congrArg _ (funext fun o => ?_)
  obtain ⟨result, lines⟩ := o
  cases result with
  | error fault => rfl
  | ok a => exact execute_done (f a)

end Execute

end Script

end Modelsmith
