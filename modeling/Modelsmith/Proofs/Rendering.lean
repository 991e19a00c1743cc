/-
# Rendering that succeeds

A script may fail, and hooks may run each other without end.  Neither can happen where the
hooks come in two stages: the hook for the whole text runs only others, and the others run
none.  The presets that the three targets bring along are of this kind, so that their chains
render every part.
-/
import Modelsmith.Proofs.Scripts
import Modelsmith.Proofs.Success
import Modelsmith.Target.RustForms
import Modelsmith.Target.Sketch
import Modelsmith.Target.TypeScriptForms

namespace Modelsmith

/-! ## Scripts -/

namespace Script

variable {α β : Type} {allowed : String → Prop}

/-- A script that runs only hooks that are allowed, whatever texts they give, and that fails
only with one of them. -/
def OnlyRuns (allowed : String → Prop) : Script α → Prop
  | done _ => True
  | fail _ => False
  | addDependency _ next => next.OnlyRuns allowed
  | readDependencies next => ∀ lines, (next lines).OnlyRuns allowed
  | runHook hook _ next => allowed hook ∧ (∀ text, (next (.ok text)).OnlyRuns allowed) ∧
      ∀ fault, next (.error fault) = fail fault

lemma onlyRuns_pure (a : α) : (pure a : Script α).OnlyRuns allowed := trivial

lemma onlyRuns_depend (line : String) : (depend line).OnlyRuns allowed := trivial

lemma onlyRuns_run {hook : String} (h : allowed hook) (item : Item) :
    (run hook item).OnlyRuns allowed :=
  ⟨h, fun _ => trivial, fun _ => rfl⟩

lemma OnlyRuns.bind {script : Script α} {f : α → Script β} (h : script.OnlyRuns allowed)
    (hf : ∀ a, (f a).OnlyRuns allowed) : (script >>= f).OnlyRuns allowed := by
  change (script.bind f).OnlyRuns allowed
  induction script with
  | done a => exact hf a
  | fail fault => exact h.elim
  | addDependency line next ih => exact ih h
  | readDependencies next ih => exact fun lines => ih lines (h lines)
  | runHook hook item next ih =>
    obtain ⟨hhook, htext, hfault⟩ := h
    refine ⟨hhook, fun text => ih _ (htext text), fun fault => ?_⟩
    simp only [hfault, Script.bind]

lemma onlyRuns_mapM {f : α → Script β} (hf : ∀ a, (f a).OnlyRuns allowed) (xs : List α) :
    (xs.mapM f).OnlyRuns allowed :=
  mapM_induction onlyRuns_pure OnlyRuns.bind hf xs

/-- A script may be allowed more. -/
lemma OnlyRuns.mono {allowed' : String → Prop} {script : Script α} (h : script.OnlyRuns allowed)
    (hallowed : ∀ hook, allowed hook → allowed' hook) : script.OnlyRuns allowed' := by
  induction script with
  | done a => trivial
  | fail fault => exact h.elim
  | addDependency line next ih => exact ih h
  | readDependencies next ih => exact fun lines => ih lines (h lines)
  | runHook hook item next ih =>
    exact ⟨hallowed hook h.1, fun text => ih _ (h.2.1 text), h.2.2⟩

end Script

namespace Script

variable {α : Type} {hooks : String → Item → Script String} {allowed : String → Prop}

/-- A script that comes to a result, whatever has been recorded. -/
def Succeeds (hooks : String → Item → Script String) (script : Script α) : Prop :=
  ∀ lines, ∃ a lines', script.execute hooks lines = some ⟨.ok a, lines'⟩

/-- A script succeeds if each of its hooks does. -/
lemma OnlyRuns.succeeds {script : Script α} (h : script.OnlyRuns allowed)
    (hhooks : ∀ hook item, allowed hook → (hooks hook item).Succeeds hooks) :
    script.Succeeds hooks := by
  induction script with
  | done a => exact fun lines => ⟨a, lines, execute_done a⟩
  | fail fault => exact h.elim
  | addDependency line next ih =>
    intro lines
    rw [execute_addDependency]
    exact ih h _
  | readDependencies next ih =>
    intro lines
    rw [execute_readDependencies]
    exact ih lines (h lines) lines
  | runHook hook item next ih =>
    intro lines
    obtain ⟨text, lines', htext⟩ := hhooks hook item h.1 lines
    rw [execute_runHook, htext]
    exact ih _ (h.2.1 text) lines'

end Script

/-! ## Hooks in two stages -/

/-- A hook that gives a text without running other hooks. -/
def Hook.IsLeaf (f : Hook) : Prop := ∀ scene call, (f scene call).OnlyRuns fun _ => False

/-- A hook that runs only hooks other than the one for the whole text. -/
def Hook.RunsOthers (f : Hook) : Prop :=
  ∀ scene call, (f scene call).OnlyRuns (· ≠ HookName.whole)

/-- Every hook is a leaf, except that the one for the whole text may run others. -/
def Preset.IsStaged (p : Preset) : Prop :=
  ∀ group ∈ p.hooks, ∀ entry ∈ group.2,
    entry.2.IsLeaf ∨ entry.1 = HookName.whole ∧ entry.2.RunsOthers

lemma mem_of_lookup {α : Type} {key : String} {a : α} {entries : List (String × α)}
    (h : entries.lookup key = some a) : (key, a) ∈ entries := by
  induction entries with
  | nil => simp at h
  | cons entry entries ih =>
    obtain ⟨k, c⟩ := entry
    rw [List.lookup_cons] at h
    split at h
    · next hkey =>
      obtain rfl : key = k := by simpa using hkey
      obtain rfl : c = a := by simpa using h
      simp
    · exact List.mem_cons_of_mem _ (ih h)

lemma Preset.IsStaged.find? {p : Preset} (hp : p.IsStaged) {form hook : String} {f : Hook}
    (h : p.find? form hook = some f) :
    f.IsLeaf ∨ hook = HookName.whole ∧ f.RunsOthers := by
  obtain ⟨hooks, hform, hhook⟩ := Option.bind_eq_some_iff.1 h
  exact hp _ (mem_of_lookup hform) _ (mem_of_lookup hhook)

namespace Chain

variable {chain : Chain}

/-- The hooks of one name run only what each of them may run. -/
lemma script_onlyRuns {allowed : String → Prop} {scene : Scene} {hook : String} {item : Item}
    (h : ∀ entry ∈ chain, ∀ f, entry.preset.find? scene.form hook = some f → ∀ call,
      (f scene call).OnlyRuns allowed) :
    (chain.script scene hook item).OnlyRuns allowed := by
  refine Script.foldlM_induction Script.onlyRuns_pure Script.OnlyRuns.bind
    (fun entry hentry content => ?_) ""
  unfold Configured.script
  split
  · exact Script.onlyRuns_pure content
  · next f hf => exact h entry hentry f hf _

variable (hchain : ∀ entry ∈ chain, entry.preset.IsStaged) (scene : Scene) (item : Item)
include hchain

/-- The second stage: hooks that run no others. -/
lemma script_other_succeeds {hook : String} (hhook : hook ≠ HookName.whole) :
    (chain.script scene hook item).Succeeds (chain.script scene) := by
  have hnone : (chain.script scene hook item).OnlyRuns fun _ => False := by
    refine script_onlyRuns fun entry hentry f hf call => ?_
    rcases (hchain entry hentry).find? hf with hleaf | ⟨hwhole, -⟩
    · exact hleaf scene call
    · exact absurd hwhole hhook
  exact hnone.succeeds fun _ _ hnot => hnot.elim

/-- The first stage: the hooks for the whole text. -/
lemma script_whole_succeeds :
    (chain.script scene HookName.whole item).Succeeds (chain.script scene) := by
  have hothers : (chain.script scene HookName.whole item).OnlyRuns (· ≠ HookName.whole) := by
    refine script_onlyRuns fun entry hentry f hf call => ?_
    rcases (hchain entry hentry).find? hf with hleaf | ⟨-, hothers⟩
    · exact (hleaf scene call).mono fun _ hnot => hnot.elim
    · exact hothers scene call
  exact hothers.succeeds fun hook item hhook => script_other_succeeds hchain scene item hhook

end Chain

/-- Chains in two stages render every part. -/
theorem Scene.render_of_staged {chain : Chain} (hchain : ∀ entry ∈ chain, entry.preset.IsStaged)
    (scene : Scene) (name : String) :
    ∃ r, scene.render chain name = .ok r ∧ r.name = name := by
  obtain ⟨text, lines, hrun⟩ := Chain.script_whole_succeeds hchain scene .whole []
  refine ⟨{ text, name, dependencies := lines }, ?_, rfl⟩
  rw [Scene.render, Chain.run, hrun]

/-! ## The presets of the targets -/

open Script

lemma Sketch.classHook_runsOthers : classHook.RunsOthers := by
  intro scene call
  refine .bind (onlyRuns_mapM (fun p => onlyRuns_run (by decide) _) _) fun lines => ?_
  exact onlyRuns_pure _

lemma Sketch.propertyHook_isLeaf : propertyHook.IsLeaf := by
  intro scene call
  unfold propertyHook
  split <;> exact trivial

lemma Sketch.preset_isStaged : Sketch.preset.IsStaged := by
  have hhooks : preset.hooks =
      [("class", [(HookName.whole, classHook), (HookName.property, propertyHook)])] := rfl
  simp only [Preset.IsStaged, hhooks, List.forall_mem_singleton, List.forall_mem_cons]
  exact ⟨.inr ⟨trivial, classHook_runsOthers⟩, .inl propertyHook_isLeaf⟩

namespace TypeScript

lemma classHook_runsOthers : classHook.RunsOthers := by
  intro scene call
  refine .bind (onlyRuns_mapM (fun p => onlyRuns_run (by decide) _) _) fun fields => ?_
  refine .bind (onlyRuns_run (by decide) _) fun creation => ?_
  refine .bind (onlyRuns_mapM (fun p => ?_) _) fun accessors => ?_
  · refine .bind (onlyRuns_run (by decide) _) fun getter => ?_
    exact .bind (onlyRuns_run (by decide) _) fun setter => onlyRuns_pure _
  · exact .bind (onlyRuns_run (by decide) _) fun additional => onlyRuns_pure _

lemma interfaceHook_runsOthers : interfaceHook.RunsOthers := by
  intro scene call
  refine .bind (onlyRuns_mapM (fun p => onlyRuns_run (by decide) _) _) fun properties => ?_
  exact .bind (onlyRuns_run (by decide) _) fun additional => onlyRuns_pure _

lemma enumHook_runsOthers : enumHook.RunsOthers := by
  intro scene call
  refine .bind (onlyRuns_mapM (fun e => ?_) _) fun items => ?_
  · exact .bind (onlyRuns_run (by decide) _) fun item => onlyRuns_pure _
  · exact .bind (onlyRuns_run (by decide) _) fun additional => onlyRuns_pure _

lemma isLeaf_of_mem {f : Hook} (hf : f ∈ [fieldHook, creationHook, getterHook, setterHook,
    propertyHook, entryHook, aliasHook]) : f.IsLeaf := by
  intro scene call
  simp only [List.mem_cons, List.not_mem_nil, or_false] at hf
  rcases hf with rfl | rfl | rfl | rfl | rfl | rfl | rfl
  all_goals
    simp only [fieldHook, creationHook, getterHook, setterHook, propertyHook, entryHook, aliasHook]
    repeat' split
    all_goals exact trivial

lemma preset_isStaged : preset.IsStaged := by
  simp only [Preset.IsStaged, preset, List.forall_mem_singleton, List.forall_mem_cons]
  refine ⟨⟨.inr ⟨trivial, classHook_runsOthers⟩, ?_, ?_, ?_, ?_⟩,
    ⟨.inr ⟨trivial, interfaceHook_runsOthers⟩, ?_⟩,
    ⟨.inr ⟨trivial, enumHook_runsOthers⟩, ?_⟩, ?_⟩
  all_goals exact .inl (isLeaf_of_mem (by simp))

end TypeScript

namespace Rust

/-- The outline of all four forms: the attributes of the type, a script for each item, and
what follows the body. -/
lemma onlyRuns_outline {α β : Type} {f : α → Script β}
    (hf : ∀ a, (f a).OnlyRuns (· ≠ HookName.whole)) (xs : List α)
    (text : String → List β → String → String) :
    OnlyRuns (· ≠ HookName.whole) (do
      depend serdeImport
      let attributes ← run HookName.typeAttributes .whole
      let items ← xs.mapM f
      let additional ← run HookName.additional .whole
      return text attributes items additional) := by
  refine .bind (onlyRuns_depend _) fun _ => ?_
  refine .bind (onlyRuns_run (by decide) _) fun attributes => ?_
  refine .bind (onlyRuns_mapM hf _) fun items => ?_
  exact .bind (onlyRuns_run (by decide) _) fun additional => onlyRuns_pure _

/-- An item with attributes of its own. -/
lemma onlyRuns_item {α : Type} {attributes body : String}
    (hattributes : attributes ≠ HookName.whole) (hbody : body ≠ HookName.whole) (item : Item)
    (text : String → String → α) :
    OnlyRuns (· ≠ HookName.whole) (do
      let front ← run attributes item
      let main ← run body item
      return text front main) := by
  refine .bind (onlyRuns_run hattributes item) fun front => ?_
  exact .bind (onlyRuns_run hbody item) fun main => onlyRuns_pure _

lemma structHook_runsOthers : structHook.RunsOthers := fun _ _ =>
  onlyRuns_outline (fun _ => onlyRuns_item (by decide) (by decide) _ _) _ _

lemma enumHook_runsOthers : enumHook.RunsOthers := fun _ _ =>
  onlyRuns_outline (fun _ => onlyRuns_item (by decide) (by decide) _ _) _ _

lemma tupleHook_runsOthers : tupleHook.RunsOthers := fun _ _ =>
  onlyRuns_outline (fun _ => onlyRuns_run (by decide) _) _ _

lemma unionHook_runsOthers : unionHook.RunsOthers := fun _ _ =>
  onlyRuns_outline (fun _ => onlyRuns_item (by decide) (by decide) _ _) _ _

lemma isLeaf_of_mem {f : Hook} (hf : f ∈ [deriveHook, fieldAttributesHook, fieldHook,
    entryAttributesHook, entryHook, positionHook, unionAttributesHook, memberAttributesHook,
    memberHook]) : f.IsLeaf := by
  intro scene call
  simp only [List.mem_cons, List.not_mem_nil, or_false] at hf
  rcases hf with rfl | rfl | rfl | rfl | rfl | rfl | rfl | rfl | rfl
  all_goals
    simp only [deriveHook, fieldAttributesHook, fieldHook, entryAttributesHook, entryHook,
      positionHook, unionAttributesHook, memberAttributesHook, memberHook]
    repeat' split
    all_goals exact trivial

lemma preset_isStaged : preset.IsStaged := by
  simp only [Preset.IsStaged, preset, List.forall_mem_singleton, List.forall_mem_cons]
  refine ⟨⟨.inr ⟨trivial, structHook_runsOthers⟩, ?_, ?_, ?_⟩,
    ⟨.inr ⟨trivial, enumHook_runsOthers⟩, ?_, ?_, ?_⟩,
    ⟨.inr ⟨trivial, tupleHook_runsOthers⟩, ?_, ?_⟩,
    ⟨.inr ⟨trivial, unionHook_runsOthers⟩, ?_, ?_, ?_⟩⟩
  all_goals exact .inl (isLeaf_of_mem (by simp))

end Rust

end Modelsmith
