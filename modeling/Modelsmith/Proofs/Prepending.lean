/-
# Presets that come last

Hooks run further hooks over the chain that they belong to themselves.  A preset at the end of
the chain whose only hook puts a text in front of the whole text is nevertheless asked once for
every model of its form: no hook runs the one for the whole text again, and the scripts of all
other hooks are the same with the preset and without it.
-/
import Modelsmith.Proofs.Outputs

namespace Modelsmith

/-! ## Scripts that leave a hook alone -/

namespace Script

variable {α β : Type} {script : Script α} {hook : String}

/-- A script that never runs a hook, whatever the others give. -/
def NeverRuns (hook : String) : Script α → Prop
  | done _ => True
  | fail _ => True
  | addDependency _ next => next.NeverRuns hook
  | readDependencies next => ∀ lines, (next lines).NeverRuns hook
  | runHook other _ next => other ≠ hook ∧ ∀ result, (next result).NeverRuns hook

lemma neverRuns_pure (a : α) : (pure a : Script α).NeverRuns hook := trivial

lemma neverRuns_attempt {other : String} (hother : other ≠ hook) (item : Item) :
    (attempt other item).NeverRuns hook :=
  ⟨hother, fun _ => trivial⟩

lemma NeverRuns.bind {f : α → Script β} (h : script.NeverRuns hook)
    (hf : ∀ a, (f a).NeverRuns hook) : (script >>= f).NeverRuns hook := by
  change (script.bind f).NeverRuns hook
  induction script with
  | done a => exact hf a
  | fail fault => trivial
  | addDependency line next ih => exact ih h
  | readDependencies next ih => exact fun lines => ih lines (h lines)
  | runHook other item next ih => exact ⟨h.1, fun result => ih result (h.2 result)⟩

lemma OnlyRuns.neverRuns {allowed : String → Prop} (h : script.OnlyRuns allowed)
    (hhook : ¬ allowed hook) : script.NeverRuns hook := by
  induction script with
  | done a => trivial
  | fail fault => trivial
  | addDependency line next ih => exact ih h
  | readDependencies next ih => exact fun lines => ih lines (h lines)
  | runHook other item next ih =>
    obtain ⟨hother, htext, hfault⟩ := h
    refine ⟨?_, fun result => ?_⟩
    · rintro rfl
      exact hhook hother
    · cases result with
      | ok text => exact ih _ (htext text)
      | error fault =>
        rw [hfault]
        trivial

section Execute

variable {hooks hooks' : String → Item → Script String}
  (hagree : ∀ other item, other ≠ hook → hooks' other item = hooks other item)
  (hnever : ∀ other item, other ≠ hook → (hooks other item).NeverRuns hook)
include hagree hnever

/-- What comes of a script that never runs a hook still comes of it if that hook is another
one.  The induction is on the run: every script in it never runs the hook. -/
lemma NeverRuns.execute_of_agree (h : script.NeverRuns hook) {lines : List String}
    {o : Outcome α} (ho : script.execute hooks lines = some o) :
    script.execute hooks' lines = some o := by
  refine execute.partial_correctness hooks
    (motive := fun script lines o => script.NeverRuns hook → script.execute hooks' lines = some o)
    (fun run ih _ script lines o ho h => ?_) script lines o ho h
  cases script with
  | done a => simpa using ho
  | fail fault => simpa using ho
  | addDependency line next =>
    rw [execute_addDependency]
    exact ih _ _ _ ho h
  | readDependencies next =>
    rw [execute_readDependencies]
    exact ih _ _ _ ho (h lines)
  | runHook other item next =>
    obtain ⟨outcome, houtcome, ho⟩ := Option.bind_eq_some_iff.1 ho
    rw [execute_runHook, hagree other item h.1,
      ih _ _ _ houtcome (hnever other item h.1), Option.bind_some]
    exact ih _ _ _ ho (h.2 _)

/-- What a hook does that a script never runs is of no importance to the script. -/
lemma NeverRuns.execute_eq (h : script.NeverRuns hook) (lines : List String) :
    script.execute hooks' lines = script.execute hooks lines := by
  refine Option.ext fun o => ⟨fun ho => ?_, h.execute_of_agree hagree hnever⟩
  refine h.execute_of_agree (fun other item hother => (hagree other item hother).symm)
    (fun other item hother => ?_) ho
  rw [hagree other item hother]
  exact hnever other item hother

end Execute

end Script

/-- A preset none of whose hooks runs the given one. -/
def Preset.NeverRuns (hook : String) (p : Preset) : Prop :=
  ∀ group ∈ p.hooks, ∀ entry ∈ group.2, ∀ scene call, (entry.2 scene call).NeverRuns hook

lemma Preset.NeverRuns.find? {p : Preset} {hook form other : String} {f : Hook}
    (hp : p.NeverRuns hook) (h : p.find? form other = some f) (scene : Scene) (call : HookCall) :
    (f scene call).NeverRuns hook := by
  obtain ⟨hooks, hform, hhook⟩ := Option.bind_eq_some_iff.1 h
  exact hp _ (mem_of_lookup hform) _ (mem_of_lookup hhook) scene call

/-- Where hooks come in two stages, none runs the one for the whole text. -/
lemma Preset.IsStaged.neverRuns {p : Preset} (hp : p.IsStaged) :
    p.NeverRuns HookName.whole := by
  intro group hgroup entry hentry scene call
  rcases hp group hgroup entry hentry with hleaf | ⟨-, hothers⟩
  · exact (hleaf scene call).neverRuns id
  · exact (hothers scene call).neverRuns fun hne => hne rfl

lemma Chain.script_neverRuns {chain : Chain} {hook : String}
    (hchain : ∀ entry ∈ chain, entry.preset.NeverRuns hook) (scene : Scene) (other : String)
    (item : Item) : (chain.script scene other item).NeverRuns hook := by
  refine Script.foldlM_induction Script.neverRuns_pure Script.NeverRuns.bind
    (fun entry hentry content => ?_) ""
  unfold Configured.script
  split
  · exact Script.neverRuns_pure content
  · next f hf => exact (hchain entry hentry).find? hf scene _

/-! ## A text in front -/

/-- A preset that puts a text in front of the whole text of one form, with its options. -/
def Configured.prepending (name form text : String) (options : Json) : Configured where
  preset := ({ name } : Preset).register form HookName.whole
    fun _ call => return text ++ call.content
  options

section Prepending

variable {name form text : String} {options : Json}

lemma Configured.hooks_prepending : (prepending name form text options).preset.hooks =
    [(form, [(HookName.whole, fun _ call => return text ++ call.content)])] := rfl

lemma Configured.find?_prepending (form' hook : String) :
    (prepending name form text options).preset.find? form' hook =
      if form' = form ∧ hook = HookName.whole then some fun _ call => return text ++ call.content
      else none := by
  by_cases hform : form' = form
  · by_cases hhook : hook = HookName.whole
    · simp [Preset.find?, hooks_prepending, hform, hhook]
    · simp [Preset.find?, hooks_prepending, List.lookup_cons, hform, hhook, beq_false_of_ne hhook]
  · simp [Preset.find?, hooks_prepending, List.lookup_cons, hform, beq_false_of_ne hform]

lemma Configured.script_prepending (scene : Scene) (hook : String) (item : Item)
    (content : String) :
    (prepending name form text options).script scene hook item content =
      pure (if scene.form = form ∧ hook = HookName.whole then text ++ content else content) := by
  rw [Configured.script, find?_prepending]
  by_cases h : scene.form = form ∧ hook = HookName.whole
  · simp only [if_pos h]
  · simp only [if_neg h]

namespace Chain

variable (chain : Chain) (scene : Scene) (item : Item)

lemma script_concat_prepending (hook : String) :
    (chain ++ [Configured.prepending name form text options]).script scene hook item =
      (fun content =>
        if scene.form = form ∧ hook = HookName.whole then text ++ content else content) <$>
        chain.script scene hook item := by
  rw [script, List.foldlM_append, map_eq_pure_bind]
  refine bind_congr fun content => ?_
  rw [List.foldlM_cons, Configured.script_prepending, pure_bind, List.foldlM_nil]

/-- All other hooks have the same script as without the preset. -/
lemma script_concat_prepending_of_ne {other : String} (hother : other ≠ HookName.whole) :
    (chain ++ [Configured.prepending name form text options]).script scene other item =
      chain.script scene other item := by
  rw [script_concat_prepending]
  simp [hother]

/-- The whole text of a part of the form gets the text in front, once; that of any other part
stays as it is. -/
lemma run_concat_prepending
    (hchain : ∀ entry ∈ chain, entry.preset.NeverRuns HookName.whole) (lines : List String) :
    (chain ++ [Configured.prepending name form text options]).run scene HookName.whole item lines =
      (chain.run scene HookName.whole item lines).map
        (Outcome.map fun content => if scene.form = form then text ++ content else content) := by
  have hwhole := chain.script_neverRuns hchain scene HookName.whole item
  rw [run, script_concat_prepending, Script.execute_map,
    hwhole.execute_eq (fun other item => chain.script_concat_prepending_of_ne scene item)
      fun other item _ => chain.script_neverRuns hchain scene other item]
  simp only [and_true]
  rfl

end Chain

end Prepending

/-! ## Runs of bounded depth

A run is a fixed point, which does not unfold on its own.  A run of bounded depth does, so that
what the hooks give for one model can be computed. -/

/-- Execute a script, given what running a hook gives. -/
def Script.executeWith {α : Type} (run : String → Item → List String → Option (Outcome String)) :
    Script α → List String → Option (Outcome α)
  | done a, lines => some ⟨.ok a, lines⟩
  | fail fault, lines => some ⟨.error fault, lines⟩
  | addDependency line next, lines => next.executeWith run (recordLine line lines)
  | readDependencies next, lines => (next lines).executeWith run lines
  | runHook hook item next, lines =>
    (run hook item lines).bind fun outcome =>
      (next outcome.result).executeWith run outcome.dependencies

/-- Run the hooks of one name, if no more than `depth` of them run inside of each other. -/
def Chain.runWithin (chain : Chain) (scene : Scene) :
    (depth : Nat) → String → Item → List String → Option (Outcome String)
  | 0, _, _ => fun _ => none
  | depth + 1, hook, item =>
    (chain.script scene hook item).executeWith (runWithin chain scene depth)

lemma Script.execute_of_with {α : Type} {hooks : String → Item → Script String}
    {run : String → Item → List String → Option (Outcome String)}
    (hrun : ∀ hook item lines o, run hook item lines = some o →
      (hooks hook item).execute hooks lines = some o)
    {script : Script α} {lines : List String} {o : Outcome α}
    (h : script.executeWith run lines = some o) : script.execute hooks lines = some o := by
  induction script generalizing lines with
  | done a => simpa [executeWith] using h
  | fail fault => simpa [executeWith] using h
  | addDependency line next ih =>
    rw [execute_addDependency]
    exact ih h
  | readDependencies next ih =>
    rw [execute_readDependencies]
    exact ih lines h
  | runHook hook item next ih =>
    obtain ⟨outcome, houtcome, h⟩ := Option.bind_eq_some_iff.1 h
    rw [execute_runHook, hrun _ _ _ _ houtcome, Option.bind_some]
    exact ih _ h

/-- What is found within some depth is what the hooks give. -/
lemma Chain.run_of_within {chain : Chain} {scene : Scene} {depth : Nat} {hook : String}
    {item : Item} {lines : List String} {o : Outcome String}
    (h : chain.runWithin scene depth hook item lines = some o) :
    chain.run scene hook item lines = some o := by
  induction depth generalizing hook item lines o with
  | zero => cases h
  | succ depth ih => exact Script.execute_of_with (fun _ _ _ _ h => ih h) h

/-- What is found of an output within a bound and a depth holds of the output. -/
lemma Target.output_of_within {t : Target} {s : Schema} {id : ModelId} {P : Output → Prop}
    [DecidablePred P] (bound depth : Nat)
    (h : (s.blueprintWithin t.types t.rules id bound).any (fun b =>
      (t.form b.main.variant).any fun form =>
        (t.chain.runWithin (t.scene b form) depth HookName.whole .whole []).any fun o =>
          o.result.toOption.any fun text => decide (P
            { name := b.main.name, text, dependencies := o.dependencies, blueprint := some b })) =
      true) : ∃ o, t.output s id = .ok o ∧ P o := by
  obtain ⟨b, hb, h⟩ := Schema.blueprint_of_within h
  obtain ⟨form, hform, h⟩ := (Option.any_eq_true _ _).1 h
  obtain ⟨⟨result, lines⟩, hrun, h⟩ := (Option.any_eq_true _ _).1 h
  obtain ⟨text, htext, h⟩ := (Option.any_eq_true _ _).1 h
  obtain rfl : result = .ok text := Schema.toOption_eq_some.1 htext
  have hrender : t.render b = .ok { name := b.main.name, text, dependencies := lines } := by
    rw [render, hform]
    change Scene.render (t.scene b form) _ _ = _
    rw [Scene.render, Chain.run_of_within hrun]
  refine ⟨_, bind_eq_ok.2 ⟨b, mapError_eq_ok.2 hb, ?_⟩, of_decide_eq_true h⟩
  rw [hrender]
  rfl

/-! ## Outputs -/

/-- Whether an output was rendered in a form. -/
def Target.rendersAs (t : Target) (form : String) (o : Output) : Bool :=
  o.blueprint.any fun b => t.form b.main.variant = some form

/-- The settings with one more preset, which runs last. -/
def Settings.withPreset (s : Settings) (entry : Configured) : Settings :=
  { s with presets := s.presets ++ [entry] }

/-- The target with one more preset, which runs last. -/
def Target.withPreset (t : Target) (entry : Configured) : Target :=
  { t with chain := t.chain ++ [entry] }

lemma Stock.target_withPreset (k : Stock) (settings : Settings) (entry : Configured) :
    k.target (settings.withPreset entry) = (k.target settings).withPreset entry := by
  cases k <;> rfl

/-- A change of what is made of every member of a list can be made in the end. -/
lemma map_mapM {m : Type → Type} [Monad m] [LawfulMonad m] {α β γ : Type} (f : α → m β)
    (g : β → γ) (xs : List α) : List.map g <$> xs.mapM f = xs.mapM fun x => g <$> f x := by
  induction xs with
  | nil => simp
  | cons x xs ih => simp [List.mapM_cons, ← ih]

section

variable {name form text : String} {options : Json}

lemma Scene.render_concat_prepending {chain : Chain}
    (hchain : ∀ entry ∈ chain, entry.preset.NeverRuns HookName.whole) (scene : Scene)
    (rendered : String) :
    scene.render (chain ++ [Configured.prepending name form text options]) rendered =
      (fun r : Rendered =>
        { r with text := if scene.form = form then text ++ r.text else r.text }) <$>
        scene.render chain rendered := by
  rw [render, render, chain.run_concat_prepending scene .whole hchain]
  cases chain.run scene HookName.whole .whole [] with
  | none => rfl
  | some o =>
    obtain ⟨result, lines⟩ := o
    cases result <;> rfl

variable {t : Target} (hchain : ∀ entry ∈ t.chain, entry.preset.NeverRuns HookName.whole)
include hchain

lemma Target.render_withPreset (b : Blueprint) :
    (t.withPreset (.prepending name form text options)).render b =
      (fun r : Rendered => { r with
        text := if t.form b.main.variant = some form then text ++ r.text else r.text }) <$>
        t.render b := by
  have hform : (t.withPreset (.prepending name form text options)).form = t.form := rfl
  rw [Target.render, Target.render, hform]
  cases t.form b.main.variant with
  | none => rfl
  | some form' =>
    simp only [Option.some.injEq]
    exact Scene.render_concat_prepending hchain _ _

/-- The output of a model gets the text in front if it was rendered in the form. -/
lemma Target.output_withPreset (s : Schema) (id : ModelId) :
    (t.withPreset (.prepending name form text options)).output s id =
      (fun o => if t.rendersAs form o then { o with text := text ++ o.text } else o) <$>
        t.output s id := by
  have hblueprint : (t.withPreset (.prepending name form text options)).blueprint s id =
    t.blueprint s id := rfl
  rw [output, output, hblueprint]
  cases t.blueprint s id with
  | error failure => rfl
  | ok b =>
    simp only [Except.mapError, bind, Except.bind, render_withPreset hchain]
    cases t.render b with
    | ok r =>
      by_cases hform : t.form b.main.variant = some form
      · simp [rendersAs, hform, pure, Except.pure]
      · simp [rendersAs, hform, pure, Except.pure]
    | error reason =>
      cases hreason : reason.isRecoverable with
      | false =>
        simp only [Except.map_error, hreason]
        rfl
      -- a model that is skipped has no blueprint, so that it was rendered in no form
      | true => simp [hreason, rendersAs]

end

namespace Stock

lemma neverRuns_chain (k : Stock) {settings : Settings}
    (hpresets : ∀ entry ∈ settings.presets, entry.preset.NeverRuns HookName.whole) :
    ∀ entry ∈ (k.target settings).chain, entry.preset.NeverRuns HookName.whole := by
  cases k with
  | rust => exact List.forall_mem_cons.2 ⟨Rust.preset_isStaged.neverRuns, hpresets⟩
  | typeScript o => exact List.forall_mem_cons.2 ⟨TypeScript.preset_isStaged.neverRuns, hpresets⟩
  | sketch => exact List.forall_mem_cons.2 ⟨Sketch.preset_isStaged.neverRuns, hpresets⟩

/-- A further preset that puts a text in front of the whole text of one form, and that comes after
presets whose hooks never run the one for the whole text: generating gives what it gives without
the preset, apart from the text in front of those outputs that are rendered in the form.  Hooks may
run each other as deep as they like, and may go on when one of them fails. -/
theorem generate_prepending (k : Stock) (settings : Settings)
    (hpresets : ∀ entry ∈ settings.presets, entry.preset.NeverRuns HookName.whole)
    (name form text : String) (options : Json) (input : Input) :
    (k.target (settings.withPreset (.prepending name form text options))).generate input =
      List.map (fun o =>
        if (k.target settings).rendersAs form o then { o with text := text ++ o.text } else o) <$>
        (k.target settings).generate input := by
  rw [target_withPreset, Target.generate_eq, Target.generate_eq, map_mapM]
  refine congrArg (List.mapM · _) (funext fun id => ?_)
  exact Target.output_withPreset (k.neverRuns_chain hpresets) _ id

/-! ### A hook that runs itself -/

/-- An object with a property whose values are those of an enumeration, and with one whose values
are lists of lists of anything. -/
def signalInput : Input where
  schema := ⟨#[
    Schema.plain "signal" (.object [⟨"color", 1, true, 0, ()⟩, ⟨"trace", 2, true, 0, ()⟩]),
    Schema.plain "color" (.enumeration [⟨"red", .string "red", ()⟩]),
    Schema.plain "trace" (.array 3), Schema.plain "row" (.array 4), Schema.plain "point" .any]⟩
  roots := [("signal", 0)]

/-- The name of a hook that writes the outline of a part. -/
def outline : String := "outline"

/-- The outline of a part is its variant with the outlines of the parts in its slots, which the
hook gets by running itself.  It fails where nothing is known of the values, and goes on where it
fails further down. -/
def outlineHook : Hook := fun scene call =>
  match call.item with
  | .member id => do
    let part := scene.blueprint.part id
    if part.variant = .any then
      .fail ⟨"nothing is known of " ++ part.name⟩
    else
      let inner ← part.shape.slots.mapM fun slot => do
        match ← Script.attempt outline (.member slot) with
        | .ok text => return text
        | .error _ => return "?"
      return part.variant.name ++ "(" ++ Text.joinWith ", " inner ++ ")"
  | _ => return call.content

/-- A hook that repeats the outline of an object in a comment. -/
def commentHook : Hook := fun scene call => do
  match ← Script.attempt outline (.member scene.id) with
  | .ok text => return call.content ++ "// " ++ text
  | .error _ => return call.content

def outlinePreset : Preset :=
  (({ name := "outline" } : Preset).register "interface" HookName.additional commentHook).register
    "interface" outline outlineHook

def outlineSettings : Settings := { presets := [{ preset := outlinePreset }] }

def interfaces : Stock := typeScript { objects := .interface }

lemma outlineSettings_neverRuns :
    ∀ entry ∈ outlineSettings.presets, entry.preset.NeverRuns HookName.whole := by
  have hhooks : outlinePreset.hooks =
      [("interface", [(HookName.additional, commentHook), (outline, outlineHook)])] := rfl
  simp only [outlineSettings, List.forall_mem_singleton, Preset.NeverRuns, hhooks,
    List.forall_mem_cons]
  refine ⟨fun scene call => ?_, fun scene call => ?_⟩
  · refine (Script.neverRuns_attempt (by decide) _).bind fun result => ?_
    cases result <;> exact Script.neverRuns_pure _
  · unfold outlineHook
    split
    · dsimp only
      split
      · trivial
      · refine .bind (Script.mapM_induction Script.neverRuns_pure Script.NeverRuns.bind
          (fun slot => ?_) _) fun inner => Script.neverRuns_pure _
        refine (Script.neverRuns_attempt (by decide) _).bind fun result => ?_
        cases result <;> exact Script.neverRuns_pure _
    · exact Script.neverRuns_pure _

/-- The schema of the signal when its color has been split out. -/
def splitSignal : Schema :=
  ⟨#[
    Schema.plain "signal" (.object [⟨"color", 5, true, 0, ()⟩, ⟨"trace", 2, true, 0, ()⟩]),
    Schema.plain "color" (.enumeration [⟨"red", .string "red", ()⟩]),
    Schema.plain "trace" (.array 3), Schema.plain "row" (.array 4), Schema.plain "point" .any,
    Schema.plain "color" (.reference 1)]⟩

/-- The comment has the outline of the signal. -/
lemma signalInput_generate : ∃ outputs,
    (interfaces.target outlineSettings).generate signalInput = .ok outputs ∧
      outputs.map (fun o =>
          ((interfaces.target outlineSettings).rendersAs "interface" o, o.text)) =
        [(true, "interface Signal \x7b\n  color: Color;\n  trace: any[][];\n\n" ++
            "  // object(reference(), array(array(?)))\n\x7d"),
          (false, "enum Color \x7b\n  RED = \"red\",\n\x7d")] := by
  have hindependent : (interfaces.target outlineSettings).independent signalInput = [0, 1] := by
    cbv
  have hsplit : (interfaces.target outlineSettings).splitSchema signalInput = splitSignal := by
    cbv
  rw [Target.generate_eq, hindependent, hsplit]
  obtain ⟨o, ho, htext⟩ : ∃ o, (interfaces.target outlineSettings).output splitSignal 0 = .ok o ∧
      ((interfaces.target outlineSettings).rendersAs "interface" o, o.text) =
        (true, "interface Signal \x7b\n  color: Color;\n  trace: any[][];\n\n" ++
          "  // object(reference(), array(array(?)))\n\x7d") :=
    Target.output_of_within 20 6 (by decide +kernel)
  obtain ⟨o', ho', htext'⟩ : ∃ o, (interfaces.target outlineSettings).output splitSignal 1 = .ok o ∧
      ((interfaces.target outlineSettings).rendersAs "interface" o, o.text) =
        (false, "enum Color \x7b\n  RED = \"red\",\n\x7d") :=
    Target.output_of_within 12 2 (by decide +kernel)
  exact ⟨[o, o'], mapM_eq_ok.2 (.cons ho (.cons ho' .nil)), by simp [htext, htext']⟩

/-- The interface gets one more comment in front, and the enum stays as it is. -/
theorem generate_prepending_signalInput : ∃ outputs,
    (interfaces.target (outlineSettings.withPreset
      (.prepending "banner" "interface" "// generated\n" .null))).generate signalInput =
        .ok outputs ∧
      outputs.map (·.text) =
        ["// generated\ninterface Signal \x7b\n  color: Color;\n  trace: any[][];\n\n" ++
            "  // object(reference(), array(array(?)))\n\x7d",
          "enum Color \x7b\n  RED = \"red\",\n\x7d"] := by
  obtain ⟨outputs, hgenerate, htexts⟩ := signalInput_generate
  refine ⟨_, (generate_prepending interfaces outlineSettings outlineSettings_neverRuns "banner"
    "interface" "// generated\n" .null signalInput).trans (congrArg _ hgenerate), ?_⟩
  have hmap := congrArg (List.map fun (isInterface, text) =>
    if isInterface then "// generated\n" ++ text else text) htexts
  simpa [List.map_map, Function.comp_def, apply_ite] using hmap

end Stock

end Modelsmith
