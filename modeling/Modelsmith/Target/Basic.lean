/-
# Targets

A target brings together what is needed to generate code: which models are split out, how
they are named and typed, and how parts are rendered.  Generating splits every root, then
makes a blueprint of every independent model and renders it.
-/
import Modelsmith.Blueprint.Typing
import Modelsmith.Render.Preset
import Modelsmith.Schema.Split

namespace Modelsmith

/-- A schema with named roots. -/
structure Input where
  /-- The schema. -/
  schema : Schema
  /-- The roots, in the order in which they are generated. -/
  roots : List (String × ModelId) := []
  /-- The document that the schema was made from. -/
  document : Json := .null

/-- Name a root; an earlier root of that name gives way in its place. -/
def Input.withRoot (i : Input) (name : String) (id : ModelId) : Input :=
  { i with roots := Registry.put name id i.roots }

/-- Choices that every target offers. -/
structure Settings where
  /-- Presets that run after the target's own. -/
  presets : Chain := []
  /-- The indentation, if not the target's own. -/
  indentation : Option Indentation := none
  /-- Spellings other than the target's own. -/
  naming : Naming.Overrides := {}

/-- Everything that generating code needs to know. -/
structure Target where
  /-- Which models become independent. -/
  policy : SplitPolicy
  /-- The type table. -/
  types : TypeTable
  /-- The naming rules. -/
  rules : NamingRules
  /-- The presets, the target's own first. -/
  chain : Chain
  /-- The indentation. -/
  indentation : Indentation
  /-- The form in which parts of a variant are rendered, if they can be. -/
  form : Variant → Option String

/-- One generated model. -/
structure Output where
  /-- The name that it defines, empty if the model was skipped. -/
  name : String := ""
  /-- The text. -/
  text : String := ""
  /-- The lines that it depends on. -/
  dependencies : List String := []
  /-- The blueprint that it was rendered from. -/
  blueprint : Option Blueprint := none

/-- Whether the model was skipped. -/
def Output.isSkipped (o : Output) : Bool := o.name.isEmpty

/-- How outputs are made to stand alone: a check of the caller's choices, and what becomes of
the text of an output. -/
structure Completion where
  /-- The check. -/
  check : Except Failure Unit
  /-- The text of an output on its own. -/
  complete : Output → String

namespace Target

/-- The blueprint of a model. -/
def blueprint (t : Target) (s : Schema) (id : ModelId) : Except Failure Blueprint :=
  s.blueprint t.types t.rules id

/-- The scene in which the root of a blueprint is rendered in a form. -/
def scene (t : Target) (b : Blueprint) (form : String) : Scene :=
  { blueprint := b, id := b.root, form, indentation := t.indentation }

/-- Render the root of a blueprint in the form of its variant. -/
def render (t : Target) (b : Blueprint) : Except NoResult Rendered :=
  match t.form b.main.variant with
  | none => .error (.failed (.unsupportedModel b.main.name b.main.variant))
  | some form => (t.scene b form).render t.chain b.main.name

/-- The output of one model.  A model that the target cannot render is skipped. -/
def output (t : Target) (s : Schema) (id : ModelId) : Except NoResult Output := do
  let b ← (t.blueprint s id).mapError .failed
  match t.render b with
  | .ok r =>
    return { name := r.name, text := r.text, dependencies := r.dependencies, blueprint := some b }
  | .error reason => if reason.isRecoverable then return {} else throw reason

/-- The outputs of an input: one for every root and every model that is split out. -/
def generate (t : Target) (input : Input) : Except NoResult (List Output) :=
  let (schema, models) := input.schema.splitAll t.policy (input.roots.map (·.2))
  models.mapM (t.output schema)

/-- The outputs of an input, each on its own. -/
def generateComplete (t : Target) (c : Completion) (input : Input) :
    Except NoResult (List Output) := do
  c.check.mapError .failed
  let outputs ← t.generate input
  return outputs.map fun o => if o.isSkipped then o else { o with text := c.complete o }

/-- The outputs of a document that `process` turns into an input. -/
def generateFrom (t : Target) (process : Json → Except Fault Input) (document : Json) :
    Except NoResult (List Output) := do
  let input ← (process document).mapError fun fault => .failed (.input fault)
  t.generate input

end Target

/-- Process a document by recording it with an input that is ready. -/
def Input.record (i : Input) (document : Json) : Except Fault Input :=
  pure { i with document }

end Modelsmith
