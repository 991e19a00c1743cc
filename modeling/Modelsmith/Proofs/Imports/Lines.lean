/-
# Import lines

An output that stands alone begins with lines that import other models, one for each of its
dependencies.  Such a line is written for the name that the dependency resolves to, and tells
this name.
-/
import Modelsmith.Proofs.Dependencies
import Modelsmith.Proofs.Outputs

namespace Modelsmith

/-! ## Lines at the beginning of a text -/

/-- Whether a text begins with some lines. -/
def BeginsWith (lines : List String) (text : String) : Prop :=
  ∃ rest, text = String.join (lines.map (· ++ "\n")) ++ rest

lemma Code.render_lines (i : Indentation) (lines : List String) (steps : List Step) :
    render i 0 (lines.map .line ++ steps) =
      String.join (lines.map (· ++ "\n")) ++ render i 0 steps := by
  induction lines with
  | nil => simp
  | cons line lines ih =>
    have hpad : i.pad 0 = "" := by simp [Indentation.pad]
    have hrender : render i 0 (.line line :: (lines.map .line ++ steps)) =
        line ++ "\n" ++ render i 0 (lines.map .line ++ steps) := by
      simp [render, texts, Step.text, Step.next, hpad]
    rw [List.map_cons, List.cons_append, hrender, ih, List.map_cons, String.join_cons]
    simp only [String.append_assoc]

lemma Code.render_beginsWith (i : Indentation) (lines : List String) (steps : List Step) :
    BeginsWith lines (render i 0 (lines.map .line ++ steps)) :=
  ⟨render i 0 steps, render_lines i lines steps⟩

/-- A text that holds a name twice tells the name. -/
lemma injective_twice (first middle last : String) :
    Function.Injective fun name => first ++ name ++ middle ++ name ++ last := by
  intro name name' h
  have hlist : name.toList ++ (middle.toList ++ (name.toList ++ last.toList)) =
      name'.toList ++ (middle.toList ++ (name'.toList ++ last.toList)) := by
    simpa [← String.toList_inj] using h
  have hlength : name.toList.length = name'.toList.length := by
    have := congrArg List.length hlist
    simp only [List.length_append] at this
    lia
  exact String.toList_inj.1 (List.append_inj_left hlist hlength)

/-! ## Statements that import a model -/

namespace Linking.Import

/-- The one line that imports a model. -/
def modelLine (system : ModuleSystem) (style : ExportStyle) (name : String) : String :=
  match system, style with
  | .esm, .byName => "import \x7b " ++ name ++ " \x7d from \"./" ++ name ++ "\";"
  | .esm, .asDefault => "import " ++ name ++ " from \"./" ++ name ++ "\";"
  | .cjs, .byName => "const \x7b " ++ name ++ " \x7d = require(\"./" ++ name ++ "\");"
  | .cjs, .asDefault => "const " ++ name ++ " = require(\"./" ++ name ++ "\");"

lemma lines_model (system : ModuleSystem) (style : ExportStyle) (name : String) :
    (model name style).lines system = [modelLine system style name] := by
  cases system <;> cases style <;>
    simp [model, lines, esmLine, cjsLines, modelLine, braced, Text.joinWith, ← String.toList_inj]

lemma modelLine_injective (system : ModuleSystem) (style : ExportStyle) :
    Function.Injective (modelLine system style) := by
  cases system <;> cases style <;> exact injective_twice _ _ _

end Linking.Import

/-! ## Outputs that import models -/

/-- How outputs refer to each other when each of them stands alone. -/
inductive Linkage where
  /-- By lines that use a name below the path of a module. -/
  | rust (path : Option String)
  /-- By statements that import the file of a model, without a namespace. -/
  | typeScript (o : TypeScript.Options) (exports : Linking.ExportStyle)

namespace Linkage

variable {k : Linkage} {b : Blueprint} {name : String}

/-- The target that the outputs are of. -/
def stock : Linkage → Stock
  | rust _ => .rust
  | typeScript o _ => .typeScript o

/-- What makes an output stand alone. -/
def completion (settings : Settings) : Linkage → Completion
  | rust path => Rust.completion settings path
  | typeScript o exports => TypeScript.completion settings o { exports }

/-- The line that imports a model of the given name. -/
def line : Linkage → String → String
  | rust path, name => "use " ++ Rust.usePath path ++ name ++ ";"
  | typeScript o exports, name => Linking.Import.modelLine o.modules exports name

/-- The lines for the dependencies of a blueprint. -/
def lines : Linkage → Blueprint → List String
  | rust path, b => Rust.useLines path b
  | typeScript o exports, b => (TypeScript.imports { exports } b).flatMap (·.lines o.modules)

/-- The lines that an output begins with, given the lines that it depends on otherwise. -/
def head : Linkage → List String → Blueprint → List String
  | rust path, dependencies, b => dependencies ++ (rust path).lines b
  | k, dependencies, b => k.lines b ++ dependencies

/-- There is one line for each of the imported names. -/
lemma lines_eq (k : Linkage) (b : Blueprint) : k.lines b = b.importNames.map k.line := by
  rw [Blueprint.importNames, List.map_map]
  cases k with
  | rust path => rfl
  | typeScript o exports =>
    rw [lines, TypeScript.imports, List.flatMap_map, List.map_eq_flatMap]
    simp only [Linking.Import.lines_model]
    rfl

lemma line_injective (k : Linkage) : Function.Injective k.line := by
  cases k with
  | rust path =>
    intro name name' h
    simpa [line] using h
  | typeScript o exports => exact Linking.Import.modelLine_injective _ _

lemma line_mem_lines_iff : k.line name ∈ k.lines b ↔ name ∈ b.importNames := by
  rw [lines_eq, List.mem_map_of_injective k.line_injective]

lemma lines_nodup_iff : (k.lines b).Nodup ↔ b.importNames.Nodup := by
  rw [lines_eq, List.nodup_map_iff k.line_injective]

/-- The text of an output that stands alone begins with its import lines. -/
lemma complete_beginsWith (k : Linkage) (settings : Settings) {o : Output}
    (hb : o.blueprint = some b) :
    BeginsWith (k.head o.dependencies b) ((k.completion settings).complete o) := by
  cases k with
  | rust path =>
    simp only [completion, Rust.completion, hb, List.append_assoc]
    exact Code.render_beginsWith _ _ _
  | typeScript p exports =>
    simp only [completion, TypeScript.completion, hb, List.append_assoc]
    exact Code.render_beginsWith _ _ _

/-- The outputs that stand alone: those that are not skipped were rendered from a blueprint and
begin with its import lines, and every independent model that the target renders has one. -/
theorem exists_complete (k : Linkage) {settings : Settings} (input : Input)
    (hpresets : settings.presets = []) (hcheck : (k.completion settings).check = .ok ())
    (hroots : ∀ r ∈ input.roots, r.2 < input.schema.size) :
    ∃ outputs,
      (k.stock.target settings).generateComplete (k.completion settings) input = .ok outputs ∧
      (∀ o ∈ outputs, o.isSkipped = false → ∃ b, o.blueprint = some b ∧
        BeginsWith (k.head o.dependencies b) o.text ∧ (k.stock.target settings).Renders input b o) ∧
      ∀ id ∈ (k.stock.target settings).independent input,
        (k.stock.target settings).form (input.schema.model id).variant ≠ none →
        ∃ o ∈ outputs, o.isSkipped = false ∧
          o.name = (k.stock.convention.override settings.naming).standalone .model
            (input.schema.model id).name ∧
          ∃ b, o.blueprint = some b ∧ b.main.source = id := by
  obtain ⟨outputs, hgenerate, hall⟩ := (k.stock.isPlain hpresets).exists_output hroots
  refine ⟨_, Target.generateComplete_eq hcheck hgenerate, fun o ho hskipped => ?_,
    fun id hid hform => ?_⟩
  · obtain ⟨o₀, ho₀, rfl, hskipped₀⟩ := Target.exists_of_complete ho hskipped
    obtain ⟨b, hb, hrenders⟩ := Target.exists_renders hroots hgenerate ho₀ hskipped₀
    exact ⟨b, hb, k.complete_beginsWith settings hb, hrenders.independent, hrenders.blueprint,
      hrenders.name, hrenders.form⟩
  · obtain ⟨o, ho, hskipped, hname, b, hb, hsource, -⟩ := hall id hid hform
    exact ⟨_, List.mem_map.2 ⟨o, ho, if_neg (by simp [hskipped])⟩, hskipped, hname, b, hb, hsource⟩

/-- The output of a model, with what is found of the blueprint of the model within a bound. -/
lemma exists_output_within (k : Linkage) {settings : Settings} {input : Input}
    {P : Blueprint → Prop} [DecidablePred P] {s : Schema} {ids : List ModelId} (id : ModelId)
    (bound : Nat) (hpresets : settings.presets = [])
    (hcheck : (k.completion settings).check = .ok ())
    (hroots : ∀ r ∈ input.roots, r.2 < input.schema.size)
    (hsplit : (k.stock.target settings).splitSchema input = s)
    (hids : (k.stock.target settings).independent input = ids) (hid : id ∈ ids)
    (hform : (k.stock.target settings).form (input.schema.model id).variant ≠ none)
    (hrun : (s.blueprintWithin (k.stock.target settings).types (k.stock.target settings).rules id
      bound).any (fun b => decide (P b)) = true)
    {outputs : List Output}
    (h : (k.stock.target settings).generateComplete (k.completion settings) input = .ok outputs) :
    ∃ o ∈ outputs, o.isSkipped = false ∧ ∃ b, o.blueprint = some b ∧ o.name = b.main.name ∧
      P b := by
  obtain ⟨outputs', h', hall, hexists⟩ := k.exists_complete input hpresets hcheck hroots
  obtain rfl : outputs = outputs' := Except.ok.inj (h.symm.trans h')
  subst hsplit hids
  obtain ⟨o, ho, hskipped, -, b, hb, rfl⟩ := hexists id hid hform
  obtain ⟨b', hb', -, hrenders⟩ := hall o ho hskipped
  obtain rfl : b' = b := Option.some.inj (hb'.symm.trans hb)
  exact ⟨o, ho, hskipped, b', hb, hrenders.name,
    Schema.holds_of_within hrenders.blueprint bound hrun⟩

end Linkage

end Modelsmith
