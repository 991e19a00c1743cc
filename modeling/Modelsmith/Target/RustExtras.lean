/-
# Further Rust presets

Presets that a caller may add: comments from the descriptions of the schema, and constructors
and defaults for the generated types.
-/
import Modelsmith.Target.RustForms

namespace Modelsmith.Rust

/-- A description as comment lines. -/
def docLines (description : String) : String := docText "///" description

/-- Put the description of a part, if there is one, in front of its text. -/
def describedHook : Hook := fun scene call =>
  match scene.part.description? with
  | some description => return docLines description ++ "\n///\n" ++ call.content
  | none => return call.content

/-- Put the description of a field in front of its attributes. -/
def describedFieldHook : Hook := fun scene call =>
  match call.item with
  | .property p =>
    match (scene.blueprint.part p.model).description? with
    | some description => return docLines description ++ "\n" ++ call.content
    | none => return call.content
  | _ => return call.content

/-- Comments from descriptions, on types and on the fields of structs. -/
def descriptionPreset : Preset where
  name := "rust-description"
  hooks := [
    ("struct", [
      (HookName.whole, describedHook), (HookName.fieldAttributes, describedFieldHook)]),
    ("enum", [(HookName.whole, describedHook)]),
    ("tuple", [(HookName.whole, describedHook)]),
    ("union", [(HookName.whole, describedHook)])]

/-- What the common preset adds. -/
structure CommonOptions where
  /-- Defaults for enums. -/
  defaults : Bool := true
  /-- Constructors for structs and tuple structs. -/
  constructors : Bool := true
deriving DecidableEq, Repr

namespace CommonOptions

/-- A truth value that may be missing. -/
def flag (value : Option Json) : Except Fault Bool :=
  match value with
  | none => pure true
  | some (.bool b) => pure b
  | some _ => throw ⟨"a truth value is expected"⟩

/-- Read options: nothing, named truth values, or up to two of them in order. -/
def read : Json → Except Fault CommonOptions
  | .null => pure {}
  | .object fields => do
    return ⟨← flag (fields.lookup "implement_default"), ← flag (fields.lookup "implement_new")⟩
  | .array items => do
    if items.length > 2 then throw ⟨"at most two truth values are expected"⟩
    return ⟨← flag items[0]?, ← flag items[1]?⟩
  | _ => throw ⟨"named truth values are expected"⟩

end CommonOptions

/-- Append a text after an empty line. -/
def appended (content text : String) : String :=
  if content.isEmpty then text else content ++ "\n\n" ++ text

/-- A nest of heads, each with an opening brace, around some lines. -/
def nest (heads inner : List String) : List Step :=
  heads.flatMap (fun head => [.line (head ++ " \x7b"), .indent]) ++ inner.map .line ++
    heads.flatMap fun _ => [.dedent, .line "\x7d"]

/-- The head of a constructor. -/
def newHead (parameters : List String) : String :=
  "pub fn new(" ++ Text.joinWith ", " parameters ++ ") -> Self"

/-- The parameter of a constructor for a property, and the line that fills the field. -/
def parameterOf (b : Blueprint) (p : Property String) : String × String :=
  let name := p.label
  let part := b.part p.model
  if part.variant = .reference then
    if p.required then
      (name ++ ": " ++ part.type, name ++ ": Box::new(" ++ name ++ "),")
    else (name ++ ": Option<" ++ part.type ++ ">", name ++ ": " ++ name ++ ".map(Box::new),")
  else (name ++ ": " ++ slotType b p.model p.required, name ++ ",")

/-- The constructor of a struct. -/
def structNew (scene : Scene) : String :=
  let parameters := scene.part.shape.properties.map (parameterOf scene.blueprint)
  Code.renderTrimmed scene.indentation 0 <|
    nest ["impl " ++ scene.part.name, newHead (parameters.map (·.1)), "Self"]
      (parameters.map (·.2))

/-- The constructor of a tuple struct. -/
def tupleNew (scene : Scene) : String :=
  match scene.part.shape with
  | .tuple positions =>
    let name (p : Position) : String := "value_" ++ toString p.index
    let parameters := positions.map fun p =>
      name p ++ ": " ++ slotType scene.blueprint p.model true
    Code.renderTrimmed scene.indentation 0 <|
      nest ["impl " ++ scene.part.name, newHead parameters]
        ["Self(" ++ Text.joinWith ", " (positions.map name) ++ ")"]
  | _ => ""

/-- The entry that is the default of an enumeration: the one with the default value of the
schema, or else the first one. -/
def chosenDefault? (part : Part) (entries : List (Entry Member)) : Option (Entry Member) :=
  ((part.input.field? "default").bind fun value => entries.find? fun e => e.value == value).orElse
    fun _ => entries.head?

/-- The default of an enum. -/
def enumDefault? (scene : Scene) : Option String :=
  (chosenDefault? scene.part (entriesOf scene.part.shape)).map fun e =>
    let value := "Self::" ++ e.label.key ++
      (if isObject e.value then "(Default::default())" else "")
    Code.renderTrimmed scene.indentation 0 <|
      nest ["impl Default for " ++ scene.part.name, "fn default() -> Self"] [value]

/-- A hook that appends a text if the options ask for it. -/
def appendIf (wanted : CommonOptions → Bool) (text : Scene → Option String) : Hook :=
  fun scene call =>
    match CommonOptions.read call.options with
    | .error fault => .fail fault
    | .ok options =>
      match wanted options, text scene with
      | true, some t => return appended call.content t
      | _, _ => return call.content

/-- Constructors and defaults. -/
def commonPreset : Preset where
  name := "rust-common"
  hooks := [
    ("struct", [
      (HookName.additional, appendIf (·.constructors) fun scene => some (structNew scene))]),
    ("tuple", [
      (HookName.additional, appendIf (·.constructors) fun scene => some (tupleNew scene))]),
    ("enum", [(HookName.additional, appendIf (·.defaults) enumDefault?)])]

end Modelsmith.Rust
