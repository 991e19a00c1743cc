/-
# TypeScript

The target that generates TypeScript classes, interfaces, enums and type aliases.
-/
import Modelsmith.Linking.Statement
import Modelsmith.Target.Basic
import Modelsmith.Target.TypeScriptForms

namespace Modelsmith.TypeScript

open Modelsmith.Linking

/-- What objects are rendered as. -/
inductive ObjectForm where
  | «class»
  | interface
deriving DecidableEq, Repr

/-- The form with the given name. -/
def ObjectForm.ofName? : String → Option ObjectForm
  | "class" => some .class
  | "interface" => some .interface
  | _ => none

/-- Choices of this target. -/
structure Options where
  /-- What objects are rendered as. -/
  objects : ObjectForm := .class
  /-- The module system of the files. -/
  modules : ModuleSystem := .esm
deriving DecidableEq, Repr

/-- Choices for files that stand alone. -/
structure FileOptions where
  /-- How a file exports its model. -/
  exports : ExportStyle := .byName
  /-- A namespace for all models, which then share one file. -/
  space : Option String := none
deriving DecidableEq, Repr

/-- Objects and enumerations are split out. -/
def policy : SplitPolicy := ⟨[.object, .enumeration]⟩

/-- The naming convention. -/
def convention (o : Naming.Overrides) : Naming.Convention := Naming.typeScript.override o

/-- The value of an entry of an enum.  Only texts and numbers can be values; everything else
becomes a text. -/
def entryLiteral : Json → String
  | .string s => (Json.string s).write
  | .int n => (Json.int n).write
  | .float x => (Json.float x).write
  | value => Json.quote value.write

/-- The naming rules. -/
def rules (o : Naming.Overrides) : NamingRules := .ofConvention (convention o) "." entryLiteral

/-- The indentation: two spaces unless the settings say otherwise. -/
def indentation (s : Settings) : Indentation := s.indentation.getD (Indentation.spaces 2)

/-- The form of a variant. -/
def form (o : Options) : Variant → Option String
  | .object =>
    match o.objects with
    | .class => some "class"
    | .interface => some "interface"
  | .enumeration => some "enum"
  | _ => some "type"

/-- The target. -/
def target (s : Settings) (o : Options) : Target where
  policy := policy
  types := types
  rules := rules s.naming
  chain := { preset } :: s.presets
  indentation := indentation s
  form := form o

/-- Whether a line starts a declaration. -/
def isDeclaration (line : String) : Bool :=
  ["class ", "interface ", "enum ", "type "].any fun word =>
    word.toList.isPrefixOf line.toList

/-- Export the first declaration of a list of lines. -/
def exportFirst : List String → List String
  | [] => []
  | line :: rest =>
    if isDeclaration line then ("export " ++ line) :: rest else line :: exportFirst rest

/-- A text with its first declaration exported. -/
def exported (text : String) : String := Text.joinWith "\n" (exportFirst (Text.lines text))

/-- The imports of the models that an output depends on. -/
def imports (o : FileOptions) (b : Blueprint) : List Import :=
  (b.nearestDependencies b.root).map fun id =>
    Import.model (b.part (b.resolve id)).name o.exports

/-- An output on its own: imports, the lines that it depends on, its text and its export.  In
a namespace there are neither imports nor exports of files.  The namespace may not be
reserved. -/
def completion (s : Settings) (o : Options) (f : FileOptions) : Completion where
  check :=
    match f.space.filter (convention s.naming).isReserved with
    | some space => throw (.reservedKeyword space "namespace")
    | none => pure ()
  complete out :=
    let imported : List String :=
      match f.space, out.blueprint with
      | none, some b => (imports f b).flatMap (·.lines o.modules)
      | _, _ => []
    let head := imported ++ out.dependencies
    let body :=
      match f.space with
      | some space => bracedSteps ("export namespace " ++ space) (exported out.text)
      | none => .lines out.text :: (Export.model out.name f.exports).steps o.modules
    Code.render (indentation s) 0 <|
      head.map .line ++ (if head.isEmpty then [] else [.blank]) ++ body

end Modelsmith.TypeScript
