/-
# Import and export statements

Generated files are linked by import and export statements, written for one of two module
systems.
-/
import Modelsmith.Layout.Code

namespace Modelsmith.Linking

/-- The module system that generated files are written for. -/
inductive ModuleSystem where
  /-- `import` and `export` statements. -/
  | esm
  /-- `require` calls and assignments to `exports`. -/
  | cjs
deriving DecidableEq, Repr

/-- The module system with the given name. -/
def ModuleSystem.ofName? : String → Option ModuleSystem
  | "esm" => some esm
  | "cjs" => some cjs
  | _ => none

/-- How a file exports its model. -/
inductive ExportStyle where
  /-- Under the name of the model. -/
  | byName
  /-- As the one default of the file. -/
  | asDefault
deriving DecidableEq, Repr

/-- The style with the given name. -/
def ExportStyle.ofName? : String → Option ExportStyle
  | "named" => some byName
  | "default" => some asDefault
  | _ => none

/-- What an import takes from a file. -/
structure Import where
  /-- The file. -/
  file : String
  /-- The name for the default of the file. -/
  defaultName : Option String := none
  /-- The names taken from the file. -/
  names : List String := []
deriving DecidableEq, Repr

/-- What a file exports. -/
structure Export where
  /-- The default of the file. -/
  defaultName : Option String := none
  /-- What is exported under its own name. -/
  names : List String := []
deriving DecidableEq, Repr

/-- Names between braces. -/
def braced (names : List String) : String :=
  "\x7b " ++ Text.joinWith ", " names ++ " \x7d"

namespace Import

/-- The import of a model from the file of its name, as that file exports it. -/
def model (name : String) : ExportStyle → Import
  | .byName => { file := "./" ++ name, names := [name] }
  | .asDefault => { file := "./" ++ name, defaultName := some name }

/-- The one `import` statement. -/
def esmLine (i : Import) : String :=
  let source := "\"" ++ i.file ++ "\";"
  match i.defaultName, i.names with
  | some d, [] => "import " ++ d ++ " from " ++ source
  | some d, names => "import " ++ d ++ ", " ++ braced names ++ " from " ++ source
  | none, [] => "import " ++ source
  | none, names => "import " ++ braced names ++ " from " ++ source

/-- The lines that call `require`. -/
def cjsLines (i : Import) : List String :=
  let call := "require(\"" ++ i.file ++ "\")"
  match i.defaultName, i.names with
  | some d, [] => ["const " ++ d ++ " = " ++ call ++ ";"]
  | some d, names =>
    ["const " ++ d ++ " = " ++ call ++ ";", "const " ++ braced names ++ " = " ++ d ++ ";"]
  | none, [] => [call ++ ";"]
  | none, names => ["const " ++ braced names ++ " = " ++ call ++ ";"]

/-- The lines of an import. -/
def lines (i : Import) : ModuleSystem → List String
  | .esm => [i.esmLine]
  | .cjs => i.cjsLines

/-- The layout steps of an import. -/
def steps (i : Import) (system : ModuleSystem) : List Step := (i.lines system).map .line

end Import

namespace Export

/-- The export of a model. -/
def model (name : String) : ExportStyle → Export
  | .byName => { names := [name] }
  | .asDefault => { defaultName := some name }

/-- The lines of an export: first the names, then the default. -/
def lines (e : Export) : ModuleSystem → List String
  | .esm =>
    (if e.names.isEmpty then [] else ["export " ++ braced e.names ++ ";"]) ++
      e.defaultName.toList.map fun d => "export default " ++ d ++ ";"
  | .cjs =>
    (e.names.map fun n => "exports." ++ n ++ " = " ++ n ++ ";") ++
      e.defaultName.toList.map fun d => "module.exports = " ++ d ++ ";"

/-- The layout steps of an export. -/
def steps (e : Export) (system : ModuleSystem) : List Step := (e.lines system).map .line

end Export

end Modelsmith.Linking
