/-
# Targets by configuration

What the sections of a configuration say about each target.
-/
import Modelsmith.Config.Basic
import Modelsmith.Target.Rust
import Modelsmith.Target.TypeScript

namespace Modelsmith

/-- The settings that a configuration chooses for every target. -/
def Settings.ofConfig (c : Config) : Settings where
  indentation := c.indentation
  naming := c.naming

namespace Rust

/-- The path of the module that models live in, from the section of this target. -/
def modulePath (c : Config) : Except Failure (Option String) :=
  c.section? "rust" none fun value =>
    match value.sectionFields? ["module"] with
    | some [path] => readField none (fun v => v.text?.map some) path
    | _ => none

end Rust

namespace TypeScript

/-- The choices of this target, from its section. -/
def Options.ofConfig (c : Config) : Except Failure Options :=
  c.section? "typescript" {} fun value =>
    match value.sectionFields? ["model_type", "module_system"] with
    | some [objects, modules] => do
      return {
        objects := ← readField .class (Toml.choice? ObjectForm.ofName?) objects
        modules := ← readField .esm (Toml.choice? Linking.ModuleSystem.ofName?) modules }
    | _ => none

/-- The choices for files that stand alone, from the section of this target. -/
def FileOptions.ofConfig (c : Config) : Except Failure FileOptions :=
  c.section? "typescript" {} fun value =>
    match value.sectionFields? ["export_type", "namespace"] with
    | some [exports, space] => do
      return {
        exports := ← readField .byName (Toml.choice? Linking.ExportStyle.ofName?) exports
        space := ← readField none (fun v => v.text?.map some) space }
    | _ => none

end TypeScript

end Modelsmith
