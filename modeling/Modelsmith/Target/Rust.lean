/-
# Rust

The target that generates Rust types which can be serialized.
-/
import Modelsmith.Target.Basic
import Modelsmith.Target.RustExtras

namespace Modelsmith.Rust

/-- Objects, enumerations, tuples and unions are split out. -/
def policy : SplitPolicy := ⟨[.object, .enumeration, .tuple, .union]⟩

/-- The naming convention. -/
def convention (o : Naming.Overrides) : Naming.Convention := Naming.rust.override o

/-- The naming rules. -/
def rules (o : Naming.Overrides) : NamingRules := .ofConvention (convention o) "::" literal

/-- The indentation: four spaces unless the settings say otherwise. -/
def indentation (s : Settings) : Indentation := s.indentation.getD (Indentation.spaces 4)

/-- The target. -/
def target (s : Settings) : Target where
  policy := policy
  types := types
  rules := rules s.naming
  chain := { preset } :: s.presets
  indentation := indentation s
  form := form

/-- The segments of a path, between pairs of colons. -/
def segmentList : List Char → List (List Char)
  | [] => [[]]
  | ':' :: ':' :: rest => [] :: segmentList rest
  | c :: rest => Text.consHead c (segmentList rest)

/-- The segments of a path. -/
def pathSegments (path : String) : List String := (segmentList path.toList).map String.ofList

/-- The path in front of the name of a model that lives in a module. -/
def usePath : Option String → String
  | some path => "crate::" ++ path ++ "::"
  | none => "crate::"

/-- The import lines for the models that an output depends on. -/
def useLines (path : Option String) (b : Blueprint) : List String :=
  (b.nearestDependencies b.root).map fun id =>
    "use " ++ usePath path ++ (b.part (b.resolve id)).name ++ ";"

/-- An output on its own: the lines that it depends on, the models that it depends on, and
its text.  No segment of the path of the module may be reserved. -/
def completion (s : Settings) (path : Option String) : Completion where
  check :=
    match (path.toList.flatMap pathSegments).find? (convention s.naming).isReserved with
    | some segment => throw (.reservedKeyword segment "module")
    | none => pure ()
  complete o :=
    let head := o.dependencies ++ (o.blueprint.map (useLines path)).getD []
    Code.render (indentation s) 0 <|
      head.map .line ++ (if head.isEmpty then [] else [.blank]) ++ [.lines o.text]

end Modelsmith.Rust
