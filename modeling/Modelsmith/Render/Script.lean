/-
# Scripts of hooks

A hook describes what it does as a script: it may record a dependency, look at the
dependencies recorded so far, run a hook and go on with what that gives, fail, or finish with a
text.  The script of every hook is known to the one who executes a script.
-/
import Modelsmith.Blueprint.Basic
import Modelsmith.Failure
import Modelsmith.Layout.Code

namespace Modelsmith

/-- What a hook renders. -/
inductive Item where
  /-- The part as a whole. -/
  | whole
  /-- A property of an object. -/
  | property (p : Property String)
  /-- An entry of an enumeration. -/
  | entry (e : Entry Member)
  /-- A member of a union, by number. -/
  | member (id : ModelId)
  /-- A position of a tuple. -/
  | position (p : Position)
deriving Repr

/-- The part that is rendered, and how. -/
structure Scene where
  /-- The blueprint. -/
  blueprint : Blueprint
  /-- The number of the part. -/
  id : ModelId
  /-- The form that the part is rendered in, under which hooks are looked up. -/
  form : String
  /-- The indentation of the code. -/
  indentation : Indentation

/-- The part that is rendered. -/
def Scene.part (s : Scene) : Part := s.blueprint.part s.id

/-- What a hook is called with. -/
structure HookCall where
  /-- The text of the hooks that ran before. -/
  content : String
  /-- The options of the preset that the hook belongs to. -/
  options : Json
  /-- What is rendered. -/
  item : Item

/-- A description of steps that end in an `α` or in a fault. -/
inductive Script (α : Type) where
  /-- Finish. -/
  | done (a : α)
  /-- Fail. -/
  | fail (fault : Fault)
  /-- Record a dependency and go on. -/
  | addDependency (line : String) (next : Script α)
  /-- Go on with the dependencies recorded so far. -/
  | readDependencies (next : List String → Script α)
  /-- Run a hook and go on with its text, or with the fault that it ended in. -/
  | runHook (hook : String) (item : Item) (next : Except Fault String → Script α)

namespace Script

variable {α β : Type}

/-- One script after another. -/
def bind : Script α → (α → Script β) → Script β
  | done a, f => f a
  | fail fault, _ => fail fault
  | addDependency line next, f => addDependency line (next.bind f)
  | readDependencies next, f => readDependencies fun lines => (next lines).bind f
  | runHook hook item next, f => runHook hook item fun result => (next result).bind f

instance : Monad Script where
  pure := done
  bind := bind

/-- Record a dependency. -/
def depend (line : String) : Script Unit := addDependency line (done ())

/-- The dependencies recorded so far. -/
def dependencies : Script (List String) := readDependencies done

/-- What a hook gives: its text, or the fault that it ended in. -/
def attempt (hook : String) (item : Item) : Script (Except Fault String) := runHook hook item done

/-- The text of a hook; if the hook fails, so does the script. -/
def run (hook : String) (item : Item) : Script String :=
  runHook hook item fun
    | .ok text => done text
    | .error fault => fail fault

end Script

/-- A hook. -/
abbrev Hook := Scene → HookCall → Script String

/-- What comes of a script. -/
structure Outcome (α : Type) where
  /-- The result, or the fault that the script ended in. -/
  result : Except Fault α
  /-- The dependencies recorded by then.  A fault does not take them back. -/
  dependencies : List String

/-- Record a line, once. -/
def recordLine (line : String) (lines : List String) : List String :=
  if line ∈ lines then lines else lines ++ [line]

/-- Execute a script when `lines` are recorded already; `hooks` gives the script of every hook.
Nothing comes of a script if hooks run each other without end. -/
def Script.execute {α : Type} (hooks : String → Item → Script String) :
    Script α → (lines : List String) → Option (Outcome α)
  | done a, lines => some ⟨.ok a, lines⟩
  | fail fault, lines => some ⟨.error fault, lines⟩
  | addDependency line next, lines => next |>.execute hooks (recordLine line lines)
  | readDependencies next, lines => next lines |>.execute hooks lines
  | runHook hook item next, lines => do
    let outcome ← hooks hook item |>.execute hooks lines
    next outcome.result |>.execute hooks outcome.dependencies
partial_fixpoint

end Modelsmith
