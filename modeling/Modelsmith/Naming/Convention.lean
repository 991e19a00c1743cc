/-
# Naming conventions

A naming convention says how names are spelled and which words are reserved.  It gives every
raw name an identifier: the raw name is repaired, spelled, and marked as often as needed to
keep it apart from the names of its siblings.
-/
import Modelsmith.Naming.Repair
import Modelsmith.Text.CaseStyle

namespace Modelsmith.Naming

open Modelsmith.Text

/-- What a name is the name of. -/
inductive Role where
  | model
  | property
  | enumKey
deriving DecidableEq, Repr

/-- How the names of a target are written. -/
structure Convention where
  /-- The spelling of model names. -/
  model : CaseStyle
  /-- The spelling of property names. -/
  property : CaseStyle
  /-- The spelling of enumeration keys. -/
  enumKey : CaseStyle
  /-- Words that no name may be, up to the case of ASCII letters. -/
  reserved : List String
  /-- Whether special characters are replaced by words. -/
  sanitizes : Bool := true
deriving DecidableEq, Repr

/-- Spellings that take the place of those of a convention. -/
structure Overrides where
  /-- The spelling of model names. -/
  model : Option CaseStyle := none
  /-- The spelling of property names. -/
  property : Option CaseStyle := none
deriving DecidableEq, Repr

namespace Convention

/-- The convention with other spellings. -/
def override (c : Convention) (o : Overrides) : Convention :=
  { c with model := o.model.getD c.model, property := o.property.getD c.property }

/-- The spelling of the names of a role. -/
def style (c : Convention) : Role → CaseStyle
  | .model => c.model
  | .property => c.property
  | .enumKey => c.enumKey

/-- Whether a name is reserved. -/
def isReserved (c : Convention) (name : String) : Bool := isKeyword c.reserved true name

/-- A candidate with its special characters replaced, without a digit at the start, not empty,
and marked if it or its spelling is reserved. -/
def repair (c : Convention) (role : Role) (candidate : String) : String :=
  let s := if c.sanitizes then sanitize candidate else candidate
  markIf (fun s => c.isReserved s || c.isReserved ((c.style role).apply s))
    (nonEmpty (noLeadingDigit s))

/-- The candidate for a raw name.  Spelling may drop separators, so that nothing is left or a
digit comes to the front; the candidate is then repaired once more. -/
def candidate (c : Convention) (role : Role) (raw : String) : String :=
  let first := c.repair role raw
  let spelled := (c.style role).apply first
  if spelled.isEmpty then c.repair role "empty"
  else if spelled.toList.head?.any Char.isDigit then c.repair role ("number_" ++ first)
  else first

/-- The spelling of the first candidate that is not taken: the given one, or that one marked
once, twice and so on, up to `tries` times. -/
def firstFree (c : Convention) (role : Role) (taken : List String) : Nat → String → String
  | 0, s => (c.style role).apply s
  | tries + 1, s =>
    let spelled := (c.style role).apply s
    if taken.contains spelled then c.firstFree role taken tries (c.candidate role (mark s))
    else spelled

/-- The identifier of a raw name among siblings whose identifiers are `taken`.  Every mark
gives a longer identifier, so that `taken` can rule out no more candidates than it has
members. -/
def identifier (c : Convention) (role : Role) (taken : List String) (raw : String) : String :=
  c.firstFree role taken taken.length (c.candidate role raw)

/-- The identifier of a name without siblings. -/
def standalone (c : Convention) (role : Role) (raw : String) : String :=
  c.identifier role [] raw

/-- The identifiers of a list of raw names, each kept apart from `taken` and from those
before it. -/
def identifiers (c : Convention) (role : Role) (taken : List String) :
    List String → List String
  | [] => []
  | raw :: rest =>
    let name := c.identifier role taken raw
    name :: c.identifiers role (taken ++ [name]) rest

end Convention

/-- The convention of Rust: words of the language are reserved. -/
def rust : Convention where
  model := .pascal
  property := .snake
  enumKey := .pascal
  reserved := [
    "as", "async", "await", "break", "const", "continue", "crate", "dyn", "else", "enum",
    "extern", "false", "fn", "for", "if", "impl", "in", "let", "loop", "match", "mod", "move",
    "mut", "pub", "ref", "return", "self", "Self", "static", "struct", "super", "trait",
    "true", "type", "unsafe", "use", "where", "while", "abstract", "become", "box", "do",
    "final", "macro", "override", "priv", "try", "typeof", "unsized", "virtual", "yield"]

/-- The convention of TypeScript: the words of JavaScript and of the type language are
reserved. -/
def typeScript : Convention where
  model := .pascal
  property := .camel
  enumKey := .constant
  reserved := [
    "break", "case", "catch", "class", "const", "continue", "debugger", "default", "delete",
    "do", "else", "enum", "export", "extends", "false", "finally", "for", "function", "if",
    "import", "in", "instanceof", "let", "new", "null", "return", "super", "switch", "this",
    "throw", "true", "try", "typeof", "var", "void", "while", "with", "yield",
    "any", "as", "async", "await", "boolean", "constructor", "declare", "get", "implements",
    "interface", "module", "namespace", "never", "number", "object", "package", "private",
    "protected", "public", "readonly", "require", "set", "static", "string", "symbol", "type",
    "undefined", "unknown"]

/-- The convention of sketches, with few reserved words. -/
def sketch : Convention where
  model := .pascal
  property := .camel
  enumKey := .constant
  reserved := ["enum", "return", "type"]

end Modelsmith.Naming
