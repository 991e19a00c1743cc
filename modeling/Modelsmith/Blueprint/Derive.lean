/-
# Derivable traits

A trait can be derived for a part if everything reachable from it through slots and
references allows the trait and every trait that it requires.
-/
import Modelsmith.Blueprint.Basic

namespace Modelsmith

/-- The traits that are derived where possible. -/
inductive DeriveTrait where
  | copy
  | eq
  | hash
  | ord
  | partialEq
  | partialOrd
deriving DecidableEq, Repr

namespace DeriveTrait

/-- Every trait. -/
def all : List DeriveTrait := [copy, eq, hash, ord, partialEq, partialOrd]

/-- The name of a trait. -/
def name : DeriveTrait → String
  | copy => "Copy"
  | eq => "Eq"
  | hash => "Hash"
  | ord => "Ord"
  | partialEq => "PartialEq"
  | partialOrd => "PartialOrd"

/-- A trait with all traits that it requires, directly or not. -/
def closure : DeriveTrait → List DeriveTrait
  | eq => [partialEq, eq]
  | ord => [partialEq, eq, partialOrd, ord]
  | t => [t]

/-- Whether some value of an enumeration is an object, which makes its payload a map. -/
def hasMapPayload : Shape String Member → Bool
  | .enumeration entries => entries.any fun e => match e.value with
    | .object _ => true
    | _ => false
  | _ => false

/-- Whether a part allows a trait, whatever it holds. -/
def allows (t : DeriveTrait) (shape : Shape String Member) : Bool :=
  let payload := hasMapPayload shape
  let variant := shape.variant
  match t with
  | hash => !payload && !([.dictionary, .float, .any].contains variant)
  | copy => !payload && !([.any, .dictionary, .reference, .string, .array].contains variant)
  | partialEq => variant != .any
  | eq => !([.float, .any].contains variant)
  | partialOrd => !payload && !([.any, .dictionary].contains variant)
  | ord => !payload && !([.float, .any, .dictionary].contains variant)

end DeriveTrait

namespace Blueprint

/-- The parts that are reachable from a part through slots and references, itself included. -/
def contents (b : Blueprint) (id : ModelId) : List ModelId :=
  walkOrder b.contentEdges b.size id

/-- Whether all parts of a list allow a trait and every trait that it requires. -/
def allAllow (b : Blueprint) (ids : List ModelId) (t : DeriveTrait) : Bool :=
  t.closure.all fun t => ids.all fun n => t.allows (b.part n).shape

/-- Whether a trait can be derived for a part. -/
def canDerive (b : Blueprint) (id : ModelId) (t : DeriveTrait) : Bool :=
  b.allAllow (b.contents id) t

/-- The traits that a generated type derives, sorted by name.  Four of them need no
condition. -/
def derives (b : Blueprint) (id : ModelId) : List String :=
  let ids := b.contents id
  (["Clone", "Debug", "Deserialize", "Serialize"] ++
    (DeriveTrait.all.filter (b.allAllow ids)).map (·.name)).mergeSort (· ≤ ·)

end Blueprint

end Modelsmith
