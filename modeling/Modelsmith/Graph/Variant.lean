/-
# Variants of models
-/

namespace Modelsmith

/-- The kinds of model. -/
inductive Variant where
  | any
  | string
  | integer
  | float
  | boolean
  | object
  | array
  | tuple
  | union
  | dictionary
  | enumeration
  | reference
deriving DecidableEq, Repr

namespace Variant

/-- Every variant. -/
def all : List Variant := [
  any, string, integer, float, boolean, object, array, tuple, union, dictionary, enumeration,
  reference]

/-- The name of a variant. -/
def name : Variant → String
  | any => "any"
  | string => "string"
  | integer => "integer"
  | float => "float"
  | boolean => "boolean"
  | object => "object"
  | array => "array"
  | tuple => "tuple"
  | union => "union"
  | dictionary => "dictionary"
  | enumeration => "enum"
  | reference => "reference"

/-- The variant with the given name. -/
def ofName? (s : String) : Option Variant := all.find? (·.name == s)

/-- Whether models of the variant hold other models. -/
def isContainer : Variant → Bool
  | object | array | tuple | union | dictionary => true
  | _ => false

end Variant

end Modelsmith
