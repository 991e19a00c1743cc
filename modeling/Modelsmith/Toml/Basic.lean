/-
# TOML values

A document is a tree of tables.  Every table remembers how it came to be, because that
decides whether later lines of the document may still add to it.
-/
import Modelsmith.Number.Digits
import Modelsmith.Number.Power

namespace Modelsmith

/-- How a table came to be. -/
inductive TableOrigin where
  /-- A header opened it, or it is the document itself. -/
  | opened
  /-- It stands on the way to a table that a header opened. -/
  | implied
  /-- It stands on the way to the value of a dotted key. -/
  | dotted
  /-- It was written between braces, so that it is complete. -/
  | closed
deriving DecidableEq, Repr

/-- A TOML value. -/
inductive Toml where
  /-- A text. -/
  | string (value : String)
  /-- A whole number. -/
  | integer (value : Int)
  /-- Any other number, as it is written. -/
  | float (text : String)
  /-- A word that is formed like a number and has no value: it is too large, or has letters
  among its digits.  It does no harm where nobody reads it. -/
  | badNumber (text : String)
  /-- A truth value. -/
  | bool (value : Bool)
  /-- A date, a time or both, in normal form. -/
  | moment (text : String)
  /-- A list of values.  One that headers wrote can still grow. -/
  | array (growing : Bool) (items : List Toml)
  /-- Named values. -/
  | table (origin : TableOrigin) (fields : List (String × Toml))
deriving Repr, Inhabited

namespace Toml

/-- Whether a value is a table or a list without content. -/
def isHollow : Toml → Bool
  | array _ [] => true
  | table _ [] => true
  | _ => false

mutual

/-- Whether every number in a value has a value of its own. -/
def isSound : Toml → Bool
  | .badNumber _ => false
  | .array _ items => areSound items
  | .table _ fields => fieldsSound fields
  | _ => true

/-- Whether every number in a list of values has a value of its own. -/
def areSound : List Toml → Bool
  | [] => true
  | item :: rest => isSound item && areSound rest

/-- Whether every number in a list of fields has a value of its own. -/
def fieldsSound : List (String × Toml) → Bool
  | [] => true
  | (_, value) :: rest => isSound value && fieldsSound rest

end

end Toml

end Modelsmith
