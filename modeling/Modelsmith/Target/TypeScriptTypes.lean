/-
# TypeScript types
-/
import Modelsmith.Blueprint.Rules
import Modelsmith.Text.Lines

namespace Modelsmith.TypeScript

/-- The sign between the members of a union. -/
def unionSign : String := " | "

/-- Whether a text stands somewhere in another. -/
def occursIn (part : List Char) : List Char → Bool
  | [] => part.isEmpty
  | c :: rest => part.isPrefixOf (c :: rest) || occursIn part rest

/-- The type of the elements of an array, in parentheses if it is a union. -/
def elementType (type : String) : String :=
  if occursIn unionSign.toList type.toList then "(" ++ type ++ ")" else type

/-- The types of parts.  A reference has the name of what it refers to in the end. -/
def types : TypeTable where
  write variant ctx := pure <|
    match variant with
    | .any => "any"
    | .string => "string"
    | .integer => "number"
    | .float => "number"
    | .boolean => "boolean"
    | .object => ctx.part.name
    | .reference => ctx.resolvedName
    | .enumeration => ctx.part.name
    | .array =>
      match ctx.part.shape with
      | .array value => elementType (ctx.typeOf value) ++ "[]"
      | _ => "any[]"
    | .tuple =>
      match ctx.part.shape with
      | .tuple positions =>
        "[" ++ Text.joinWith ", " (positions.map fun p => ctx.typeOf p.model) ++ "]"
      | _ => "any[]"
    | .union =>
      match ctx.part.shape with
      | .union members => Text.joinWith unionSign (members.map ctx.typeOf)
      | _ => "any"
    | .dictionary =>
      match ctx.part.shape with
      | .dictionary key value _ => "Map<" ++ ctx.typeOf key ++ ", " ++ ctx.typeOf value ++ ">"
      | _ => "Map<string, any>"

end Modelsmith.TypeScript
