/-
# Rust types
-/
import Modelsmith.Blueprint.Rules

namespace Modelsmith.Rust

/-- The integer type of a format. -/
def integerType : Option String → String
  | some "int8" | some "i8" => "i8"
  | some "int16" | some "i16" => "i16"
  | some "int32" | some "integer" | some "i32" => "i32"
  | some "int64" | some "long" | some "i64" => "i64"
  | some "int128" | some "i128" => "i128"
  | some "uint8" | some "u8" => "u8"
  | some "uint16" | some "u16" => "u16"
  | some "uint32" | some "u32" => "u32"
  | some "uint64" | some "u64" => "u64"
  | some "uint128" | some "u128" => "u128"
  | _ => "i32"

/-- The floating-point type of a format. -/
def floatType : Option String → String
  | some "float" | some "fp32" | some "f32" | some "float32" => "f32"
  | _ => "f64"

/-- The text type of a format. -/
def stringType : Option String → String
  | some "bytes" | some "binary" => "Vec<u8>"
  | _ => "String"

/-- The type of any value. -/
def anyType : String := "serde_json::Value"

/-- The type of a dictionary. -/
def mapType (key value : String) : String :=
  "std::collections::HashMap<" ++ key ++ ", " ++ value ++ ">"

/-- The types of parts.  Numbers and texts follow the format; a reference has the name of what
it refers to in the end; tuples and unions are types of their own. -/
def types : TypeTable where
  write variant ctx := pure <|
    match variant with
    | .any => anyType
    | .string => stringType ctx.part.options.format
    | .integer => integerType ctx.part.options.format
    | .float => floatType ctx.part.options.format
    | .boolean => "bool"
    | .object => ctx.part.name
    | .reference => ctx.resolvedName
    | .enumeration => ctx.part.name
    | .array =>
      match ctx.part.shape with
      | .array value => "Vec<" ++ ctx.typeOf value ++ ">"
      | _ => "Vec<" ++ anyType ++ ">"
    | .tuple => ctx.part.name
    | .union => ctx.part.name
    | .dictionary =>
      match ctx.part.shape with
      | .dictionary key value _ => mapType (ctx.typeOf key) (ctx.typeOf value)
      | _ => mapType "String" anyType

end Modelsmith.Rust
