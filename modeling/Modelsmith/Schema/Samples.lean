/-
# Sample schemas

Small schemas that show one feature each, all rooted at their first model.
-/
import Modelsmith.Schema.Basic

namespace Modelsmith.Schema

/-- A model without options. -/
def plain (name : String) (shape : Shape Unit Unit) (input : Json := .null) : Model :=
  { name, input, shape }

/-- An address with two required texts. -/
def addressSample : Schema :=
  let s : Schema := ⟨#[
    plain "Address" (.object []) (.object [
      ("description", .string "A postal address."), ("type", .string "object")]),
    plain "street_name" .string,
    plain "city" .string]⟩
  (s.addProperty 0 "street_name" 1 true).addProperty 0 "city" 2 true

/-- A list node that holds the next one. -/
def nodeSample : Schema :=
  let s : Schema := ⟨#[plain "Node" (.object [])]⟩
  s.addProperty 0 "next" 0 false

/-- An object with a property whose name is a keyword. -/
def keywordSample : Schema :=
  let s : Schema := ⟨#[plain "Token" (.object []), plain "enum" .string]⟩
  s.addProperty 0 "enum" 1 true

/-- An enumeration with two keys of the same spelling. -/
def clashSample : Schema :=
  ⟨#[plain "Level" (.enumeration [
    ⟨"1", .string "1", ()⟩, ⟨"number 1", .string "number 1", ()⟩])]⟩

/-- A person with a text, an optional address, a list of texts and a status. -/
def personSample : Schema :=
  let s : Schema := ⟨#[
    plain "Person" (.object []) (.object [("description", .string "Someone with an address.")]),
    plain "name" .string,
    plain "Address" (.object []),
    plain "city" .string,
    plain "tag" .string,
    plain "tags" (.array 4),
    plain "Status" (.enumeration [
      ⟨"active", .string "active", ()⟩, ⟨"inactive", .string "inactive", ()⟩])]⟩
  let s := s.addProperty 2 "city" 3 true
  let s := s.addProperty 0 "name" 1 true
  let s := s.addProperty 0 "address" 2 false
  let s := s.addProperty 0 "tags" 5 true
  s.addProperty 0 "status" 6 true

end Modelsmith.Schema
