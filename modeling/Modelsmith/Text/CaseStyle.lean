/-
# Case styles

A case style spells the words of a text as one identifier.
-/
import Modelsmith.Text.LetterCase
import Modelsmith.Text.Words

namespace Modelsmith.Text

/-- The ways to spell a list of words. -/
inductive CaseStyle where
  /-- `HelloWorld` -/
  | pascal
  /-- `helloWorld` -/
  | camel
  /-- `hello_world` -/
  | snake
  /-- `HELLO_WORLD` -/
  | constant
  /-- `hello-world` -/
  | kebab
deriving DecidableEq, Repr

namespace CaseStyle

/-- Spell a list of words. -/
def spell : CaseStyle → List (List Char) → List Char
  | pascal, ws => ws.flatMap capitalize
  | camel, [] => []
  | camel, w :: ws => lowerWord w ++ ws.flatMap capitalize
  | snake, ws => ['_'].intercalate (ws.map lowerWord)
  | constant, ws => ['_'].intercalate (ws.map upperWord)
  | kebab, ws => ['-'].intercalate (ws.map lowerWord)

/-- Spell the words of a text. -/
def apply (style : CaseStyle) (s : String) : String :=
  String.ofList (style.spell (words s.toList))

/-- The style with the given name. -/
def ofName? : String → Option CaseStyle
  | "pascal" => some pascal
  | "camel" => some camel
  | "snake" => some snake
  | "constant" => some constant
  | "kebab" => some kebab
  | _ => none

end CaseStyle

end Modelsmith.Text
