/-
# Blocks of rendered text
-/
import Modelsmith.Layout.Code

namespace Modelsmith

/-- Join the texts that are not empty by a number of line feeds. -/
def block (lineFeeds : Nat) (texts : List String) : String :=
  Text.joinWith (String.ofList (List.replicate lineFeeds '\n'))
    (texts.filter fun t => !t.isEmpty)

/-- A head with a body between braces. -/
def bracedSteps (head body : String) : List Step :=
  [.line (head ++ " \x7b"), .indent, .lines body, .dedent, .line "\x7d"]

/-- A text for each of several lines after a mark. -/
def docText (mark text : String) : String :=
  Code.renderTrimmed Indentation.standard 0 [.doc mark text]

end Modelsmith
