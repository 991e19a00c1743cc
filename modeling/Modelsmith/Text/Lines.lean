/-
# Lines of a text
-/
import Modelsmith.Text.CharClass
import Modelsmith.Text.Words

namespace Modelsmith.Text

/-- The lines of a text.  A line ends at a line feed, which may have one carriage return
before it; what follows the last line feed is a line only if it is not empty. -/
def lineList : List Char → List (List Char)
  | [] => []
  | c :: rest =>
    if c = '\n' then [] :: lineList rest
    else if c = '\r' && rest.head? == some '\n' then lineList rest
    else consHead c (lineList rest)

/-- The lines of a string. -/
def lines (s : String) : List String := (lineList s.toList).map String.ofList

/-- The pieces of a text between line feeds, one more than it has line feeds. -/
def pieceList : List Char → List (List Char)
  | [] => [[]]
  | c :: rest => if c = '\n' then [] :: pieceList rest else consHead c (pieceList rest)

/-- The pieces of a string between line feeds. -/
def pieces (s : String) : List String := (pieceList s.toList).map String.ofList

/-- Whether a string has blank characters only. -/
def isBlankText (s : String) : Bool := s.toList.all isBlank

/-- Drop the characters satisfying `p` at the end of a list. -/
def dropTrailing {α : Type} (p : α → Bool) (l : List α) : List α :=
  (l.reverse.dropWhile p).reverse

/-- A string without the line feeds at its end. -/
def trimLineFeeds (s : String) : String :=
  String.ofList (dropTrailing (· == '\n') s.toList)

/-- The strings of a list with `separator` between neighbours. -/
def joinWith (separator : String) (parts : List String) : String :=
  separator.intercalate parts

end Modelsmith.Text
