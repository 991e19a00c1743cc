/-
# Special characters

Every ASCII punctuation character and the space have a word.  Replacing them turns a text
into segments, words and runs of ordinary characters, joined by a separator.
-/
import Modelsmith.Text.Words

namespace Modelsmith.Text

/-- The words of the special characters. -/
def specialWords : List (Char × String) := [
  (' ', "space"), ('!', "exclamation"), ('"', "quotation"), ('#', "hash"), ('$', "dollar"),
  ('%', "percent"), ('&', "ampersand"), ('\x27', "apostrophe"), ('(', "roundleft"),
  (')', "roundright"), ('*', "asterisk"), ('+', "plus"), (',', "comma"), ('-', "minus"),
  ('.', "dot"), ('/', "slash"), (':', "colon"), (';', "semicolon"), ('<', "less"),
  ('=', "equal"), ('>', "greater"), ('?', "question"), ('@', "at"), ('[', "squareleft"),
  ('\\', "backslash"), (']', "squareright"), ('^', "circumflex"), ('_', "underscore"),
  ('\x60', "graveaccent"), ('\x7b', "curlyleft"), ('|', "vertical"), ('\x7d', "curlyright"),
  ('~', "tilde")]

/-- The word of a special character, which is never a letter or a digit. -/
def specialWord? (c : Char) : Option String :=
  if c.isAlphanum then none else specialWords.lookup c

/-- The word that stands for `c` in a text where the characters of `keep` are ordinary. -/
def replacement? (keep : List Char) (c : Char) : Option String :=
  if keep.contains c then none else specialWord? c

/-- The segments of a text: the words of its special characters and, between them, its runs
of ordinary characters. -/
def segments (keep : List Char) : List Char → List (List Char)
  | [] => []
  | c :: rest =>
    match replacement? keep c with
    | some word => word.toList :: segments keep rest
    | none =>
      if rest.head?.any (fun d => (replacement? keep d).isNone) then
        consHead c (segments keep rest)
      else [c] :: segments keep rest

/-- Replace the special characters outside `keep` by their words, with `separator` between
neighbouring segments. -/
def replaceSpecial (keep : List Char) (separator : String) (s : String) : String :=
  String.ofList (separator.toList.intercalate (segments keep s.toList))

end Modelsmith.Text
