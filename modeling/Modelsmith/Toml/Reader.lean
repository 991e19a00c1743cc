/-
# Reading TOML text

A document is a list of lines: headers, and keys with their values.  Blanks separate words
within a line; between the items of a list and around the keys and the values of a table in
braces, line breaks and comments may stand as well.
-/
import Modelsmith.Toml.Moment
import Modelsmith.Toml.Number
import Modelsmith.Toml.Placement
import Modelsmith.Toml.Quoted

namespace Modelsmith.Toml

/-- The text without the blanks at its start. -/
def skipBlanks (cs : List Char) : List Char := cs.dropWhile isBlank

/-- The text without blanks, line breaks and comments at its start; `comment` says that it
starts within a comment. -/
def skipSpace : Bool → List Char → List Char
  | _, [] => []
  | _, '\n' :: rest => skipSpace false rest
  | _, '\r' :: '\n' :: rest => skipSpace false rest
  | true, c :: rest => if isPlain c then skipSpace true rest else c :: rest
  | false, c :: rest =>
    if c = '#' then skipSpace true rest
    else if isBlank c then skipSpace false rest
    else c :: rest

/-- The text after the end of a line, if nothing but a comment stands before it. -/
def endLine (cs : List Char) : Option (List Char) :=
  let rest :=
    match skipBlanks cs with
    | '#' :: comment => comment.dropWhile isPlain
    | rest => rest
  match rest with
  | [] => some []
  | '\n' :: rest => some rest
  | '\r' :: '\n' :: rest => some rest
  | _ => none

/-- Whether a character may stand in a key without quotes. -/
def isBare (c : Char) : Bool := c.isAlphanum || c == '_' || c == '-'

/-- One part of a key, and what follows. -/
def readPart : List Char → Option (String × List Char)
  | '"' :: rest => readBasic rest
  | '\'' :: rest => readLiteral rest
  | cs =>
    let word := cs.takeWhile isBare
    if word.isEmpty then none else some (String.ofList word, cs.dropWhile isBare)

/-- At most the given number of parts of a key between dots, and what follows. -/
def readParts : Nat → List Char → Option (List String × List Char)
  | 0, _ => none
  | bound + 1, cs => do
    let (part, rest) ← readPart (skipBlanks cs)
    match skipBlanks rest with
    | '.' :: rest =>
      let (parts, rest) ← readParts bound rest
      return (part :: parts, rest)
    | rest => return ([part], rest)

/-- How many parts a key may have, and how deep lists and tables in braces may be nested. -/
def maxDepth : Nat := 80

/-- A key of parts between dots, and what follows. -/
def readKey : List Char → Option (List String × List Char) := readParts maxDepth

/-- Whether a character goes on with a value without quotes. -/
def isWord (c : Char) : Bool := !("=,[]\x7b\x7d# \t\r\n".toList.contains c)

/-- Whether blanks at the start of a text lead on to a word that has no quotes or dot in
front. -/
def leadsOn (cs : List Char) : Bool :=
  (skipBlanks cs).head?.any fun c => isWord c && !(['.', '"', '\''].contains c)

/-- The words at the start of a text, with the blanks between them, and what follows. -/
def cutWords : List Char → List Char × List Char
  | [] => ([], [])
  | c :: rest =>
    if isWord c || (isBlank c && leadsOn rest) then
      let (words, after) := cutWords rest
      (c :: words, after)
    else ([], c :: rest)

/-- A value without quotes, and what follows.  Blanks do not end it while words follow, because
a date may be joined to a time by a space. -/
def readWord (cs : List Char) : Option (Toml × List Char) :=
  let (word, rest) := cutWords cs
  let value : Option Toml :=
    if word = ['t', 'r', 'u', 'e'] then some (.bool true)
    else if word = ['f', 'a', 'l', 's', 'e'] then some (.bool false)
    else
      match moment? word with
      | some text => some (.moment (String.ofList text))
      | none => number? word
  value.map fun v => (v, rest)

mutual

/-- A value at the start of the text, and what follows; `depth` is how far values in it may be
nested, and `fuel` bounds the number of steps. -/
def readValue : Nat → Nat → List Char → Option (Toml × List Char)
  | 0, _, _ => none
  | fuel + 1, depth, cs =>
    match cs with
    | '"' :: '"' :: '"' :: rest =>
      (readBasicLines rest).map fun (s, after) => (.string s, after)
    | '"' :: rest => (readBasic rest).map fun (s, after) => (.string s, after)
    | '\'' :: '\'' :: '\'' :: rest =>
      (readLiteralLines rest).map fun (s, after) => (.string s, after)
    | '\'' :: rest => (readLiteral rest).map fun (s, after) => (.string s, after)
    | '[' :: rest =>
      match depth with
      | 0 => none
      | depth + 1 =>
        (readItems fuel depth rest).map fun (items, after) => (.array false items, after)
    | '\x7b' :: rest =>
      match depth with
      | 0 => none
      | depth + 1 =>
        (readPairs fuel depth [] rest).map fun (fields, after) => (.table .closed fields, after)
    | cs => readWord cs

/-- The items of a list up to its closing bracket, and what follows.  A comma may stand after
the last item. -/
def readItems : Nat → Nat → List Char → Option (List Toml × List Char)
  | 0, _, _ => none
  | fuel + 1, depth, cs =>
    match skipSpace false cs with
    | ']' :: rest => some ([], rest)
    | cs => do
      let (item, rest) ← readValue fuel depth cs
      match skipSpace false rest with
      | ',' :: rest =>
        let (items, rest) ← readItems fuel depth rest
        return (item :: items, rest)
      | ']' :: rest => return ([item], rest)
      | _ => none

/-- The fields of a table up to its closing brace, after those that came before, and what
follows.  A comma may stand after the last field. -/
def readPairs : Nat → Nat → Fields → List Char → Option (Fields × List Char)
  | 0, _, _, _ => none
  | fuel + 1, depth, fields, cs =>
    match skipSpace false cs with
    | '\x7d' :: rest => some (fields, rest)
    | cs => do
      let (key, rest) ← readKey cs
      match skipSpace false rest with
      | '=' :: rest =>
        let (value, rest) ← readValue fuel depth (skipSpace false rest)
        let fields ← addPair key value .closed fields
        match skipSpace false rest with
        | ',' :: rest => readPairs fuel depth fields rest
        | '\x7d' :: rest => return (fields, rest)
        | _ => none
      | _ => none

end

/-- What a line of a document says. -/
inductive Line where
  /-- The lines that follow are about a table. -/
  | table (path : List String)
  /-- The lines that follow are about the next table of a list. -/
  | item (path : List String)
  /-- The table has a value. -/
  | pair (key : List String) (value : Toml)
deriving Repr, Inhabited

/-- What a line says, and the text after it, from the end of the line on. -/
def readLine (fuel : Nat) : List Char → Option (Line × List Char)
  | '[' :: '[' :: rest =>
    match readKey rest with
    | some (path, ']' :: ']' :: rest) => some (.item path, rest)
    | _ => none
  | '[' :: rest =>
    match readKey rest with
    | some (path, ']' :: rest) => some (.table path, rest)
    | _ => none
  | cs =>
    match readKey cs with
    | some (key, '=' :: rest) =>
      (readValue fuel maxDepth (skipBlanks rest)).map fun (value, after) =>
        (.pair key value, after)
    | _ => none

/-- The lines of a document. -/
def readLines : Nat → List Char → Option (List Line)
  | 0, _ => none
  | fuel + 1, cs =>
    match skipSpace false cs with
    | [] => some []
    | cs => do
      let (line, rest) ← readLine fuel cs
      let rest ← endLine rest
      return line :: (← readLines fuel rest)

/-- The fields of a document, given those of its lines so far and the table that the lines
are about. -/
def ofLines : List String → Fields → List Line → Option Fields
  | _, fields, [] => some fields
  | _, fields, .table path :: rest => do ofLines path (← openTable path fields) rest
  | _, fields, .item path :: rest => do ofLines path (← openItem path fields) rest
  | path, fields, .pair key value :: rest => do
    ofLines path (← reach .header (addPair key value) path .opened fields) rest

/-- The text without a byte order mark at its start. -/
def dropMark : List Char → List Char
  | '\ufeff' :: rest => rest
  | cs => cs

/-- The fields of the document that a text writes. -/
def read? (s : String) : Option Fields := do
  let cs := dropMark s.toList
  ofLines [] [] (← readLines (2 * cs.length + 2) cs)

end Modelsmith.Toml
