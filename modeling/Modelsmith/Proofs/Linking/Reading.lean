/-
# Reading linking statements

Import and export lines are texts in JavaScript.  Here they are read: a text is cut into names,
string literals and signs, these into sentences at semicolons, and every sentence is read as one
statement.  The lines of an import or an export are read as the statements that they are meant to
be, at every indentation, if their names are names and their file fits between quotes.
-/
import Mathlib.Data.List.Basic
import Modelsmith.Linking.Statement

namespace Modelsmith.Linking

open Modelsmith.Text

/-! ## Tokens -/

/-- What a text consists of, blanks apart. -/
inductive Token where
  /-- A name or a word of the language. -/
  | name (s : String)
  /-- A string literal, given by what it stands for. -/
  | text (s : String)
  /-- A sign. -/
  | sign (c : Char)
  /-- A string literal that does not end on its line, or that has an escape. -/
  | broken
deriving DecidableEq, Repr

/-- The signs between names. -/
def isSign (c : Char) : Bool := ['\x7b', '\x7d', '(', ')', '.', ',', ';', '='].contains c

/-- The characters that names may have: all but blanks, signs and quotes. -/
def isNamePart (c : Char) : Bool := !(isBlank c || isSign c || c == '"')

/-- Characters that do not stand for themselves inside of quotes. -/
def isSpecialInQuotes (c : Char) : Bool := ['"', '\\', '\n', '\r'].contains c

/-- Put a character in front of the name that a list of tokens starts with. -/
def consName (c : Char) : List Token → List Token
  | .name s :: rest => .name (String.ofList (c :: s.toList)) :: rest
  | rest => .name (String.ofList [c]) :: rest

/-- Put a character in front of the string literal that a list of tokens starts with. -/
def consText (c : Char) : List Token → List Token
  | .text s :: rest => .text (String.ofList (c :: s.toList)) :: rest
  | rest => rest

/-- The tokens of a text; `quoted` says whether the text starts inside of quotes. -/
def tokens (quoted : Bool) : List Char → List Token
  | [] => if quoted then [.broken] else []
  | c :: rest =>
    if quoted then
      if c = '"' then .text "" :: tokens false rest
      else if isSpecialInQuotes c then [.broken]
      else consText c (tokens true rest)
    else if c = '"' then tokens true rest
    else if isSign c then .sign c :: tokens false rest
    else if isBlank c then tokens false rest
    else if rest.head?.any isNamePart then consName c (tokens false rest)
    else .name (String.ofList [c]) :: tokens false rest

/-- Cut tokens into sentences, at semicolons. -/
def sentences : List Token → List (List Token)
  | [] => []
  | t :: rest => if t = .sign ';' then [] :: sentences rest else consHead t (sentences rest)

/-! ## Statements -/

/-- Where a value comes from. -/
inductive Source where
  /-- A variable. -/
  | named (name : String)
  /-- The call of `require` for a file. -/
  | required (file : String)
deriving DecidableEq, Repr

/-- The statements that link files. -/
inductive Statement where
  /-- `exports.key = value;` -/
  | setExport (key value : String)
  /-- `module.exports = value;` -/
  | replaceExports (value : String)
  /-- `export { names };` -/
  | exportNames (names : List String)
  /-- `export default name;` -/
  | exportDefault (name : String)
  /-- `import defaultName, { names } from "file";`, or with one of the two, or with none. -/
  | importFrom (defaultName : Option String) (names : List String) (file : String)
  /-- `const name = source;` -/
  | constant (name : String) (source : Source)
  /-- `const { names } = source;` -/
  | unpack (names : List String) (source : Source)
  /-- `require("file");` -/
  | load (file : String)
deriving DecidableEq, Repr

/-- Words that cannot be the names of variables: those of the language, and those that every file
has for its exports and for other files. -/
def reservedWords : List String := [
  "arguments", "await", "break", "case", "catch", "class", "const", "continue", "debugger",
  "default", "delete", "do", "else", "enum", "eval", "export", "extends", "false", "finally",
  "for", "function", "if", "implements", "import", "in", "instanceof", "interface", "let", "new",
  "null", "package", "private", "protected", "public", "return", "static", "super", "switch",
  "this", "throw", "true", "try", "typeof", "var", "void", "while", "with", "yield",
  "exports", "module", "require"]

/-- A word as the name of a variable. -/
def name? (s : String) : Option String := if s ∈ reservedWords then none else some s

/-- Read names with commas between them up to the closing brace, and what follows it. -/
def readNames : List Token → Option (List String × List Token)
  | .name s :: .sign '\x7d' :: rest => (name? s).map fun n => ([n], rest)
  | .name s :: .sign ',' :: rest => do
    let n ← name? s
    let (names, rest) ← readNames rest
    return (n :: names, rest)
  | _ => none

/-- Read where a value comes from. -/
def readSource : List Token → Option Source
  | [.name s] => (name? s).map .named
  | [.name s, .sign '(', .text file, .sign ')'] =>
    if s = "require" then some (.required file) else none
  | _ => none

/-- Read the rest of a sentence that starts with `export`. -/
def readExport : List Token → Option Statement
  | [.name s, .name n] => if s = "default" then (name? n).map .exportDefault else none
  | .sign '\x7b' :: rest =>
    match readNames rest with
    | some (names, []) => some (.exportNames names)
    | _ => none
  | _ => none

/-- Read the names that are imported, after the default, and the file. -/
def readImportNames (defaultName : Option String) (rest : List Token) : Option Statement :=
  match readNames rest with
  | some (names, [.name s, .text file]) =>
    if s = "from" then some (.importFrom defaultName names file) else none
  | _ => none

/-- Read the rest of a sentence that starts with `import`. -/
def readImport : List Token → Option Statement
  | [.text file] => some (.importFrom none [] file)
  | [.name d, .name s, .text file] =>
    if s = "from" then (name? d).map fun d => .importFrom (some d) [] file else none
  | .name d :: .sign ',' :: .sign '\x7b' :: rest =>
    (name? d).bind fun d => readImportNames (some d) rest
  | .sign '\x7b' :: rest => readImportNames none rest
  | _ => none

/-- Read the rest of a sentence that starts with `const`. -/
def readConstant : List Token → Option Statement
  | .name s :: .sign '=' :: rest => do
    let n ← name? s
    let source ← readSource rest
    return .constant n source
  | .sign '\x7b' :: rest =>
    match readNames rest with
    | some (names, .sign '=' :: rest) => (readSource rest).map (.unpack names)
    | _ => none
  | _ => none

/-- Read a sentence. -/
def Statement.read? : List Token → Option Statement
  | [.name "exports", .sign '.', .name key, .sign '=', .name value] => do
    return .setExport (← name? key) (← name? value)
  | [.name "module", .sign '.', .name "exports", .sign '=', .name value] =>
    (name? value).map .replaceExports
  | [.name "require", .sign '(', .text file, .sign ')'] => some (.load file)
  | .name "export" :: rest => readExport rest
  | .name "import" :: rest => readImport rest
  | .name "const" :: rest => readConstant rest
  | _ => none

/-- Read a text, sentence by sentence. -/
def readStatements (text : String) : Option (List Statement) :=
  (sentences (tokens false text.toList)).mapM Statement.read?

/-! ## Names -/

/-- Texts that are read as one word. -/
def IsWord (s : String) : Prop := s.toList ≠ [] ∧ ∀ c ∈ s.toList, isNamePart c = true

instance : DecidablePred IsWord := fun s =>
  @instDecidableAnd _ _ inferInstance (List.decidableBAll _ s.toList)

/-- The names that variables can have. -/
structure IsName (s : String) : Prop where
  word : IsWord s
  not_reserved : s ∉ reservedWords

instance : DecidablePred IsName := fun s =>
  decidable_of_iff (IsWord s ∧ s ∉ reservedWords) ⟨fun h => ⟨h.1, h.2⟩, fun h => ⟨h.1, h.2⟩⟩

/-- Files that stand for themselves between quotes. -/
def IsFile (s : String) : Prop := ∀ c ∈ s.toList, isSpecialInQuotes c = false

instance : DecidablePred IsFile := fun s => List.decidableBAll _ s.toList

lemma IsName.name?_eq {s : String} (h : IsName s) : name? s = some s := if_neg h.not_reserved

/-! ## Reading tokens -/

section Tokens

variable {c : Char} {rest : List Char}

lemma tokens_blank (hc : isBlank c = true) (hsign : isSign c = false) (hquote : c ≠ '"') :
    tokens false (c :: rest) = tokens false rest := by
  simp [tokens, hquote, hsign, hc]

lemma tokens_namePart (hc : isNamePart c = true) : tokens false (c :: rest) =
    if rest.head?.any isNamePart then consName c (tokens false rest)
    else .name (String.ofList [c]) :: tokens false rest := by
  obtain ⟨⟨hblank, hsign⟩, hquote⟩ : (isBlank c = false ∧ isSign c = false) ∧ c ≠ '"' := by
    simpa [isNamePart] using hc
  simp [tokens, hquote, hsign, hblank]

/-- A word ends at the first character that is no part of a name. -/
lemma tokens_word {s : String} (hs : IsWord s) (hc : isNamePart c = false) :
    tokens false (s.toList ++ c :: rest) = .name s :: tokens false (c :: rest) := by
  obtain ⟨hne, hparts⟩ := hs
  suffices hlist : ∀ cs : List Char, cs ≠ [] → (∀ d ∈ cs, isNamePart d = true) →
      tokens false (cs ++ c :: rest) = .name (String.ofList cs) :: tokens false (c :: rest) by
    simpa using hlist s.toList hne hparts
  intro cs hne hparts
  induction cs with
  | nil => exact absurd rfl hne
  | cons d cs ih =>
    rw [List.cons_append, tokens_namePart (hparts d (by simp))]
    cases cs with
    | nil => simp [hc]
    | cons e cs =>
      rw [ih (by simp) fun x hx => hparts x (by simp [hx])]
      simp [hparts e (by simp), consName]

/-- A file between quotes is read as a string literal. -/
lemma tokens_quoted {s : String} (hs : IsFile s) :
    tokens false ('"' :: (s.toList ++ '"' :: rest)) = .text s :: tokens false rest := by
  suffices hlist : ∀ cs : List Char, (∀ d ∈ cs, isSpecialInQuotes d = false) →
      tokens true (cs ++ '"' :: rest) = .text (String.ofList cs) :: tokens false rest by
    simpa [tokens] using hlist s.toList hs
  intro cs hcs
  induction cs with
  | nil => simp [tokens]
  | cons d cs ih =>
    have hd : isSpecialInQuotes d = false := hcs d (by simp)
    have hquote : d ≠ '"' := by
      rintro rfl
      exact absurd hd (by decide)
    rw [List.cons_append, tokens, ih fun x hx => hcs x (by simp [hx])]
    simp [hquote, hd, consText]

lemma tokens_replicate (hc : isBlank c = true) (hsign : isSign c = false) (hquote : c ≠ '"')
    (n : Nat) : tokens false (List.replicate n c ++ rest) = tokens false rest := by
  induction n with
  | zero => rfl
  | succ n ih => rw [List.replicate_succ, List.cons_append, tokens_blank hc hsign hquote, ih]

/-- Indentation is skipped. -/
lemma tokens_pad (i : Indentation) (level : Nat) :
    tokens false ((i.pad level).toList ++ rest) = tokens false rest := by
  rw [Indentation.pad, String.toList_ofList, Indentation.mark]
  cases i.style <;> exact tokens_replicate (by decide) (by decide) (by decide) _

end Tokens

lemma sentences_append {ts : List Token} (hts : .sign ';' ∉ ts) (rest : List Token) :
    sentences (ts ++ .sign ';' :: rest) = ts :: sentences rest := by
  induction ts with
  | nil => simp [sentences]
  | cons t ts ih =>
    obtain ⟨ht, hts⟩ : .sign ';' ≠ t ∧ .sign ';' ∉ ts := by simpa using hts
    rw [List.cons_append, sentences, if_neg ht.symm, ih hts, consHead]

/-! ## Writing statements -/

/-- The text of a source. -/
def Source.text : Source → String
  | .named name => name
  | .required file => "require(\"" ++ file ++ "\")"

/-- The tokens of a source. -/
def Source.tokens : Source → List Token
  | .named name => [.name name]
  | .required file => [.name "require", .sign '(', .text file, .sign ')']

/-- The tokens of names with commas between them and a brace behind them. -/
def nameTokens : List String → List Token
  | [] => [.sign '\x7d']
  | [n] => [.name n, .sign '\x7d']
  | n :: names => .name n :: .sign ',' :: nameTokens names

namespace Statement

/-- The pieces of the line of a statement. -/
def pieces : Statement → List String
  | setExport key value => ["exports.", key, " = ", value, ";"]
  | replaceExports value => ["module.exports = ", value, ";"]
  | exportNames names => ["export ", braced names, ";"]
  | exportDefault name => ["export default ", name, ";"]
  | importFrom none [] file => ["import ", "\"", file, "\";"]
  | importFrom (some d) [] file => ["import ", d, " from ", "\"", file, "\";"]
  | importFrom none names file => ["import ", braced names, " from ", "\"", file, "\";"]
  | importFrom (some d) names file =>
    ["import ", d, ", ", braced names, " from ", "\"", file, "\";"]
  | constant name source => ["const ", name, " = ", source.text, ";"]
  | unpack names source => ["const ", braced names, " = ", source.text, ";"]
  | load file => [(Source.required file).text, ";"]

/-- The line of a statement. -/
def line (st : Statement) : String := String.join st.pieces

/-- The tokens of a statement, up to the semicolon. -/
def sentence : Statement → List Token
  | setExport key value => [.name "exports", .sign '.', .name key, .sign '=', .name value]
  | replaceExports value =>
    [.name "module", .sign '.', .name "exports", .sign '=', .name value]
  | exportNames names => .name "export" :: .sign '\x7b' :: nameTokens names
  | exportDefault name => [.name "export", .name "default", .name name]
  | importFrom none [] file => [.name "import", .text file]
  | importFrom (some d) [] file => [.name "import", .name d, .name "from", .text file]
  | importFrom none names file =>
    .name "import" :: .sign '\x7b' :: (nameTokens names ++ [.name "from", .text file])
  | importFrom (some d) names file =>
    .name "import" :: .name d :: .sign ',' :: .sign '\x7b' ::
      (nameTokens names ++ [.name "from", .text file])
  | constant name source => .name "const" :: .name name :: .sign '=' :: source.tokens
  | unpack names source =>
    .name "const" :: .sign '\x7b' :: (nameTokens names ++ .sign '=' :: source.tokens)
  | load file => [.name "require", .sign '(', .text file, .sign ')']

end Statement

/-! ## Reading back what is written -/

/-- A text has the given tokens, whatever follows it. -/
def Lexes (text : List Char) (ts : List Token) : Prop :=
  ∀ rest, tokens false (text ++ rest) = ts ++ tokens false rest

namespace Lexes

variable {text more : List Char} {ts us : List Token}

lemma append (h : Lexes text ts) (h' : Lexes more us) : Lexes (text ++ more) (ts ++ us) := by
  intro rest
  rw [List.append_assoc, h, h', List.append_assoc]

/-- A word in front of a text that does not go on with it. -/
lemma word {s : String} {c : Char} (h : Lexes text ts) (hs : IsWord s)
    (hhead : text.head? = some c) (hc : isNamePart c = false) :
    Lexes (s.toList ++ text) (.name s :: ts) := by
  intro rest
  obtain ⟨text, rfl⟩ := List.head?_eq_some_iff.1 hhead
  rw [List.append_assoc, List.cons_append, tokens_word hs hc, ← List.cons_append, h,
    List.cons_append]

/-- A file between quotes. -/
lemma quoted {s : String} (h : Lexes text ts) (hs : IsFile s) :
    Lexes ('"' :: (s.toList ++ '"' :: text)) (.text s :: ts) := by
  intro rest
  rw [List.cons_append, List.append_assoc, List.cons_append, tokens_quoted hs, h,
    List.cons_append]

end Lexes

/-- Names between braces. -/
lemma lexes_braced {names : List String} (hne : names ≠ []) (hnames : ∀ n ∈ names, IsName n) :
    Lexes (braced names).toList (.sign '\x7b' :: nameTokens names) := by
  have hopen : Lexes "\x7b ".toList [.sign '\x7b'] := fun _ => rfl
  have hclose : Lexes " \x7d".toList [.sign '\x7d'] := fun _ => rfl
  have hcomma : Lexes ", ".toList [.sign ','] := fun _ => rfl
  have hlist : Lexes ((joinWith ", " names).toList ++ " \x7d".toList) (nameTokens names) := by
    induction names with
    | nil => exact absurd rfl hne
    | cons n names ih =>
      have hn : IsWord n := (hnames n (by simp)).word
      cases names with
      | nil => simpa [joinWith, nameTokens] using hclose.word hn rfl (by decide)
      | cons m names =>
        have hrest := ih (by simp) fun k hk => hnames k (by simp [hk])
        simpa [joinWith, nameTokens] using (hcomma.append hrest).word hn rfl (by decide)
  simpa [braced] using hopen.append hlist

/-- Whether the parts of a source can be read back. -/
def Source.IsReadable : Source → Prop
  | .named name => IsName name
  | .required file => IsFile file

lemma Source.IsReadable.lexes {source : Source} (h : source.IsReadable) :
    Lexes (source.text.toList ++ ";".toList) (source.tokens ++ [.sign ';']) := by
  cases source with
  | named name =>
    have hend : Lexes ";".toList [.sign ';'] := fun _ => rfl
    exact hend.word h.word rfl (by decide)
  | required file =>
    have hcall : Lexes "require(".toList [.name "require", .sign '('] := fun _ => rfl
    have hend : Lexes ");".toList [.sign ')', .sign ';'] := fun _ => rfl
    simpa [text, Source.tokens] using hcall.append (hend.quoted h)

namespace Statement

/-- Whether the parts of a statement can be read back. -/
def IsReadable : Statement → Prop
  | setExport key value => IsName key ∧ IsName value
  | replaceExports value => IsName value
  | exportNames names => names ≠ [] ∧ ∀ n ∈ names, IsName n
  | exportDefault name => IsName name
  | importFrom defaultName names file =>
    (∀ d ∈ defaultName, IsName d) ∧ (∀ n ∈ names, IsName n) ∧ IsFile file
  | constant name source => IsName name ∧ source.IsReadable
  | unpack names source => (names ≠ [] ∧ ∀ n ∈ names, IsName n) ∧ source.IsReadable
  | load file => IsFile file

/-- The line of a statement has its tokens. -/
lemma IsReadable.lexes {st : Statement} (h : st.IsReadable) :
    Lexes st.line.toList (st.sentence ++ [.sign ';']) := by
  have hend : Lexes ";".toList [.sign ';'] := fun _ => rfl
  have hequals : Lexes " = ".toList [.sign '='] := fun _ => rfl
  have hconst : Lexes "const ".toList [.name "const"] := fun _ => rfl
  have hexport : Lexes "export ".toList [.name "export"] := fun _ => rfl
  have himport : Lexes "import ".toList [.name "import"] := fun _ => rfl
  have hfrom : Lexes " from ".toList [.name "from"] := fun _ => rfl
  cases st with
  | setExport key value =>
    obtain ⟨hkey, hvalue⟩ := h
    have hexports : Lexes "exports.".toList [.name "exports", .sign '.'] := fun _ => rfl
    simpa [line, pieces, sentence] using hexports.append
      ((hequals.append (hend.word hvalue.word rfl (by decide))).word hkey.word rfl (by decide))
  | replaceExports value =>
    have hmodule : Lexes "module.exports = ".toList
      [.name "module", .sign '.', .name "exports", .sign '='] := fun _ => rfl
    simpa [line, pieces, sentence] using hmodule.append (hend.word h.word rfl (by decide))
  | exportNames names =>
    simpa [line, pieces, sentence] using (hexport.append (lexes_braced h.1 h.2)).append hend
  | exportDefault name =>
    have hdefault : Lexes "export default ".toList [.name "export", .name "default"] :=
      fun _ => rfl
    simpa [line, pieces, sentence] using hdefault.append (hend.word h.word rfl (by decide))
  | importFrom defaultName names file =>
    obtain ⟨hdefault, hnames, hfile⟩ := h
    have hcomma : Lexes ", ".toList [.sign ','] := fun _ => rfl
    have hsource := hfrom.append (hend.quoted hfile)
    cases defaultName with
    | none =>
      cases names with
      | nil => simpa [line, pieces, sentence] using himport.append (hend.quoted hfile)
      | cons n names =>
        simpa [line, pieces, sentence] using
          (himport.append (lexes_braced (by simp) hnames)).append hsource
    | some d =>
      have hd : IsWord d := (hdefault d rfl).word
      cases names with
      | nil =>
        simpa [line, pieces, sentence] using himport.append (hsource.word hd rfl (by decide))
      | cons n names =>
        simpa [line, pieces, sentence] using himport.append
          ((hcomma.append ((lexes_braced (by simp) hnames).append hsource)).word hd rfl (by decide))
  | constant name source =>
    obtain ⟨hname, hsource⟩ := h
    simpa [line, pieces, sentence] using
      hconst.append ((hequals.append hsource.lexes).word hname.word rfl (by decide))
  | unpack names source =>
    obtain ⟨⟨hne, hnames⟩, hsource⟩ := h
    simpa [line, pieces, sentence] using
      (hconst.append (lexes_braced hne hnames)).append (hequals.append hsource.lexes)
  | load file =>
    have hsource : (Source.required file).IsReadable := h
    have hcall := hsource.lexes
    simpa [line, pieces, sentence, Source.tokens] using hcall

end Statement

lemma readNames_nameTokens {names : List String} (hne : names ≠ [])
    (hnames : ∀ n ∈ names, IsName n) (rest : List Token) :
    readNames (nameTokens names ++ rest) = some (names, rest) := by
  induction names with
  | nil => exact absurd rfl hne
  | cons n names ih =>
    have hn : name? n = some n := (hnames n (by simp)).name?_eq
    cases names with
    | nil => simp [nameTokens, readNames, hn]
    | cons m names =>
      have hrest := ih (by simp) fun k hk => hnames k (by simp [hk])
      simp [nameTokens, readNames, hn, hrest]

lemma Source.IsReadable.readSource_tokens {source : Source} (h : source.IsReadable) :
    readSource source.tokens = some source := by
  cases source with
  | named name => simp [tokens, readSource, IsName.name?_eq h]
  | required file => simp [tokens, readSource]

namespace Statement

/-- The sentence of a statement is read as the statement. -/
lemma IsReadable.read?_sentence {st : Statement} (h : st.IsReadable) :
    read? st.sentence = some st := by
  cases st with
  | setExport key value => simp [sentence, read?, h.1.name?_eq, h.2.name?_eq]
  | replaceExports value => simp [sentence, read?, IsName.name?_eq h]
  | exportNames names =>
    have hread := readNames_nameTokens h.1 h.2 []
    rw [List.append_nil] at hread
    simp [sentence, read?, readExport, hread]
  | exportDefault name => simp [sentence, read?, readExport, IsName.name?_eq h]
  | importFrom defaultName names file =>
    obtain ⟨hdefault, hnames, -⟩ := h
    cases defaultName with
    | none =>
      cases names with
      | nil => simp [sentence, read?, readImport]
      | cons n names =>
        have hread := readNames_nameTokens (by simp) hnames [.name "from", .text file]
        simp [sentence, read?, readImport, readImportNames, hread]
    | some d =>
      have hd : name? d = some d := (hdefault d rfl).name?_eq
      cases names with
      | nil => simp [sentence, read?, readImport, hd]
      | cons n names =>
        have hread := readNames_nameTokens (by simp) hnames [.name "from", .text file]
        simp [sentence, read?, readImport, readImportNames, hd, hread]
  | constant name source =>
    simp [sentence, read?, readConstant, h.1.name?_eq, h.2.readSource_tokens]
  | unpack names source =>
    have hread := readNames_nameTokens h.1.1 h.1.2 (.sign '=' :: source.tokens)
    simp [sentence, read?, readConstant, hread, h.2.readSource_tokens]
  | load file => simp [sentence, read?]

end Statement

lemma semicolon_notMem_nameTokens (names : List String) : .sign ';' ∉ nameTokens names := by
  induction names with
  | nil => decide
  | cons n names ih => cases names <;> simp_all [nameTokens]

lemma Statement.semicolon_notMem_sentence (st : Statement) : .sign ';' ∉ st.sentence := by
  have hnames := semicolon_notMem_nameTokens
  have hsource : ∀ source : Source, .sign ';' ∉ source.tokens := by
    rintro (name | file) <;> simp [Source.tokens]
  cases st with
  | importFrom defaultName names file =>
    cases defaultName <;> cases names <;> simp [sentence, hnames]
  | exportNames | constant | unpack => simp [sentence, hnames, hsource]
  | _ => simp [sentence]

/-- The lines of statements, at any indentation, are read back as the statements. -/
theorem readStatements_render {statements : List Statement}
    (h : ∀ st ∈ statements, st.IsReadable) (i : Indentation) (level : Nat) :
    readStatements (Code.render i level (statements.map fun st => .line st.line)) =
      some statements := by
  rw [readStatements]
  induction statements with
  | nil => rfl
  | cons st statements ih =>
    have hst := h st (by simp)
    have hrest := ih fun st' hst' => h st' (by simp [hst'])
    have hlines : (Code.render i level
        ((st :: statements).map fun st => .line st.line)).toList =
          (i.pad level).toList ++ (st.line.toList ++ '\n' ::
            (Code.render i level (statements.map fun st => .line st.line)).toList) := by
      simp [Code.render, Code.texts, Step.text, Step.next]
    rw [hlines, tokens_pad, hst.lexes, tokens_blank (by decide) (by decide) (by decide),
      List.append_assoc, List.singleton_append, sentences_append st.semicolon_notMem_sentence,
      List.mapM_cons, hst.read?_sentence, hrest]
    rfl

end Modelsmith.Linking
