/-
# Wire names as string literals

The names that data has on the wire stand in attributes of the generated Rust code, between
quotes.  What a string literal means there is told by a reader of literals that takes one
character at a time.  It gives back every name without control characters; line feeds, carriage
returns and tabs are control characters with an escape that both sides know.
-/
import Mathlib.Data.Option.Basic
import Modelsmith.Number.Digits
import Modelsmith.Target.RustForms

namespace Modelsmith.Rust

/-! ## Reading a literal -/

/-- Where a reader is in a literal. -/
inductive LiteralMode where
  /-- Among characters that stand for themselves. -/
  | plain
  /-- After a backslash. -/
  | escape
  /-- After the mark of a byte and its first digit, if that has been read. -/
  | byte (high : Option Nat)
  /-- After the mark of a code point, before the brace. -/
  | brace
  /-- Inside the braces of a code point, after some digits. -/
  | codePoint (value digits : Nat)
  /-- In the blank space after a backslash at the end of a line. -/
  | gap
  /-- After the closing quote. -/
  | closed
deriving DecidableEq, Repr

namespace LiteralMode

/-- A character among those that stand for themselves: the mode after it, and what it adds. -/
def stepPlain (c : Char) : Option (LiteralMode × List Char) :=
  if c = '"' then some (closed, [])
  else if c = '\\' then some (escape, [])
  else if c = '\r' then none
  else some (plain, [c])

/-- The character after a backslash. -/
def stepEscape : Char → Option (LiteralMode × List Char)
  | 'n' => some (plain, ['\n'])
  | 'r' => some (plain, ['\r'])
  | 't' => some (plain, ['\t'])
  | '\\' => some (plain, ['\\'])
  | '0' => some (plain, ['\x00'])
  | '\'' => some (plain, ['\''])
  | '"' => some (plain, ['"'])
  | 'x' => some (byte none, [])
  | 'u' => some (brace, [])
  | '\n' => some (gap, [])
  | _ => none

/-- A digit of a byte.  Two digits write a number below 128. -/
def stepByte (high : Option Nat) (c : Char) : Option (LiteralMode × List Char) := do
  let digit ← Digits.value? c
  match high with
  | none => if digit < 8 then some (byte (some digit), []) else none
  | some high => some (plain, [Char.ofNat (16 * high + digit)])

/-- A character inside the braces of a code point: one to six digits, with underscores after
the first one, write the number of a character. -/
def stepCodePoint (value digits : Nat) (c : Char) : Option (LiteralMode × List Char) :=
  if c = '\x7d' then
    if 0 < digits ∧ value.isValidChar then some (plain, [Char.ofNat value]) else none
  else if c = '_' then
    if 0 < digits then some (codePoint value digits, []) else none
  else do
    let digit ← Digits.value? c
    if digits < 6 then some (codePoint (16 * value + digit) (digits + 1), []) else none

/-- The mode after one more character, and the characters that it adds to the text. -/
def step : LiteralMode → Char → Option (LiteralMode × List Char)
  | plain, c => stepPlain c
  | escape, c => stepEscape c
  | byte high, c => stepByte high c
  | brace, c => if c = '\x7b' then some (codePoint 0 0, []) else none
  | codePoint value digits, c => stepCodePoint value digits c
  | gap, c => if c ∈ [' ', '\t', '\n', '\r'] then some (gap, []) else stepPlain c
  | closed, _ => none

/-- The text of the rest of a literal. -/
def read : LiteralMode → List Char → Option (List Char)
  | closed, [] => some []
  | _, [] => none
  | mode, c :: rest => do
    let (mode, added) ← mode.step c
    let text ← mode.read rest
    return added ++ text

end LiteralMode

/-- The text that a string literal writes, if it is one. -/
def readLiteral (literal : String) : Option String :=
  match literal.toList with
  | '"' :: rest => (LiteralMode.plain.read rest).map String.ofList
  | _ => none

example : readLiteral "\"\\x41\\u\x7b1_F600\x7d\\\n  \\0'\"" = some "A😀\x00'" := by decide +kernel

/-! ## Names in attributes -/

/-- Whether a character has an escape that is known on both sides, or needs none. -/
def IsWritable (c : Char) : Prop := 0x20 ≤ c.toNat ∨ c ∈ ['\n', '\r', '\t']

instance : DecidablePred IsWritable := fun _ => inferInstanceAs (Decidable (_ ∨ _))

/-- Texts of writable characters. -/
def AreWritable (s : List Char) : Prop := ∀ c ∈ s, IsWritable c

instance : DecidablePred AreWritable := fun s => List.decidableBAll _ s

@[simp] lemma areWritable_cons {c : Char} {s : List Char} :
    AreWritable (c :: s) ↔ IsWritable c ∧ AreWritable s :=
  List.forall_mem_cons

namespace LiteralMode

/-- Reading goes on with the mode that a step leads to. -/
lemma read_cons {mode next : LiteralMode} {c : Char} {added : List Char}
    (h : mode.step c = some (next, added)) (rest : List Char) :
    mode.read (c :: rest) = (next.read rest).map (added ++ ·) := by
  simp [read, h, Option.map_eq_bind]

lemma read_cons_of_none {mode : LiteralMode} {c : Char} (h : mode.step c = none)
    (rest : List Char) : mode.read (c :: rest) = none := by
  simp [read, h]

/-- After a backslash the reader takes an escape. -/
lemma read_backslash (rest : List Char) : plain.read ('\\' :: rest) = escape.read rest := by
  rw [read_cons (show plain.step '\\' = some (escape, []) from rfl)]
  simp

/-- An escape of one letter. -/
lemma read_letter {letter c : Char} (h : escape.step letter = some (plain, [c]))
    (rest : List Char) :
    plain.read ('\\' :: letter :: rest) = (plain.read rest).map (c :: ·) := by
  rw [read_backslash, read_cons h]
  rfl

/-- A character that stands for itself. -/
lemma read_plain {c : Char} (hquote : c ≠ '"') (hescape : c ≠ '\\') (hreturn : c ≠ '\r')
    (rest : List Char) : plain.read (c :: rest) = (plain.read rest).map (c :: ·) := by
  have hstep : plain.step c = some (plain, [c]) := by
    simp [step, stepPlain, hquote, hescape, hreturn]
  exact read_cons hstep rest

/-- One character of a name is read back, or there is no literal. -/
lemma read_escapeChar (c : Char) (rest : List Char) :
    plain.read (Json.escapeChar c ++ rest) =
      if IsWritable c then (plain.read rest).map (c :: ·) else none := by
  unfold Json.escapeChar
  split
  case h_3 | h_4 =>
    -- a backspace and a form feed have escapes that literals do not know
    rw [if_neg (by decide)]
    exact (read_backslash _).trans (read_cons_of_none rfl _)
  case h_8 hquote hescape _ _ hfeed hreturn htab =>
    by_cases hcontrol : c.toNat < 0x20
    · -- the number of a control character is not written between braces
      have hnot : ¬ IsWritable c := by
        simpa [IsWritable] using ⟨hcontrol, hfeed, hreturn, htab⟩
      rw [if_pos hcontrol, if_neg hnot]
      exact (read_backslash _).trans <|
        (read_cons (show escape.step 'u' = some (brace, []) from rfl) _).trans
          (congrArg _ (read_cons_of_none rfl _))
    · rw [if_neg hcontrol, if_pos (.inl (Nat.not_lt.1 hcontrol))]
      exact read_plain hquote hescape hreturn rest
  all_goals
    rw [if_pos (by decide)]
    exact read_letter rfl rest

/-- A whole name is read back if all of its characters are writable, and otherwise there is no
literal. -/
lemma read_escaped (name : List Char) :
    plain.read (name.flatMap Json.escapeChar ++ ['"']) =
      if AreWritable name then some name else none := by
  induction name with
  | nil => rfl
  | cons c name ih =>
    rw [List.flatMap_cons, List.append_assoc, read_escapeChar, ih]
    by_cases hc : IsWritable c
    · by_cases hname : AreWritable name <;> simp [hc, hname]
    · simp [hc]

end LiteralMode

/-- Every name is written between quotes so that its literal is read back as the name, if it has
no control characters other than line feeds, carriage returns and tabs; with any other control
character, it is not written as a literal. -/
theorem readLiteral_quote (name : String) :
    readLiteral (Json.quote name) =
      if AreWritable name.toList then some name else none := by
  have hquote :
      (Json.quote name).toList = '"' :: (name.toList.flatMap Json.escapeChar ++ ['"']) := by
    simp [Json.quote]
  rw [readLiteral, hquote]
  simp only [LiteralMode.read_escaped]
  split <;> simp

/-- A backspace in the name of a property: the attribute of its field holds no literal. -/
theorem readLiteral_backspace :
    serdeLine [renameArgument "a\x08b"] = "#[serde(rename = \"a\\bb\")]" ∧
      Json.quote "a\x08b" = "\"a\\bb\"" ∧ readLiteral (Json.quote "a\x08b") = none := by
  decide +kernel

end Modelsmith.Rust
