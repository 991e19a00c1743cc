/-
# Comments from descriptions

A description becomes a block comment, one line after the other.  The comment ends with the mark
that closes it.  Any other mark in it comes from the description: taking the description apart
into lines loses none, and neither the signs in front of a line nor the line feeds make a new
one.
-/
import Mathlib.Data.List.Infix
import Modelsmith.Target.TypeScriptForms

namespace Modelsmith.TypeScript

open Modelsmith.Text

/-! ## Closing marks -/

/-- The mark that closes a block comment. -/
def closingMark : List Char := ['*', '/']

/-- The number of places at which a closing mark stands in a text. -/
def closings : List Char → Nat
  | [] => 0
  | c :: rest => (closingMark.isPrefixOf (c :: rest)).toNat + closings rest

@[simp] lemma closings_nil : closings [] = 0 := rfl

/-- Whether a mark starts at a character depends on the next character only. -/
lemma closings_cons (c : Char) (rest : List Char) :
    closings (c :: rest) = (c == '*' && rest.head? == some '/').toNat + closings rest := by
  have hmark : closingMark.isPrefixOf (c :: rest) = (c == '*' && rest.head? == some '/') := by
    cases rest with
    | nil => simp [closingMark, List.isPrefixOf]
    | cons d rest => simp [closingMark, List.isPrefixOf, Bool.beq_comm (a := '*'),
        Bool.beq_comm (a := '/')]
  rw [closings, hmark]

lemma closings_cons_of_ne {c : Char} (hc : c ≠ '*') (rest : List Char) :
    closings (c :: rest) = closings rest := by
  simp [closings_cons, hc]

/-- A text that does not start with a slash completes no mark of the text in front of it. -/
lemma closings_append {t : List Char} (ht : t.head? ≠ some '/') (s : List Char) :
    closings (s ++ t) = closings s + closings t := by
  induction s with
  | nil => simp
  | cons c s ih =>
    have hhead : ((s ++ t).head? == some '/') = (s.head? == some '/') := by
      cases s with
      | nil => simpa using ht
      | cons d s => simp
    rw [List.cons_append, closings_cons, closings_cons, ih, hhead, Nat.add_assoc]

lemma closings_eq_zero_iff (s : List Char) : closings s = 0 ↔ ¬ closingMark <:+: s := by
  induction s with
  | nil => simp [closingMark]
  | cons c s ih =>
    rw [closings, Nat.add_eq_zero_iff, ih, List.infix_cons_iff, ← List.isPrefixOf_iff_prefix,
      Bool.toNat_eq_zero, ← Bool.not_eq_true, not_or]

/-! ## Lines -/

/-- The first line starts with a slash if and only if the text does. -/
lemma head?_lineList (s : List Char) :
    ((lineList s).head?.bind List.head? == some '/') = (s.head? == some '/') := by
  cases s with
  | nil => rfl
  | cons c s =>
    rw [lineList]
    split_ifs with hfeed hreturn
    · simp [hfeed]
    · -- a line feed follows, so that the first line is empty
      obtain ⟨hc, hnext⟩ : c = '\r' ∧ s.head? = some '\n' := by simpa using hreturn
      cases s with
      | nil => simp at hnext
      | cons d s =>
        obtain rfl : d = '\n' := by simpa using hnext
        simp [lineList, hc]
    · cases lineList s <;> simp [consHead]

/-- The number of closing marks in lines. -/
def lineClosings : List (List Char) → Nat
  | [] => 0
  | line :: lines => closings line + lineClosings lines

lemma lineClosings_consHead (c : Char) (lines : List (List Char)) :
    lineClosings (consHead c lines) =
      (c == '*' && lines.head?.bind List.head? == some '/').toNat + lineClosings lines := by
  cases lines with
  | nil => simp [consHead, lineClosings, closings_cons]
  | cons first rest => simp [consHead, lineClosings, closings_cons, Nat.add_assoc]

/-- Every mark of a text stands in one of its lines. -/
lemma lineClosings_lineList (s : List Char) : lineClosings (lineList s) = closings s := by
  induction s with
  | nil => rfl
  | cons c s ih =>
    rw [lineList]
    split_ifs with hfeed hreturn
    · rw [lineClosings, ih, closings_cons_of_ne (by simp [hfeed]), closings_nil, Nat.zero_add]
    · have hc : c = '\r' := by simp_all
      rw [ih, closings_cons_of_ne (by simp [hc])]
    · rw [lineClosings_consHead, head?_lineList, ih, closings_cons]

/-! ## The comment -/

/-- A line of the comment. -/
def commentLine (line : List Char) : List Char :=
  ' ' :: '*' :: (if line.isEmpty then [] else ' ' :: line) ++ ['\n']

lemma closings_commentLine_append (line rest : List Char) :
    closings (commentLine line ++ rest) = closings line + closings rest := by
  have hfeed : closings (line ++ '\n' :: rest) = closings line + closings rest := by
    rw [closings_append (by simp), closings_cons_of_ne (by decide)]
  by_cases h : line.isEmpty
  · obtain rfl : line = [] := by simpa using h
    simp [commentLine, closings_cons]
  · simp [commentLine, h, closings_cons, hfeed]

lemma closings_commentLines (lines : List (List Char)) :
    closings (lines.flatMap commentLine ++ " */".toList) = lineClosings lines + 1 := by
  induction lines with
  | nil => rfl
  | cons line lines ih =>
    rw [List.flatMap_cons, List.append_assoc, closings_commentLine_append, ih, lineClosings,
      Nat.add_assoc]

lemma toList_docLine (line : List Char) :
    (Step.docLine Indentation.standard 0 " *" (String.ofList line)).toList = commentLine line := by
  by_cases h : line.isEmpty
  · obtain rfl : line = [] := by simpa using h
    rfl
  · have hne : line ≠ [] := by simpa using h
    simp [Step.docLine, Indentation.pad, commentLine, h, hne]

lemma toList_docComment (description : String) :
    (docComment description).toList =
      "/**\n".toList ++ (lineList description.toList).flatMap commentLine ++ " */".toList := by
  have hlines : (String.join ((lines description).map
      (Step.docLine Indentation.standard 0 " *"))).toList =
        (lineList description.toList).flatMap commentLine := by
    simp [lines, List.flatMap_map, toList_docLine]
  have htrim : ∀ front : List Char, dropTrailing (· == '\n') (front ++ " */\n".toList) =
      front ++ " */".toList := by
    intro front
    simp [dropTrailing]
  have htext : Code.render Indentation.standard 0
      [.line "/**", .doc " *" description, .line " */"] = "/**\n" ++ String.join
        ((lines description).map (Step.docLine Indentation.standard 0 " *")) ++ " */\n" := by
    simp [Code.render, Code.texts, Step.text, Step.next, Indentation.pad, String.append_assoc]
  rw [docComment, Code.renderTrimmed, htext, trimLineFeeds, String.toList_ofList,
    String.toList_append, htrim, String.toList_append, hlines]

/-- A comment from a description ends with a closing mark, and before it there are as many as
the description has.  So it is closed exactly once, at its very end, if and only if the
description has no closing mark. -/
theorem closings_docComment (description : String) :
    closingMark <:+ (docComment description).toList ∧
      closings (docComment description).toList = closings description.toList + 1 ∧
      (closings (docComment description).toList = 1 ↔
        ¬ closingMark <:+: description.toList) := by
  have hcount : closings (docComment description).toList = closings description.toList + 1 := by
    rw [toList_docComment, List.append_assoc, ← lineClosings_lineList description.toList,
      ← closings_commentLines]
    simp [closings_cons]
  refine ⟨?_, hcount, ?_⟩
  · rw [toList_docComment]
    exact List.suffix_append_of_suffix ⟨[' '], rfl⟩
  · rw [hcount, Nat.add_eq_right, closings_eq_zero_iff]

/-- A description that closes its comment: what follows the mark is no longer a comment. -/
theorem closings_docComment_broken :
    docComment "a */ b" = "/**\n * a */ b\n */" ∧ closings (docComment "a */ b").toList = 2 := by
  decide +kernel

end Modelsmith.TypeScript
