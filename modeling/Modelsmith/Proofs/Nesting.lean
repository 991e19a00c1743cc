/-
# Nested code

Code that has been rendered can be put into other code, every line of it at the current level.
Taking the text apart into lines must find the lines that were written, and each of them then
gets the signs of the outer level in front of those of its own.  So rendering in two stages is
rendering once, at the sum of the two levels.
-/
import Mathlib.Data.List.Basic
import Modelsmith.Layout.Code

namespace Modelsmith

/-! ## Lines of a text -/

namespace Text

/-- What stands before the first line feed is the first line.  It must not end with a carriage
return, which would be taken for a part of the line end. -/
lemma lineList_append {line : List Char} (hfeed : '\n' ∉ line)
    (hreturn : line.getLast? ≠ some '\r') (rest : List Char) :
    lineList (line ++ '\n' :: rest) = line :: lineList rest := by
  induction line with
  | nil => rfl
  | cons c line ih =>
    obtain ⟨hc, hline⟩ : '\n' ≠ c ∧ '\n' ∉ line := by simpa using hfeed
    -- a carriage return at `c` has a character of the line after it
    have hkept : ¬ (c = '\r' ∧ (line ++ '\n' :: rest).head? = some '\n') := by
      rintro ⟨rfl, hhead⟩
      cases line with
      | nil => exact hreturn rfl
      | cons d line =>
        obtain rfl : d = '\n' := by simpa using hhead
        exact hline List.mem_cons_self
    have hrest : line.getLast? ≠ some '\r' := by
      cases line with
      | nil => simp
      | cons d line => rwa [List.getLast?_cons_cons] at hreturn
    rw [List.cons_append, lineList, if_neg hc.symm, if_neg (by simpa using hkept),
      ih hline hrest, consHead]

lemma lines_append {line : String} (hfeed : '\n' ∉ line.toList)
    (hreturn : line.toList.getLast? ≠ some '\r') (rest : String) :
    lines (line ++ "\n" ++ rest) = line :: lines rest := by
  have htext : (line ++ "\n" ++ rest).toList = line.toList ++ '\n' :: rest.toList := by
    simp
  rw [lines, htext, lineList_append hfeed hreturn, List.map_cons, String.ofList_toList, lines]

lemma lines_feed (rest : String) : lines ("\n" ++ rest) = "" :: lines rest := by
  have hempty : lines ("" ++ "\n" ++ rest) = "" :: lines rest :=
    lines_append (by simp) (by simp) rest
  rwa [String.empty_append] at hempty

end Text

/-! ## Levels -/

lemma Indentation.pad_add (i : Indentation) (a b : Nat) :
    i.pad (a + b) = i.pad a ++ i.pad b := by
  rw [pad, Nat.add_mul, List.replicate_add, String.ofList_append]
  rfl

lemma Indentation.feed_notMem_pad (i : Indentation) (level : Nat) :
    '\n' ∉ (i.pad level).toList := by
  have hmark : i.mark ≠ '\n' := by
    unfold mark
    split <;> decide
  intro hmem
  rw [pad, String.toList_ofList] at hmem
  exact hmark (List.eq_of_mem_replicate hmem).symm

namespace Code

/-- The level after a list of steps. -/
def levelAfter (level : Nat) (steps : List Step) : Nat := steps.foldl Step.next level

section Render

variable (i : Indentation) (level : Nat)

lemma render_nil : render i level [] = "" := rfl

lemma render_cons (s : Step) (rest : List Step) :
    render i level (s :: rest) = s.text i level ++ render i (s.next level) rest := by
  rw [render, texts, String.join_cons]
  rfl

lemma render_line (text : String) (rest : List Step) :
    render i level (.line text :: rest) = i.pad level ++ text ++ "\n" ++ render i level rest :=
  render_cons i level _ rest

lemma render_blank (rest : List Step) :
    render i level (.blank :: rest) = "\n" ++ render i level rest :=
  render_cons i level _ rest

lemma render_indent (rest : List Step) :
    render i level (.indent :: rest) = render i (level + 1) rest := by
  rw [render_cons, Step.text, String.empty_append, Step.next]

lemma render_dedent (rest : List Step) :
    render i level (.dedent :: rest) = render i (level - 1) rest := by
  rw [render_cons, Step.text, String.empty_append, Step.next]

/-- What is written after some steps depends on them by their level only. -/
lemma render_append (steps rest : List Step) :
    render i level (steps ++ rest) =
      render i level steps ++ render i (levelAfter level steps) rest := by
  induction steps generalizing level with
  | nil => simp [render_nil, levelAfter]
  | cons s steps ih =>
    rw [List.cons_append, render_cons, ih, render_cons, String.append_assoc]
    rfl

end Render

end Code

/-! ## Lines of code -/

/-- A text that is one line of code: something in it can be seen, it has no line feed, and it does
not end with a carriage return. -/
structure IsCodeLine (text : String) : Prop where
  isVisible : ∃ c ∈ text.toList, Text.isBlank c = false
  noFeed : '\n' ∉ text.toList
  noReturn : text.toList.getLast? ≠ some '\r'

instance (text : String) : Decidable (IsCodeLine text) :=
  -- the search goes through the text, not through all characters
  have : Decidable (∃ c ∈ text.toList, Text.isBlank c = false) := List.decidableBEx _ text.toList
  decidable_of_iff ((∃ c ∈ text.toList, Text.isBlank c = false) ∧ '\n' ∉ text.toList ∧
      text.toList.getLast? ≠ some '\r')
    ⟨fun h => ⟨h.1, h.2.1, h.2.2⟩, fun h => ⟨h.1, h.2, h.3⟩⟩

lemma IsCodeLine.isBlankText_append {text : String} (h : IsCodeLine text) (front : String) :
    Text.isBlankText (front ++ text) = false := by
  obtain ⟨c, hc, hblank⟩ := h.isVisible
  rw [Text.isBlankText, List.all_eq_false]
  exact ⟨c, by simp [hc], by simp [hblank]⟩

/-- The signs in front of a line of code belong to the line. -/
lemma IsCodeLine.lines_append {text : String} (h : IsCodeLine text) {front : String}
    (hfront : '\n' ∉ front.toList) (rest : String) :
    Text.lines (front ++ text ++ "\n" ++ rest) = (front ++ text) :: Text.lines rest := by
  refine Text.lines_append ?_ ?_ rest
  · rw [String.toList_append, List.mem_append]
    rintro (hmem | hmem)
    · exact hfront hmem
    · exact h.noFeed hmem
  · obtain ⟨c, hc, -⟩ := h.isVisible
    rw [String.toList_append, List.getLast?_append_of_ne_nil _ (List.ne_nil_of_mem hc)]
    exact h.noReturn

namespace Step

variable (i : Indentation) (a b : Nat) (rest : String)

/-- A line of code, written at one level and put into other code at another one. -/
lemma text_lines_line {text : String} (h : IsCodeLine text) :
    (lines (i.pad b ++ text ++ "\n" ++ rest)).text i a =
      i.pad (a + b) ++ text ++ "\n" ++ (lines rest).text i a := by
  have hnested : nestedLine i a (i.pad b ++ text) = i.pad (a + b) ++ text ++ "\n" := by
    rw [nestedLine, h.isBlankText_append, i.pad_add]
    simp only [Bool.false_eq_true, if_false, String.append_assoc]
  rw [Step.text, h.lines_append (i.feed_notMem_pad b), List.map_cons, String.join_cons, hnested]
  rfl

/-- An empty line stays empty. -/
lemma text_lines_blank : (lines ("\n" ++ rest)).text i a = "\n" ++ (lines rest).text i a := by
  have hempty : nestedLine i a "" = "\n" := rfl
  rw [Step.text, Text.lines_feed, List.map_cons, String.join_cons, hempty]
  rfl

end Step

/-! ## Code in code -/

namespace Code

/-- Steps that write lines of code and empty lines.  They begin `depth` levels above the level where
the code starts, and never go back below that one. -/
inductive Nests : Nat → List Step → Prop where
  | nil {depth : Nat} : Nests depth []
  | line {depth : Nat} {text : String} {rest : List Step} :
      IsCodeLine text → Nests depth rest → Nests depth (.line text :: rest)
  | blank {depth : Nat} {rest : List Step} : Nests depth rest → Nests depth (.blank :: rest)
  | indent {depth : Nat} {rest : List Step} :
      Nests (depth + 1) rest → Nests depth (.indent :: rest)
  | dedent {depth : Nat} {rest : List Step} :
      Nests depth rest → Nests (depth + 1) (.dedent :: rest)

/-- The lines of a rendered text are those that its steps wrote, and at a further level they
become what the steps write there. -/
lemma Nests.text_lines {depth : Nat} {steps : List Step} (h : Nests depth steps)
    (i : Indentation) (a b : Nat) :
    (Step.lines (render i (b + depth) steps)).text i a = render i (a + (b + depth)) steps := by
  induction h with
  | nil => rfl
  | line htext _ ih =>
    rw [render_line, render_line, Step.text_lines_line i a _ _ htext, ih]
  | blank _ ih =>
    rw [render_blank, render_blank, Step.text_lines_blank, ih]
  | indent _ ih =>
    rw [render_indent, render_indent]
    exact ih
  | dedent _ ih =>
    -- the level is above the one where the code starts, so that there is one to go back
    rw [render_dedent, render_dedent]
    exact ih

/-- A rendered text is put into other code, line by line.  This writes what the steps of the text
write at the sum of the two levels, if they never go back below the level where they start; the
other code is written as if the text were not there. -/
theorem render_nested (i : Indentation) (level b : Nat) (before after : List Step)
    {steps : List Step} (h : Nests 0 steps) :
    render i level (before ++ .lines (render i b steps) :: after) =
      render i level before ++ render i (levelAfter level before + b) steps ++
        render i (levelAfter level before) after := by
  have hnested : (Step.lines (render i b steps)).text i (levelAfter level before) =
      render i (levelAfter level before + b) steps := h.text_lines i _ b
  rw [render_append, render_cons, hnested, String.append_assoc]
  rfl

/-- A block with an empty line in it and a carriage return in the middle of a line. -/
theorem render_nested_block :
    Nests 0 [.line "begin", .indent, .line "a\rb;", .blank, .dedent, .line "end"] ∧
      render .standard 0 ([.line "outer", .indent] ++
          .lines (render .standard 1
            [.line "begin", .indent, .line "a\rb;", .blank, .dedent, .line "end"]) ::
          [.dedent, .line "done"]) =
        "outer\n    begin\n      a\rb;\n\n    end\ndone\n" := by
  have hblock : Nests 0 [.line "begin", .indent, .line "a\rb;", .blank, .dedent, .line "end"] :=
    .line (by decide +kernel) (.indent (.line (by decide +kernel) (.blank (.dedent
      (.line (by decide +kernel) .nil)))))
  refine ⟨hblock, ?_⟩
  rw [render_nested .standard 0 1 _ _ hblock]
  decide +kernel

/-- Going back below the level of the code goes back to the outer level in one stage, but not in
two. -/
example :
    render .standard 1 [.lines (render .standard 0 [.dedent, .line "x"])] = "  x\n" ∧
      render .standard 1 [.dedent, .line "x"] = "x\n" := by
  decide +kernel

end Code

end Modelsmith
