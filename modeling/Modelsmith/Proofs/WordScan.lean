/-
# Scanning for words

The words of a text can be found in one scan from its first place to its last.  The scan keeps
the characters of the word that it is in; at a capital letter inside of a word it looks at the
place before and at the place after, to decide whether a new word starts there.  It never looks at
a place that the text does not have, and it finds the words of the text: all its alphanumeric
characters in their order, cut at the places that the rule for capital letters tells.
-/
import Modelsmith.Proofs.Naming.Letters

namespace Modelsmith.Text

/-! ## The words from a character on -/

section Words

variable {c : Char} {rest : List Char}

lemma words_cons_of_other (hc : isAlphanumeric c = false) : words (c :: rest) = words rest := by
  simp [words, hc]

lemma words_cons_of_last (hc : isAlphanumeric c = true) (hlast : continuesWord c rest = false) :
    words (c :: rest) = [c] :: words rest := by
  simp [words, hc, hlast]

lemma words_cons_of_more (hc : isAlphanumeric c = true) (hmore : continuesWord c rest = true) :
    words (c :: rest) = consHead c (words rest) := by
  simp [words, hc, hmore]

lemma words_ne_nil (hc : isAlphanumeric c = true) : words (c :: rest) ≠ [] := by
  intro h
  have hflat := flatten_words (c :: rest)
  rw [h, List.filter_cons_of_pos hc] at hflat
  cases hflat

end Words

lemma startsWord_eq_true_iff {a b : Char} {after : List Char} :
    startsWord a b after = true ↔ isUppercase b = true ∧ (isLowercase a = true ∨
      isNumeric a = true ∨ isUppercase a = true ∧ ∃ c, after.head? = some c ∧
        isLowercase c = true) := by
  simp [startsWord, Option.any_eq_true, or_assoc]

/-! ## The word of a character -/

/-- The number of the group that holds the element with number `k` of all groups together. -/
def groupOf {α : Type} : List (List α) → Nat → Nat
  | [], _ => 0
  | group :: groups, k =>
    if k < group.length then 0 else groupOf groups (k - group.length) + 1

section GroupOf

variable {α : Type} (a : α) (groups : List (List α)) (k : Nat)

@[simp] lemma groupOf_singleton_cons_zero : groupOf ([a] :: groups) 0 = 0 := by
  simp [groupOf]

@[simp] lemma groupOf_singleton_cons_succ :
    groupOf ([a] :: groups) (k + 1) = groupOf groups k + 1 := by
  simp [groupOf]

@[simp] lemma groupOf_consHead_zero : groupOf (consHead a groups) 0 = 0 := by
  cases groups <;> simp [consHead, groupOf]

variable {groups}

lemma groupOf_consHead_succ (h : groups ≠ []) :
    groupOf (consHead a groups) (k + 1) = groupOf groups k := by
  cases groups with
  | nil => exact absurd rfl h
  | cons group groups => simp [consHead, groupOf]

end GroupOf

/-- Neighbours are in different words if and only if a word starts at the second one. -/
lemma groupOf_words_ne_iff (before : List Char) {a b : Char} (after : List Char)
    (ha : isAlphanumeric a = true) (hb : isAlphanumeric b = true) :
    groupOf (words (before ++ a :: b :: after)) (before.countP isAlphanumeric) ≠
        groupOf (words (before ++ a :: b :: after)) (before.countP isAlphanumeric + 1) ↔
      startsWord a b after = true := by
  induction before with
  | nil =>
    rw [List.nil_append, List.countP_nil]
    cases hstarts : startsWord a b after with
    | true =>
      have hlast : continuesWord a (b :: after) = false := by simp [continuesWord, hstarts]
      simp [words_cons_of_last ha hlast]
    | false =>
      have hmore : continuesWord a (b :: after) = true := by simp [continuesWord, hb, hstarts]
      have hne : words (b :: after) ≠ [] := words_ne_nil hb
      obtain ⟨w, ws, hwords⟩ := List.exists_cons_of_ne_nil hne
      -- the first word from `b` on is not empty, so that `b` is in it
      have hmem : w ∈ words (b :: after) := by simp [hwords]
      have hw : w ≠ [] := ne_nil_of_mem_words hmem
      rw [words_cons_of_more ha hmore, groupOf_consHead_zero, groupOf_consHead_succ _ _ hne, hwords]
      simp [groupOf, List.length_pos_of_ne_nil hw]
  | cons c before ih =>
    rw [List.cons_append]
    cases hc : isAlphanumeric c with
    | false => rw [words_cons_of_other hc, List.countP_cons_of_neg (by simp [hc]), ih]
    | true =>
      rw [List.countP_cons_of_pos hc]
      cases hmore : continuesWord c (before ++ a :: b :: after) with
      | false => simpa [words_cons_of_last hc hmore] using ih
      | true =>
        have hne : words (before ++ a :: b :: after) ≠ [] := by
          intro h
          have hflat := flatten_words (before ++ a :: b :: after)
          simp [h, ha] at hflat
        rw [words_cons_of_more hc hmore, groupOf_consHead_succ _ _ hne,
          groupOf_consHead_succ _ _ hne, ih]

/-! ## The scan -/

/-- What a scan has come to. -/
structure Scan where
  /-- The words that are complete. -/
  found : List (List Char) := []
  /-- The characters of the word that the scan is in. -/
  current : List Char := []

namespace Scan

/-- Complete the word that the scan is in. -/
def flush (s : Scan) : Scan := if s.current.isEmpty then s else ⟨s.found ++ [s.current], []⟩

/-- Add a character to the word that the scan is in. -/
def push (s : Scan) (c : Char) : Scan := { s with current := s.current ++ [c] }

/-- The character at the place before `i`. -/
def before? (text : List Char) : Nat → Option Char
  | 0 => none
  | i + 1 => text[i]?

/-- The scan after the place `i`.  There is none if the scan has to look at a place that the text
does not have; whether there is a place after `i` may be asked. -/
def step (text : List Char) (s : Scan) (i : Nat) : Option Scan :=
  match text[i]? with
  | none => none
  | some c =>
    if !isAlphanumeric c then some s.flush
    else if isUppercase c && !s.current.isEmpty then
      match before? text i with
      | none => none
      | some b =>
        if isLowercase b || isNumeric b || (isUppercase b && text[i + 1]?.any isLowercase) then
          some (s.flush.push c)
        else some (s.push c)
    else some (s.push c)

/-- The words that a scan of the whole text finds. -/
def run (text : List Char) : Option (List (List Char)) :=
  ((List.range text.length).foldlM (step text) {}).map (·.flush.found)

/-- The words found and those still to come are the words of the text: `seen` is the part before
the scan and `rest` the part that is left.  The last character of the word that the scan is in
stands right before `rest`. -/
def Finds (s : Scan) (seen rest : List Char) : Prop :=
  (s.current = [] ∧ words (seen ++ rest) = s.found ++ words rest) ∨
    ∃ front p, s.current = front ++ [p] ∧ isAlphanumeric p = true ∧ seen.getLast? = some p ∧
      words (seen ++ rest) = s.found ++ front.foldr consHead (words (p :: rest))

lemma foldr_consHead (front w : List Char) (ws : List (List Char)) :
    front.foldr consHead (w :: ws) = (front ++ w) :: ws := by
  induction front with
  | nil => rfl
  | cons c front ih => rw [List.foldr_cons, ih, consHead, List.cons_append]

section Step

variable {s : Scan} {seen rest : List Char} {c p : Char}

lemma step_of_other (hc : isAlphanumeric c = false) :
    step (seen ++ c :: rest) s seen.length = some s.flush := by
  simp [step, hc]

lemma step_of_empty (hc : isAlphanumeric c = true) (hs : s.current = []) :
    step (seen ++ c :: rest) s seen.length = some (s.push c) := by
  simp [step, hc, hs]

/-- Inside of a word, the place before has a character. -/
lemma step_of_current (hc : isAlphanumeric c = true) (hs : s.current ≠ [])
    (hp : seen.getLast? = some p) : step (seen ++ c :: rest) s seen.length =
      some (if startsWord p c rest then s.flush.push c else s.push c) := by
  obtain ⟨seen, rfl⟩ := List.getLast?_eq_some_iff.1 hp
  have hbefore : before? (seen ++ [p] ++ c :: rest) (seen ++ [p]).length = some p := by
    simp [before?]
  have hafter : (seen ++ [p] ++ c :: rest)[(seen ++ [p]).length + 1]? = rest.head? := by
    rw [List.getElem?_append_right (by omega), Nat.add_sub_cancel_left, List.getElem?_cons_succ,
      List.head?_eq_getElem?]
  simp only [step, List.getElem?_append_right (Nat.le_refl _), Nat.sub_self,
    List.getElem?_cons_zero, hc, hbefore, hafter]
  cases hupper : isUppercase c
  · simp [startsWord, hupper]
  · simp only [startsWord, hupper, List.isEmpty_eq_false_iff.2 hs]
    simp only [Bool.not_true, Bool.not_false, Bool.true_and, Bool.false_eq_true, if_true, if_false]
    split <;> rfl

/-- One place: the scan goes on, and it is on the way to the same words. -/
lemma Finds.step (h : s.Finds seen (c :: rest)) :
    ∃ s', Scan.step (seen ++ c :: rest) s seen.length = some s' ∧ s'.Finds (seen ++ [c]) rest := by
  have hsplit : seen ++ [c] ++ rest = seen ++ c :: rest := by simp
  rcases h with ⟨hs, hwords⟩ | ⟨front, p, hs, hp, hlast, hwords⟩
  · cases hc : isAlphanumeric c with
    | false =>
      refine ⟨_, step_of_other hc, .inl ⟨by simp [flush, hs], ?_⟩⟩
      rw [hsplit, hwords, words_cons_of_other hc]
      simp [flush, hs]
    | true =>
      refine ⟨_, step_of_empty hc hs, .inr ⟨[], c, by simp [push, hs], hc, by simp, ?_⟩⟩
      rw [hsplit, hwords]
      rfl
  · have hne : s.current ≠ [] := by simp [hs]
    have hflush : s.flush = ⟨s.found ++ [front ++ [p]], []⟩ := by simp [flush, hs]
    cases hc : isAlphanumeric c with
    | false =>
      -- the word ends before `c`
      have hcut : continuesWord p (c :: rest) = false := by simp [continuesWord, hc]
      refine ⟨_, step_of_other hc, .inl ⟨by simp [hflush], ?_⟩⟩
      rw [hsplit, hwords, words_cons_of_last hp hcut, words_cons_of_other hc, foldr_consHead,
        hflush]
      simp
    | true =>
      refine ⟨_, step_of_current hc hne hlast, .inr ?_⟩
      cases hstarts : startsWord p c rest with
      | true =>
        have hcut : continuesWord p (c :: rest) = false := by simp [continuesWord, hstarts]
        refine ⟨[], c, by simp [push, hflush], hc, by simp, ?_⟩
        rw [hsplit, hwords, words_cons_of_last hp hcut, foldr_consHead]
        simp [push, hflush]
      | false =>
        have hmore : continuesWord p (c :: rest) = true := by simp [continuesWord, hc, hstarts]
        refine ⟨front ++ [p], c, by simp [push, hs], hc, by simp, ?_⟩
        rw [hsplit, hwords, words_cons_of_more hp hmore]
        simp [push]

/-- A scan that has come to the end has found all words. -/
lemma Finds.flush_found (h : s.Finds seen []) : s.flush.found = words seen := by
  rcases h with ⟨hs, hwords⟩ | ⟨front, p, hs, hp, -, hwords⟩
  · rw [List.append_nil, words, List.append_nil] at hwords
    simp [flush, hs, hwords]
  · rw [List.append_nil, words_cons_of_last hp rfl, foldr_consHead, words] at hwords
    simp [flush, hs, hwords]

/-- All places that are left. -/
lemma Finds.run (h : s.Finds seen rest) :
    ∃ s', (List.range' seen.length rest.length).foldlM (Scan.step (seen ++ rest)) s = some s' ∧
      s'.Finds (seen ++ rest) [] := by
  induction rest generalizing s seen with
  | nil => exact ⟨s, rfl, by rwa [List.append_nil]⟩
  | cons c rest ih =>
    obtain ⟨next, hstep, hnext⟩ := h.step
    obtain ⟨last, hrun, hlast⟩ := ih hnext
    rw [List.append_assoc, List.singleton_append] at hrun hlast
    refine ⟨last, ?_, hlast⟩
    rw [List.length_cons, List.range'_succ, List.foldlM_cons, hstep]
    simpa using hrun

end Step

/-- A scan finds the words of every text, without a look at a place that is not there. -/
lemma run_eq (text : List Char) : run text = some (words text) := by
  have hstart : Finds {} [] text := .inl ⟨rfl, rfl⟩
  obtain ⟨s, hrun, hs⟩ := hstart.run
  rw [List.nil_append] at hrun hs
  rw [run, List.range_eq_range']
  exact (congrArg _ hrun).trans (congrArg some hs.flush_found)

end Scan

/-- The words of a text are not empty and have all its alphanumeric characters, in their order,
so that the number of a character in the words is the number of such characters before it.  Two of
them that are neighbours in the text are in different words if and only if the second one is a
capital letter after a small letter or a number, or between a capital and a small letter.  A scan
that looks one place back and one place ahead finds these words without leaving the text. -/
theorem words_boundaries (text : List Char) :
    (∀ w ∈ words text, w ≠ [] ∧ ∀ c ∈ w, isAlphanumeric c = true) ∧
      (words text).flatten = text.filter isAlphanumeric ∧
      (∀ before a b after, text = before ++ a :: b :: after →
        isAlphanumeric a = true → isAlphanumeric b = true →
          (groupOf (words text) (before.countP isAlphanumeric) ≠
              groupOf (words text) (before.countP isAlphanumeric + 1) ↔
            isUppercase b = true ∧ (isLowercase a = true ∨ isNumeric a = true ∨
              isUppercase a = true ∧ ∃ c, after.head? = some c ∧ isLowercase c = true))) ∧
      Scan.run text = some (words text) := by
  refine ⟨?_, flatten_words text, ?_, Scan.run_eq text⟩
  · intro w hw
    exact ⟨ne_nil_of_mem_words hw, fun c hc => (mem_of_mem_words hw hc).2⟩
  · rintro before a b after rfl ha hb
    rw [groupOf_words_ne_iff before after ha hb, startsWord_eq_true_iff]

/-- The last capital of an acronym starts a word. -/
theorem words_boundaries_acronym :
    ("HTTPServer".toList = "HTT".toList ++ 'P' :: 'S' :: "erver".toList ∧
        isAlphanumeric 'P' = true ∧ isAlphanumeric 'S' = true) ∧
      groupOf (words "HTTPServer".toList) 3 ≠ groupOf (words "HTTPServer".toList) 4 := by
  have hacronym := (words_boundaries "HTTPServer".toList).2.2.1 "HTT".toList 'P' 'S'
    "erver".toList rfl (by decide) (by decide)
  exact ⟨⟨rfl, by decide, by decide⟩,
    hacronym.2 ⟨by decide, .inr (.inr ⟨by decide, 'e', rfl, by decide⟩)⟩⟩

end Modelsmith.Text
