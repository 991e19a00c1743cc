/-
# Candidates for names

Repairing a raw name gives a candidate whose spelling is a name: it is not empty, starts with
no digit and is not reserved.  The mark is a word of its own, so that a marked candidate needs
no further repair; this holds for every convention that reserves no word with the mark at its
start.
-/
import Modelsmith.Naming.Convention
import Modelsmith.Proofs.Naming.Spelling

namespace Modelsmith.Naming

open Modelsmith.Text

/-! ## Sanitized texts -/

/-- A text without special characters to replace. -/
def IsClean (s : String) : Prop := ∀ c ∈ s.toList, replacement? [' ', '-', '_'] c = none

instance (s : String) : Decidable (IsClean s) := List.decidableBAll _ s.toList

lemma IsClean.append {s t : String} (hs : IsClean s) (ht : IsClean t) : IsClean (s ++ t) := by
  intro c hc
  rw [String.toList_append, List.mem_append] at hc
  exact hc.elim (hs c) (ht c)

/-- A text with nothing to replace is one segment. -/
lemma segments_eq_singleton {keep cs : List Char} (hne : cs ≠ [])
    (hcs : ∀ c ∈ cs, replacement? keep c = none) : segments keep cs = [cs] := by
  induction cs with
  | nil => exact absurd rfl hne
  | cons c cs ih =>
    rw [segments, hcs c (by simp)]
    cases cs with
    | nil => rfl
    | cons d cs =>
      have hd : replacement? keep d = none := hcs d (by simp)
      have hrec := ih (by simp) fun e he => hcs e (by simp [he])
      simp [hd, hrec, consHead]

lemma flatten_consHead {α : Type} (a : α) (groups : List (List α)) :
    (consHead a groups).flatten = a :: groups.flatten := by
  cases groups <;> rfl

/-- The word of a special character is in the table. -/
lemma mem_specialWords {keep : List Char} {c : Char} {word : String}
    (h : replacement? keep c = some word) : (c, word) ∈ specialWords := by
  unfold replacement? specialWord? at h
  split at h
  · simp at h
  · split at h
    · simp at h
    · obtain ⟨before, after, htable, -⟩ := List.lookup_eq_some_iff.1 h
      simp [htable]

/-- A character of a segment is one of the text that stays or one of the word of a special
character. -/
lemma mem_of_mem_segments {keep cs : List Char} {x : Char} (h : x ∈ (segments keep cs).flatten) :
    (x ∈ cs ∧ replacement? keep x = none) ∨ ∃ entry ∈ specialWords, x ∈ entry.2.toList := by
  induction cs with
  | nil => simp [segments] at h
  | cons c cs ih =>
    have hrest : x ∈ (segments keep cs).flatten →
        (x ∈ c :: cs ∧ replacement? keep x = none) ∨
          ∃ entry ∈ specialWords, x ∈ entry.2.toList := by
      intro hx
      exact (ih hx).imp_left fun ⟨hmem, hnone⟩ => ⟨List.mem_cons_of_mem c hmem, hnone⟩
    rw [segments] at h
    split at h
    · next word hword =>
      rw [List.flatten_cons, List.mem_append] at h
      rcases h with hx | hx
      · exact .inr ⟨_, mem_specialWords hword, hx⟩
      · exact hrest hx
    · next hnone =>
      have hcons : x ∈ c :: (segments keep cs).flatten := by
        split at h
        · rwa [flatten_consHead] at h
        · exact h
      rcases List.mem_cons.1 hcons with rfl | hx
      · exact .inl ⟨by simp, hnone⟩
      · exact hrest hx

/-- A character of a sanitized text is an underscore between segments, one of the text that
stays, or one of the word of a special character. -/
lemma mem_sanitize {s : String} {x : Char} (h : x ∈ (sanitize s).toList) :
    x = '_' ∨ (x ∈ s.toList ∧ replacement? [' ', '-', '_'] x = none) ∨
      ∃ entry ∈ specialWords, x ∈ entry.2.toList := by
  rw [sanitize, replaceSpecial, String.toList_ofList] at h
  cases hs : segments [' ', '-', '_'] s.toList with
  | nil => simp [hs] at h
  | cons first rest =>
    have hflatten : x = '_' ∨ x ∈ (segments [' ', '-', '_'] s.toList).flatten := by
      rw [hs, show "_".toList = ['_'] from rfl, CaseStyle.intercalate_cons] at h
      simp only [List.mem_append, List.mem_flatMap, List.mem_cons] at h
      rw [hs]
      rcases h with hx | ⟨group, hgroup, rfl | hx⟩
      · exact .inr (by simp [hx])
      · exact .inl rfl
      · exact .inr (by simpa using .inr ⟨group, hgroup, hx⟩)
    exact hflatten.imp_right mem_of_mem_segments

lemma specialWords_clean : ∀ entry ∈ specialWords, IsClean entry.2 := by
  decide +kernel

lemma sanitize_isClean (s : String) : IsClean (sanitize s) := by
  intro c hc
  rcases mem_sanitize hc with rfl | ⟨-, hnone⟩ | ⟨entry, hentry, hmem⟩
  · decide
  · exact hnone
  · exact specialWords_clean entry hentry c hmem

lemma sanitize_of_isClean {s : String} (hs : IsClean s) : sanitize s = s := by
  rw [sanitize, replaceSpecial]
  by_cases hne : s.toList = []
  · obtain rfl : s = "" := String.toList_eq_nil_iff.1 hne
    rfl
  · rw [segments_eq_singleton hne hs, List.intercalate_singleton, String.ofList_toList]

/-! ## Marks -/

lemma isPlain_reserved : IsPlain "reserved".toList := by decide +kernel

lemma isPlain_number : IsPlain "number".toList := by decide +kernel

lemma isClean_reserved : IsClean "reserved_" := by decide +kernel

lemma isClean_number : IsClean "number_" := by decide +kernel

lemma isClean_empty : IsClean "empty" := by decide +kernel

lemma toList_mark (s : String) : (mark s).toList = "reserved".toList ++ '_' :: s.toList := by
  rw [mark, String.toList_append]
  rfl

lemma sameIgnoringCase_iff {s t : List Char} :
    sameIgnoringCase s t = true ↔ s.map Char.toLower = t.map Char.toLower := by
  fun_induction sameIgnoringCase s t with
  | case1 => simp
  | case2 c s d t ih => simp [ih]
  | case3 s t hnil hcons =>
    cases s with
    | nil => simpa [eq_comm] using hnil rfl
    | cons c s =>
      cases t with
      | nil => simp
      | cons d t => exact absurd rfl (hcons c s d t rfl)

namespace Convention

/-- A convention that reserves no word with the mark at its start. -/
def SparesMark (c : Convention) : Prop :=
  ∀ word ∈ c.reserved, ¬ "reserved".toList <+: word.toList.map Char.toLower

instance (c : Convention) : Decidable c.SparesMark :=
  inferInstanceAs (Decidable (∀ word ∈ c.reserved, _))

/-- What a name has to be: not empty, without a digit at its start, and not reserved. -/
structure IsName (c : Convention) (name : String) : Prop where
  ne_empty : name ≠ ""
  no_digit : name.toList.head?.any Char.isDigit = false
  not_reserved : c.isReserved name = false

variable {c : Convention} {role : Role}

lemma isReserved_iff {name : String} : c.isReserved name = true ↔
    ∃ word ∈ c.reserved, word.toList.map Char.toLower = name.toList.map Char.toLower := by
  rw [isReserved, isKeyword, if_pos rfl, List.any_eq_true]
  refine exists_congr fun word => and_congr_right fun _ => ?_
  rw [Bool.and_eq_true, sameIgnoringCase_iff, beq_iff_eq, and_iff_right_iff_imp]
  intro hsame
  simpa [String.length_toList] using congrArg List.length hsame

lemma isReserved_of_prefix (hc : c.SparesMark) {name : String}
    (hname : "reserved".toList <+: name.toList.map Char.toLower) : c.isReserved name = false := by
  rw [Bool.eq_false_iff]
  intro hreserved
  obtain ⟨word, hword, hsame⟩ := isReserved_iff.1 hreserved
  exact hc word hword (hsame ▸ hname)

/-- A plain word in front of a text is spelled first. -/
lemma toList_apply_plain (style : CaseStyle) {p : List Char} (hp : IsPlain p) {s : String}
    {rest : List Char} (hs : s.toList = p ++ '_' :: rest) :
    (style.apply s).toList = style.first p ++ (words rest).flatMap style.further := by
  rw [CaseStyle.apply, String.toList_ofList, hs, words_plain_append hp, CaseStyle.spell_cons]

lemma toList_apply_mark (style : CaseStyle) (s : String) :
    (style.apply (mark s)).toList =
      style.first "reserved".toList ++ (words s.toList).flatMap style.further :=
  toList_apply_plain style isPlain_reserved (toList_mark s)

/-- The spelling of a marked text is a name. -/
lemma isName_mark (hc : c.SparesMark) (style : CaseStyle) (s : String) :
    c.IsName (style.apply (mark s)) := by
  have hfirst : style.first "reserved".toList ≠ [] ∧
      (style.first "reserved".toList).head?.any Char.isDigit = false ∧
      (style.first "reserved".toList).map Char.toLower = "reserved".toList := by
    cases style <;> decide
  obtain ⟨hne, hdigit, hlower⟩ := hfirst
  refine ⟨fun hempty => ?_, ?_, isReserved_of_prefix hc ?_⟩
  · have hnil := toList_apply_mark style s
    rw [hempty] at hnil
    exact hne (List.append_eq_nil_iff.1 hnil.symm).1
  · rw [toList_apply_mark, List.head?_append_of_ne_nil _ hne, hdigit]
  · rw [toList_apply_mark, List.map_append, hlower]
    exact List.prefix_append _ _

/-- Every mark makes the spelling longer. -/
lemma length_apply_mark (style : CaseStyle) (s : String) :
    (style.apply s).length < (style.apply (mark s)).length := by
  have hfirst : 2 < (style.first "reserved".toList).length := by cases style <;> decide
  have hlt := style.length_spell_lt_cons hfirst (words s.toList)
  rw [← words_plain_append isPlain_reserved, ← toList_mark] at hlt
  simpa [CaseStyle.apply] using hlt

/-! ## Repairs -/

/-- A text with nothing to sanitize, for conventions that sanitize. -/
def IsSound (c : Convention) (s : String) : Prop := c.sanitizes = true → IsClean s

lemma IsSound.append {s t : String} (hs : IsClean s) (ht : c.IsSound t) : c.IsSound (s ++ t) :=
  fun hc => hs.append (ht hc)

lemma isSound_mark {s : String} (hs : c.IsSound s) : c.IsSound (mark s) :=
  .append isClean_reserved hs

lemma repair_isSound (s : String) : c.IsSound (c.repair role s) := by
  intro hc
  have hdigit : IsClean (noLeadingDigit (sanitize s)) := by
    unfold noLeadingDigit
    split
    · exact isClean_number.append (sanitize_isClean s)
    · exact sanitize_isClean s
  have hempty : IsClean (nonEmpty (noLeadingDigit (sanitize s))) := by
    unfold nonEmpty
    split
    · exact isClean_empty
    · exact hdigit
  simp only [repair, hc, if_true, markIf]
  split
  · exact isClean_reserved.append hempty
  · exact hempty

lemma candidate_isSound (s : String) : c.IsSound (c.candidate role s) := by
  simp only [candidate]
  split
  · exact repair_isSound _
  · split
    · exact repair_isSound _
    · exact repair_isSound _

/-- A text that is already sound, not empty and without a digit at its start is marked or left
as it is. -/
lemma repair_eq_markIf {s : String} (hs : c.IsSound s) (hne : s ≠ "")
    (hdigit : s.toList.head?.any Char.isDigit = false) :
    c.repair role s =
      markIf (fun s => c.isReserved s || c.isReserved ((c.style role).apply s)) s := by
  have hclean : (if c.sanitizes then sanitize s else s) = s := by
    split
    · next hc => exact sanitize_of_isClean (hs hc)
    · rfl
  have hne' : s.isEmpty = false := by simpa using hne
  simp [repair, hclean, noLeadingDigit, hdigit, nonEmpty, hne']

lemma markIf_cases (isReserved : String → Bool) (s : String) :
    markIf isReserved s = mark s ∨ (markIf isReserved s = s ∧ isReserved s = false) := by
  unfold markIf
  split
  · exact .inl rfl
  · next hfree => exact .inr ⟨rfl, by simpa using hfree⟩

/-- The spelling of a text that is marked if needed is a name, unless the text itself was
spelled with nothing left or with a digit at the start. -/
lemma isName_markIf (hc : c.SparesMark) {s : String}
    (hs : (c.style role).apply s ≠ "" ∧
      ((c.style role).apply s).toList.head?.any Char.isDigit = false) :
    c.IsName ((c.style role).apply
      (markIf (fun s => c.isReserved s || c.isReserved ((c.style role).apply s)) s)) := by
  rcases markIf_cases (fun s => c.isReserved s || c.isReserved ((c.style role).apply s)) s with
    hmark | ⟨hkeep, hfree⟩
  · rw [hmark]
    exact isName_mark hc _ s
  · rw [hkeep]
    exact ⟨hs.1, hs.2, (Bool.or_eq_false_iff.1 hfree).2⟩

/-- The spelling of a repaired text is a name, unless nothing of it is left or a digit comes to
its start. -/
lemma isName_repair (hc : c.SparesMark) {s : String}
    (hs : (c.style role).apply (c.repair role s) ≠ "" ∧
      ((c.style role).apply (c.repair role s)).toList.head?.any Char.isDigit = false) :
    c.IsName ((c.style role).apply (c.repair role s)) := by
  obtain ⟨t, ht⟩ : ∃ t, c.repair role s =
      markIf (fun s => c.isReserved s || c.isReserved ((c.style role).apply s)) t := ⟨_, rfl⟩
  rw [ht] at hs ⊢
  rcases markIf_cases (fun s => c.isReserved s || c.isReserved ((c.style role).apply s)) t with
    hmark | ⟨hkeep, -⟩
  · rw [hmark]
    exact isName_mark hc _ t
  · exact isName_markIf hc (hkeep ▸ hs)

/-- The spelling of every candidate is a name. -/
theorem isName_candidate (hc : c.SparesMark) (raw : String) :
    c.IsName ((c.style role).apply (c.candidate role raw)) := by
  simp only [candidate]
  split
  · have hempty : (c.style role).apply "empty" ≠ "" ∧
        ((c.style role).apply "empty").toList.head?.any Char.isDigit = false := by
      cases c.style role <;> decide
    rw [repair_eq_markIf (fun _ => isClean_empty) (by simp) (by decide)]
    exact isName_markIf hc hempty
  · next hne =>
    split
    · -- the digit at the start of the spelling gets the word `number` in front
      have hsound : c.IsSound ("number_" ++ c.repair role raw) :=
        .append isClean_number (repair_isSound raw)
      have htext : ("number_" ++ c.repair role raw).toList =
          "number".toList ++ '_' :: (c.repair role raw).toList := by
        rw [String.toList_append]
        rfl
      have hspelled := toList_apply_plain (c.style role) isPlain_number htext
      have hfirst : (c.style role).first "number".toList ≠ [] ∧
          ((c.style role).first "number".toList).head?.any Char.isDigit = false := by
        cases c.style role <;> decide
      rw [repair_eq_markIf hsound (fun hempty => by simp [hempty] at htext) (by rw [htext]; rfl)]
      refine isName_markIf hc ⟨fun hempty => ?_, ?_⟩
      · rw [hempty] at hspelled
        exact hfirst.1 (List.append_eq_nil_iff.1 hspelled.symm).1
      · rw [hspelled, List.head?_append_of_ne_nil _ hfirst.1, hfirst.2]
    · next hdigit => exact isName_repair hc ⟨by simpa using hne, by simpa using hdigit⟩

/-- A marked candidate needs no further repair. -/
lemma candidate_mark (hc : c.SparesMark) {s : String} (hs : c.IsSound s) :
    c.candidate role (mark s) = mark s := by
  have hname := isName_mark hc (c.style role) s
  have hfree : c.isReserved (mark s) = false := by
    refine isReserved_of_prefix hc ?_
    rw [toList_mark, List.map_append]
    exact List.prefix_append _ _
  have hrepair : c.repair role (mark s) = mark s := by
    have hne : mark s ≠ "" := fun hempty => by
      have hnil := toList_mark s
      simp [hempty] at hnil
    rw [repair_eq_markIf (isSound_mark hs) hne (by rw [toList_mark]; rfl), markIf,
      if_neg (by simp [hfree, hname.not_reserved])]
  have hne : ((c.style role).apply (mark s)).isEmpty = false := by simpa using hname.ne_empty
  simp [candidate, hrepair, hne, hname.no_digit]

end Convention

end Modelsmith.Naming
