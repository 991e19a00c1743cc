/-
# Capitalized words

Which words are spelled as a given name with a capital letter at its start.  The case of the
letters of a word does not matter, and hardly any character outside ASCII has a form that can
stand in such a name: a name that avoids the letters I and K in the wrong place leaves only the
long S.
-/
import Modelsmith.Proofs.Naming.Letters

namespace Modelsmith.Text

/-! ## Letters of ASCII -/

lemma ascii_of_isAlphanum {x : Char} (h : x.isAlphanum = true) : x.toNat < 0x80 := by
  simp only [Char.isAlphanum, Char.isAlpha, Char.isUpper, Char.isLower, Char.isDigit,
    Bool.or_eq_true, Bool.and_eq_true, decide_eq_true_eq, UInt32.le_iff_toNat_le] at h
  have hupper : 'Z'.val.toNat = 90 := rfl
  have hlower : 'z'.val.toNat = 122 := rfl
  have hdigit : '9'.val.toNat = 57 := rfl
  have hx : x.toNat = x.val.toNat := rfl
  omega

lemma ascii_of_isAlpha {x : Char} (h : x.isAlpha = true) : x.toNat < 0x80 :=
  ascii_of_isAlphanum (by simp [Char.isAlphanum, h])

lemma ascii_of_isLower {x : Char} (h : x.isLower = true) : x.toNat < 0x80 :=
  ascii_of_isAlpha (by simp [Char.isAlpha, h])

/-- Outside ASCII there are no capital letters for the ASCII rule to change. -/
lemma toLower_of_le {c : Char} (hc : 0x80 ≤ c.toNat) : c.toLower = c := by
  refine Char.toLower_eq_of_not_isUpper fun hupper => ?_
  have hascii := ascii_of_isAlpha (x := c) (by simp [Char.isAlpha, hupper])
  omega

/-- No upper-case form has a small letter of ASCII in it. -/
lemma isLower_of_mem_upper {c x : Char} (h : x ∈ upper c) : x.isLower = false := by
  by_contra hlower
  rw [Bool.not_eq_false] at hlower
  rcases ascii_of_mem_upper h (ascii_of_isLower hlower) with ⟨-, rfl⟩ | hupper
  · simp at hlower
  · exact Char.not_isLower_of_isUpper hupper hlower

/-! ## Type names -/

/-- A capital letter of ASCII followed by small ones.  Left out are the letters that characters
outside ASCII become in the place where they stand, except for the capital S. -/
def IsTypeName : List Char → Prop
  | [] => False
  | first :: rest =>
    first.isUpper = true ∧ first ≠ 'I' ∧ ∀ x ∈ rest, x.isLower = true ∧ x ≠ 'k'

instance (t : List Char) : Decidable (IsTypeName t) :=
  match t with
  | [] => inferInstanceAs (Decidable False)
  | _ :: rest => @instDecidableAnd _ _ inferInstance
      (@instDecidableAnd _ _ inferInstance (List.decidableBAll _ rest))

/-- Small letters of ASCII come from letters of ASCII, apart from those left out. -/
lemma flatMap_lower_eq_iff {cs rest : List Char}
    (hrest : ∀ x ∈ rest, x.isLower = true ∧ x ≠ 'k') :
    cs.flatMap lower = rest ↔ cs.map Char.toLower = rest := by
  constructor
  · rintro rfl
    rw [List.map_eq_flatMap]
    refine (List.flatMap_congr fun c hc => ?_).symm
    have hform : ∀ x ∈ lower c, x.isLower = true ∧ x ≠ 'k' := by
      intro x hx
      exact hrest x (List.mem_flatMap.2 ⟨c, hc, hx⟩)
    obtain ⟨y, hy⟩ := List.exists_mem_of_ne_nil _ (lower_ne_nil c)
    rcases lower_cases c with ⟨-, heq⟩ | hother | ⟨-, heq⟩ | ⟨-, heq⟩
    · exact heq
    · exact absurd (ascii_of_isLower (hform y hy).1) (Nat.not_lt.2 (hother y hy))
    · exact absurd (hform '\u0307' (by simp [heq])).1 (by decide)
    · exact absurd rfl (hform 'k' (by simp [heq])).2
  · rintro rfl
    rw [List.map_eq_flatMap]
    refine List.flatMap_congr fun c hc => ?_
    have hascii : c.toNat < 0x80 := by
      refine ascii_of_isAlpha ?_
      simpa using (hrest c.toLower (List.mem_map_of_mem hc)).1
    exact lower_of_ascii hascii

lemma upper_eq_iff {c first : Char} (hfirst : first.isUpper = true) (hI : first ≠ 'I') :
    upper c = [first] ↔ c.toLower = first.toLower ∨ (c = 'ſ' ∧ first = 'S') := by
  have hascii : first.toNat < 0x80 := ascii_of_isAlpha (by simp [Char.isAlpha, hfirst])
  constructor
  · intro h
    rcases upper_cases c with ⟨-, heq⟩ | hother | ⟨-, heq⟩ | ⟨rfl, heq⟩ | ⟨entry, hentry, heq⟩
    · obtain rfl : c.toUpper = first := by simpa [heq] using h
      exact .inl (by simp)
    · exact absurd (hother first (by simp [h])) (Nat.not_le.2 hascii)
    · exact absurd (by simpa [heq] using h.symm) hI
    · exact .inr ⟨rfl, by simpa [heq] using h.symm⟩
    · have hlong := (upperLong_entry entry hentry).1
      rw [h] at heq
      have hlength := congrArg List.length heq
      simp only [List.length_singleton, List.length_map] at hlength
      omega
  · rintro (h | ⟨rfl, rfl⟩)
    · have hc : c.toNat < 0x80 := by
        refine ascii_of_isAlpha ?_
        rw [← Char.isAlpha_toLower_eq_isAlpha, h]
        simp [Char.isAlpha, hfirst]
      have hupper : c.toUpper = first := by
        rw [← Char.toUpper_toLower_eq_toUpper, h, Char.toUpper_toLower_eq_toUpper]
        exact Char.toUpper_eq_of_not_isLower (Char.not_isLower_of_isUpper hfirst)
      rw [upper_of_ascii hc, hupper]
    · decide +kernel

lemma toLower_eq_longS_iff {c : Char} : c.toLower = 'ſ' ↔ c = 'ſ' := by
  constructor
  · intro h
    rcases Nat.lt_or_ge c.toNat 0x80 with hascii | hc
    · have hlower := forall_ascii (P := fun c => c.toLower ≠ 'ſ') (by decide +kernel) hascii
      exact absurd h hlower
    · rwa [toLower_of_le hc] at h
  · rintro rfl
    decide

/-- The words without capital letters that are capitalized to a type name.  The upper case of the
long S is the capital S. -/
def uncapitalized : List Char → List (List Char)
  | [] => []
  | first :: rest =>
    if first = 'S' then [first.toLower :: rest, 'ſ' :: rest] else [first.toLower :: rest]

lemma mem_uncapitalized {first : Char} {w rest : List Char} :
    w ∈ uncapitalized (first :: rest) ↔
      w = first.toLower :: rest ∨ (first = 'S' ∧ w = 'ſ' :: rest) := by
  rw [uncapitalized]
  split
  · next hS => simp [hS]
  · next hS => simp [hS]

lemma IsTypeName.exists_cons {t : List Char} (h : IsTypeName t) :
    ∃ first rest, t = first :: rest := by
  refine List.exists_cons_of_ne_nil ?_
  rintro rfl
  exact h

/-- A word is capitalized to a type name if it is one of these, up to the case of its letters. -/
lemma capitalize_eq_iff {w t : List Char} (ht : IsTypeName t) :
    capitalize w = t ↔ w.map Char.toLower ∈ uncapitalized t := by
  obtain ⟨first, rest, rfl⟩ := ht.exists_cons
  rw [mem_uncapitalized]
  obtain ⟨hfirst, hI, hrest⟩ := ht
  cases w with
  | nil => simp [capitalize]
  | cons c cs =>
    -- a long form of the first character would bring another capital letter into the name
    have hsplit : capitalize (c :: cs) = first :: rest ↔
        upper c = [first] ∧ cs.flatMap lower = rest := by
      rw [capitalize]
      constructor
      · intro h
        obtain ⟨y, ys, hform⟩ := List.exists_cons_of_ne_nil (upper_ne_nil c)
        rw [hform, List.cons_append, List.cons.injEq] at h
        obtain ⟨rfl, h⟩ := h
        obtain rfl : ys = [] := by
          refine List.eq_nil_iff_forall_not_mem.2 fun x hx => ?_
          have hlower := (hrest x (by simp [← h, hx])).1
          rw [isLower_of_mem_upper (c := c) (by simp [hform, hx])] at hlower
          cases hlower
        exact ⟨hform, h⟩
      · rintro ⟨hform, hcs⟩
        rw [hform, hcs]
        rfl
    rw [hsplit, upper_eq_iff hfirst hI, flatMap_lower_eq_iff hrest, or_and_right, List.map_cons,
      List.cons.injEq, List.cons.injEq, toLower_eq_longS_iff, and_assoc, and_left_comm]

namespace CaseStyle

/-- A spelling that is a type name is that of a single word. -/
lemma spell_pascal_eq_iff {ws : List (List Char)} (hws : ∀ w ∈ ws, w ≠ []) {t : List Char}
    (ht : IsTypeName t) : pascal.spell ws = t ↔ ∃ w, ws = [w] ∧ capitalize w = t := by
  constructor
  · rintro rfl
    match ws, hws, ht with
    | [], _, ht => exact ht.elim
    | [w], _, _ => exact ⟨w, rfl, by simp [spell]⟩
    | w :: v :: ws, hws, ht =>
      -- the second word starts with an upper-case form, where the name has small letters
      obtain ⟨c, v, rfl⟩ := List.exists_cons_of_ne_nil (hws v (by simp))
      obtain ⟨y, ys, hform⟩ := List.exists_cons_of_ne_nil (upper_ne_nil c)
      obtain ⟨x, xs, hfirst⟩ : ∃ x xs, capitalize w = x :: xs :=
        pascal.exists_first (hws w (by simp))
      have hspell : pascal.spell (w :: (c :: v) :: ws) =
          x :: (xs ++ capitalize (c :: v) ++ ws.flatMap capitalize) := by
        simp [spell, hfirst]
      rw [hspell] at ht
      have hlower := (ht.2.2 y (by simp [capitalize, hform])).1
      rw [isLower_of_mem_upper (c := c) (by simp [hform])] at hlower
      cases hlower
  · rintro ⟨w, rfl, rfl⟩
    simp [spell]

end CaseStyle

end Modelsmith.Text
