/-
# The letters of a spelling

A spelling is made of forms of the characters of its words: their lower-case and upper-case
forms and, between the words of some styles, underscores.  Outside ASCII nearly every character
has forms outside ASCII.  The exceptions are few and their forms are letters, so that the ASCII
characters of a spelling are letters, digits and underscores, whatever the text was.
-/
import Mathlib
import Modelsmith.Proofs.Naming.Candidate

namespace Modelsmith.Text

/-! ## Words -/

/-- The words of a text hold its alphanumeric characters in their order, and nothing else. -/
lemma flatten_words (cs : List Char) : (words cs).flatten = cs.filter isAlphanumeric := by
  induction cs with
  | nil => rfl
  | cons c cs ih =>
    rw [words]
    cases hc : isAlphanumeric c with
    | false => simpa [hc] using ih
    | true =>
      cases continuesWord c cs with
      | false => simp [hc, ih]
      | true => simp [hc, Naming.flatten_consHead, ih]

lemma ne_nil_of_mem_words {cs w : List Char} (h : w ∈ words cs) : w ≠ [] := by
  induction cs with
  | nil => simp [words] at h
  | cons c cs ih =>
    rw [words] at h
    split at h
    · exact ih h
    · split at h
      · cases hwords : words cs with
        | nil =>
          rw [hwords] at h
          simp only [consHead, List.mem_singleton] at h
          simp [h]
        | cons first rest =>
          rw [hwords] at h ih
          rcases List.mem_cons.1 h with rfl | hmem
          · simp
          · exact ih (List.mem_cons_of_mem _ hmem)
      · rcases List.mem_cons.1 h with rfl | hmem
        · simp
        · exact ih hmem

/-- A character of a word is an alphanumeric character of the text. -/
lemma mem_of_mem_words {cs w : List Char} {c : Char} (hw : w ∈ words cs) (hc : c ∈ w) :
    c ∈ cs ∧ isAlphanumeric c = true := by
  have hmem : c ∈ (words cs).flatten := List.mem_flatten.2 ⟨w, hw, hc⟩
  rwa [flatten_words, List.mem_filter] at hmem

lemma consHead_append {α : Type} (a : α) {groups : List (List α)} (h : groups ≠ [])
    (more : List (List α)) : consHead a (groups ++ more) = consHead a groups ++ more := by
  cases groups with
  | nil => exact absurd rfl h
  | cons group groups => rfl

/-- A character that is in no word.  It is not taken for the small letter after the last capital
of an acronym either. -/
structure IsSeparator (c : Char) : Prop where
  isAlphanumeric : isAlphanumeric c = false
  isLowercase : isLowercase c = false

lemma isSeparator_underscore : IsSeparator '_' := ⟨by decide, by decide⟩

lemma isSeparator_hyphen : IsSeparator '-' := ⟨by decide, by decide⟩

/-- A separator cuts a text: its words are those before the separator and those after it. -/
lemma words_append_separator {separator : Char} (h : IsSeparator separator)
    (before after : List Char) :
    words (before ++ separator :: after) = words before ++ words after := by
  induction before with
  | nil => simp [words, h.isAlphanumeric]
  | cons c before ih =>
    -- what follows a word is not looked at beyond the separator
    have hgo : continuesWord c (before ++ separator :: after) = continuesWord c before := by
      cases before with
      | nil => simp [continuesWord, h.isAlphanumeric]
      | cons d before =>
        cases before with
        | nil => simp [continuesWord, startsWord, h.isLowercase]
        | cons e before => rfl
    rw [List.cons_append, words, words, hgo, ih]
    split
    · rfl
    · split
      · next hcontinues =>
        refine consHead_append c (fun hnil => ?_) _
        cases before with
        | nil => simp [continuesWord] at hcontinues
        | cons d before =>
          have hflatten := flatten_words (d :: before)
          have hd : isAlphanumeric d = true := by
            simp only [continuesWord, Bool.and_eq_true] at hcontinues
            exact hcontinues.1
          simp [hnil, hd] at hflatten
      · rfl

lemma words_intercalate {separator : Char} (h : IsSeparator separator)
    (groups : List (List Char)) :
    words ([separator].intercalate groups) = groups.flatMap words := by
  induction groups with
  | nil => rfl
  | cons group groups ih =>
    cases groups with
    | nil => simp
    | cons next groups =>
      rw [List.intercalate_cons_cons, List.append_assoc, List.singleton_append,
        words_append_separator h, ih, ← List.flatMap_cons]

lemma words_of_isPlain {p : List Char} (hp : IsPlain p) : words p = [p] := by
  have hwords := words_plain_append hp []
  rwa [words_append_separator isSeparator_underscore, words, List.append_nil] at hwords

/-! ## ASCII -/

/-- A statement on all ASCII characters can be checked one by one. -/
lemma forall_ascii {P : Char → Prop} (h : ∀ n < 0x80, P (Char.ofNat n)) {c : Char}
    (hc : c.toNat < 0x80) : P c := by
  have hP := h c.toNat hc
  rwa [Char.ofNat_toNat] at hP

lemma isAlphanum_of_ascii {c : Char} (hc : c.toNat < 0x80) (h : isAlphanumeric c = true) :
    c.isAlphanum = true := by
  simpa [isAlphanumeric, isAlphabetic, isNumeric, inClass, hc, Char.isAlphanum] using h

/-! ## Forms of a character -/

lemma lower_of_ascii {c : Char} (hc : c.toNat < 0x80) : lower c = [c.toLower] := by
  simp [lower, mapCase, hc]

lemma upper_of_ascii {c : Char} (hc : c.toNat < 0x80) : upper c = [c.toUpper] := by
  simp [upper, mapCase, hc]

lemma Run.eq_of_contains {n m : Nat} (h : (⟨m, m, 1⟩ : Run).contains n = true) : n = m := by
  simp only [Run.contains, Bool.and_eq_true, decide_eq_true_eq] at h
  omega

/-- A shift whose members become characters outside ASCII. -/
def Shift.LeavesAscii (s : Shift) : Prop :=
  0x80 ≤ s.image ∧ (s.image + (s.run.last - s.run.first) < 0xd800 ∨
    0xdfff < s.image ∧ s.image + (s.run.last - s.run.first) < 0x110000)

instance (s : Shift) : Decidable s.LeavesAscii := inferInstanceAs (Decidable (_ ∧ _))

lemma Shift.LeavesAscii.le_toNat {s : Shift} {n : Nat} (h : s.LeavesAscii)
    (hn : s.run.contains n = true) :
    0x80 ≤ (Char.ofNat (s.image + (n - s.run.first))).toNat := by
  simp only [Run.contains, Bool.and_eq_true, decide_eq_true_eq] at hn
  obtain ⟨hle, hvalid⟩ := h
  have hchar : (s.image + (n - s.run.first)).isValidChar := by
    unfold Nat.isValidChar
    omega
  rw [Char.toNat_ofNat, if_pos hchar]
  omega

/-- What becomes of a character outside ASCII: a long form from the table, a shift, or itself. -/
lemma mapCase_cases (ascii : Char → Char) (long : List (Nat × List Nat)) (shifts : List Shift)
    {c : Char} (hc : 0x80 ≤ c.toNat) :
    (∃ codes, (c.toNat, codes) ∈ long ∧ mapCase ascii long shifts c = codes.map Char.ofNat) ∨
      (∃ s ∈ shifts, s.run.contains c.toNat = true ∧
        mapCase ascii long shifts c = [Char.ofNat (s.image + (c.toNat - s.run.first))]) ∨
      mapCase ascii long shifts c = [c] := by
  rw [mapCase, if_neg (Nat.not_lt.2 hc)]
  split
  · next codes hcodes =>
    obtain ⟨before, after, htable, -⟩ := List.lookup_eq_some_iff.1 hcodes
    exact .inl ⟨codes, by simp [htable], rfl⟩
  · cases hfind : shifts.find? (·.run.contains c.toNat) with
    | none => exact .inr (.inr (by simp [shifted?, hfind]))
    | some s =>
      refine .inr (.inl ⟨s, List.mem_of_find?_eq_some hfind, ?_, by simp [shifted?, hfind]⟩)
      simpa using List.find?_some hfind

lemma eq_of_toNat {c : Char} {n : Nat} (h : c.toNat = n) : c = Char.ofNat n := by
  rw [← h, Char.ofNat_toNat]

/-- The lower-case form of a character outside ASCII is outside ASCII, apart from the capital I
with a dot and the Kelvin sign. -/
lemma lower_cases (c : Char) :
    (c.toNat < 0x80 ∧ lower c = [c.toLower]) ∨ (∀ x ∈ lower c, 0x80 ≤ x.toNat) ∨
      (c = 'İ' ∧ lower c = ['i', '\u0307']) ∨ (c = '\u212a' ∧ lower c = ['k']) := by
  rcases Nat.lt_or_ge c.toNat 0x80 with hascii | hc
  · exact .inl ⟨hascii, lower_of_ascii hascii⟩
  · refine .inr ?_
    rcases mapCase_cases Char.toLower Table.lowerLong Table.lowerShifts hc with
      ⟨codes, hcodes, -⟩ | ⟨s, hs, hn, heq⟩ | heq
    · have htable : ∀ entry ∈ Table.lowerLong, entry.1 = 0x130 := by decide
      obtain rfl : c = 'İ' := eq_of_toNat (htable _ hcodes)
      exact .inr (.inl ⟨rfl, by decide +kernel⟩)
    · have htable : ∀ s ∈ Table.lowerShifts, s.LeavesAscii ∨ s = ⟨⟨0x212a, 0x212a, 1⟩, 0x6b⟩ := by
        decide +kernel
      rcases htable s hs with hleaves | rfl
      · refine .inl fun x hx => ?_
        rw [lower, heq, List.mem_singleton] at hx
        exact hx ▸ hleaves.le_toNat hn
      · obtain rfl : c = '\u212a' := eq_of_toNat (Run.eq_of_contains hn)
        exact .inr (.inr ⟨rfl, by decide +kernel⟩)
    · refine .inl fun x hx => ?_
      rw [lower, heq, List.mem_singleton] at hx
      exact hx ▸ hc

/-- The upper-case form of a character outside ASCII is outside ASCII or long, apart from the
small I without a dot and the long S. -/
lemma upper_cases (c : Char) :
    (c.toNat < 0x80 ∧ upper c = [c.toUpper]) ∨ (∀ x ∈ upper c, 0x80 ≤ x.toNat) ∨
      (c = 'ı' ∧ upper c = ['I']) ∨ (c = 'ſ' ∧ upper c = ['S']) ∨
      ∃ entry ∈ Table.upperLong, upper c = entry.2.map Char.ofNat := by
  rcases Nat.lt_or_ge c.toNat 0x80 with hascii | hc
  · exact .inl ⟨hascii, upper_of_ascii hascii⟩
  · refine .inr ?_
    rcases mapCase_cases Char.toUpper Table.upperLong Table.upperShifts hc with
      ⟨codes, hcodes, heq⟩ | ⟨s, hs, hn, heq⟩ | heq
    · exact .inr (.inr (.inr ⟨_, hcodes, heq⟩))
    · have htable : ∀ s ∈ Table.upperShifts, s.LeavesAscii ∨
          s = ⟨⟨0x131, 0x131, 1⟩, 0x49⟩ ∨ s = ⟨⟨0x17f, 0x17f, 1⟩, 0x53⟩ := by
        decide +kernel
      rcases htable s hs with hleaves | rfl | rfl
      · refine .inl fun x hx => ?_
        rw [upper, heq, List.mem_singleton] at hx
        exact hx ▸ hleaves.le_toNat hn
      · obtain rfl : c = 'ı' := eq_of_toNat (Run.eq_of_contains hn)
        exact .inr (.inl ⟨rfl, by decide +kernel⟩)
      · obtain rfl : c = 'ſ' := eq_of_toNat (Run.eq_of_contains hn)
        exact .inr (.inr (.inl ⟨rfl, by decide +kernel⟩))
    · refine .inl fun x hx => ?_
      rw [upper, heq, List.mem_singleton] at hx
      exact hx ▸ hc

/-- The long upper-case forms have two characters or more, and their ASCII characters are capital
letters. -/
lemma upperLong_entry : ∀ entry ∈ Table.upperLong, 2 ≤ entry.2.length ∧
    ∀ n ∈ entry.2, 0x80 ≤ (Char.ofNat n).toNat ∨ (Char.ofNat n).isUpper = true := by
  decide +kernel

/-- Where an ASCII character in a lower-case form comes from. -/
lemma ascii_of_mem_lower {c x : Char} (h : x ∈ lower c) (hx : x.toNat < 0x80) :
    (c.toNat < 0x80 ∧ x = c.toLower) ∨ x = 'i' ∨ x = 'k' := by
  rcases lower_cases c with ⟨hascii, heq⟩ | hforms | ⟨-, heq⟩ | ⟨-, heq⟩
  · rw [heq, List.mem_singleton] at h
    exact .inl ⟨hascii, h⟩
  · exact absurd (hforms x h) (Nat.not_le.2 hx)
  · rw [heq, List.mem_pair] at h
    rcases h with rfl | rfl
    · exact .inr (.inl rfl)
    · exact absurd hx (by decide)
  · rw [heq, List.mem_singleton] at h
    exact .inr (.inr h)

/-- Where an ASCII character in an upper-case form comes from. -/
lemma ascii_of_mem_upper {c x : Char} (h : x ∈ upper c) (hx : x.toNat < 0x80) :
    (c.toNat < 0x80 ∧ x = c.toUpper) ∨ x.isUpper = true := by
  rcases upper_cases c with ⟨hascii, heq⟩ | hforms | ⟨-, heq⟩ | ⟨-, heq⟩ | ⟨entry, hentry, heq⟩
  · rw [heq, List.mem_singleton] at h
    exact .inl ⟨hascii, h⟩
  · exact absurd (hforms x h) (Nat.not_le.2 hx)
  · rw [heq, List.mem_singleton] at h
    exact .inr (h ▸ by decide)
  · rw [heq, List.mem_singleton] at h
    exact .inr (h ▸ by decide)
  · rw [heq] at h
    obtain ⟨n, hn, rfl⟩ := List.mem_map.1 h
    rcases (upperLong_entry entry hentry).2 n hn with hother | hupper
    · exact absurd hother (Nat.not_le.2 hx)
    · exact .inr hupper

lemma mapCase_ne_nil (ascii : Char → Char) {long : List (Nat × List Nat)} (shifts : List Shift)
    (hlong : ∀ entry ∈ long, entry.2 ≠ []) (c : Char) : mapCase ascii long shifts c ≠ [] := by
  rcases Nat.lt_or_ge c.toNat 0x80 with hascii | hc
  · simp [mapCase, hascii]
  · rcases mapCase_cases ascii long shifts hc with ⟨codes, hcodes, heq⟩ | ⟨s, -, -, heq⟩ | heq
    · rw [heq]
      simpa using hlong _ hcodes
    · simp [heq]
    · simp [heq]

lemma lower_ne_nil (c : Char) : lower c ≠ [] :=
  mapCase_ne_nil _ _ (by decide) c

lemma upper_ne_nil (c : Char) : upper c ≠ [] :=
  mapCase_ne_nil _ _ (by decide) c

/-- One of the characters that a character may become in a spelling: those of its lower-case and
upper-case form, and the final small sigma. -/
def IsForm (c x : Char) : Prop := x ∈ lower c ∨ x ∈ upper c ∨ (c = 'Σ' ∧ x = 'ς')

namespace IsForm

variable {c x : Char}

/-- The forms of an ASCII character are its ASCII forms. -/
lemma eq_of_ascii (h : IsForm c x) (hc : c.toNat < 0x80) : x = c.toLower ∨ x = c.toUpper := by
  rcases h with hlower | hupper | ⟨rfl, -⟩
  · exact .inl (by simpa [lower_of_ascii hc] using hlower)
  · exact .inr (by simpa [upper_of_ascii hc] using hupper)
  · exact absurd hc (by decide)

lemma ascii_of_ascii (h : IsForm c x) (hc : c.toNat < 0x80) : x.toNat < 0x80 := by
  have hcase := forall_ascii (P := fun c => c.toLower.toNat < 0x80 ∧ c.toUpper.toNat < 0x80)
    (by decide +kernel) hc
  rcases h.eq_of_ascii hc with rfl | rfl
  · exact hcase.1
  · exact hcase.2

/-- The ASCII forms of an alphanumeric character are letters and digits. -/
lemma isAlphanum (h : IsForm c x) (hc : isAlphanumeric c = true) (hx : x.toNat < 0x80) :
    x.isAlphanum = true := by
  rcases Nat.lt_or_ge c.toNat 0x80 with hascii | hother
  · have hforms := forall_ascii (P := fun c => c.isAlphanum = true →
        c.toLower.isAlphanum = true ∧ c.toUpper.isAlphanum = true) (by decide +kernel) hascii
      (isAlphanum_of_ascii hascii hc)
    rcases h.eq_of_ascii hascii with rfl | rfl
    · exact hforms.1
    · exact hforms.2
  · rcases h with hlower | hupper | ⟨-, rfl⟩
    · rcases ascii_of_mem_lower hlower hx with ⟨hascii, -⟩ | rfl | rfl
      · omega
      · decide
      · decide
    · rcases ascii_of_mem_upper hupper hx with ⟨hascii, -⟩ | hcapital
      · omega
      · show ((x.isUpper || x.isLower) || x.isDigit) = true
        rw [hcapital]
        rfl
    · exact absurd hx (by decide)

end IsForm

/-! ## Spelled words -/

lemma isForm_of_mem_lowerAfter {before cs : List Char} {x : Char}
    (h : x ∈ lowerAfter before cs) : ∃ c ∈ cs, IsForm c x := by
  induction cs generalizing before with
  | nil => simp [lowerAfter] at h
  | cons c cs ih =>
    rw [lowerAfter, List.mem_append] at h
    rcases h with hfirst | hrest
    · refine ⟨c, by simp, ?_⟩
      split at hfirst
      · next hsigma =>
        -- a capital sigma becomes one of the two small ones
        rw [List.mem_singleton, lowerSigma] at hfirst
        split at hfirst
        · exact .inr (.inr ⟨hsigma, hfirst⟩)
        · exact .inl (by rw [hfirst, hsigma]; decide +kernel)
      · exact .inl hfirst
    · obtain ⟨d, hd, hform⟩ := ih hrest
      exact ⟨d, by simp [hd], hform⟩

lemma isForm_of_mem_capitalize {w : List Char} {x : Char} (h : x ∈ capitalize w) :
    ∃ c ∈ w, IsForm c x := by
  cases w with
  | nil => simp [capitalize] at h
  | cons c w =>
    rw [capitalize, List.mem_append, List.mem_flatMap] at h
    rcases h with hfirst | ⟨d, hd, hrest⟩
    · exact ⟨c, by simp, .inr (.inl hfirst)⟩
    · exact ⟨d, by simp [hd], .inl hrest⟩

namespace CaseStyle

variable {style : CaseStyle} {w : List Char} {ws : List (List Char)} {x : Char}

lemma isForm_of_mem_first (h : x ∈ style.first w) : ∃ c ∈ w, IsForm c x := by
  cases style with
  | pascal => exact isForm_of_mem_capitalize h
  | constant =>
    obtain ⟨c, hc, hx⟩ := List.mem_flatMap.1 h
    exact ⟨c, hc, .inr (.inl hx)⟩
  | camel | snake | kebab => exact isForm_of_mem_lowerAfter h

lemma isForm_of_mem_further (hstyle : style ≠ .kebab) (h : x ∈ style.further w) :
    x = '_' ∨ ∃ c ∈ w, IsForm c x := by
  cases style with
  | pascal | camel => exact .inr (isForm_of_mem_capitalize h)
  | snake => exact (List.mem_cons.1 h).imp_right isForm_of_mem_lowerAfter
  | constant =>
    refine (List.mem_cons.1 h).imp_right fun hx => ?_
    obtain ⟨c, hc, hx⟩ := List.mem_flatMap.1 hx
    exact ⟨c, hc, .inr (.inl hx)⟩
  | kebab => exact absurd rfl hstyle

/-- Every character of a spelling is an underscore or a form of a character of a word. -/
lemma isForm_of_mem_spell (hstyle : style ≠ .kebab) (h : x ∈ style.spell ws) :
    x = '_' ∨ ∃ w ∈ ws, ∃ c ∈ w, IsForm c x := by
  cases ws with
  | nil => simp [spell_nil] at h
  | cons w ws =>
    rw [spell_cons, List.mem_append, List.mem_flatMap] at h
    rcases h with hfirst | ⟨v, hv, hfurther⟩
    · exact .inr ⟨w, by simp, isForm_of_mem_first hfirst⟩
    · exact (isForm_of_mem_further hstyle hfurther).imp_right fun hform => ⟨v, by simp [hv], hform⟩

lemma exists_first (style : CaseStyle) (hw : w ≠ []) : ∃ y ys, style.first w = y :: ys := by
  obtain ⟨c, cs, rfl⟩ := List.exists_cons_of_ne_nil hw
  refine List.exists_cons_of_ne_nil ?_
  cases style with
  | pascal => simp [first, capitalize, upper_ne_nil]
  | constant => simp [first, upperWord, upper_ne_nil]
  | camel | snake | kebab =>
    simp only [first, lowerWord, lowerAfter]
    split <;> simp [lower_ne_nil]

end CaseStyle

end Modelsmith.Text
