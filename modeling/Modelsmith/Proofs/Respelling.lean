/-
# Spelling a spelled text

Snake and kebab case put the words of a text into small letters, with a sign between any two of
them.  In ASCII, small letters and digits are never cut, so that the words of the text are found
again in its spelling; and a word is spelled the same way whether it has been put into small
letters before or not.  Hence nothing is lost when a text is spelled in one of these two styles
first.
-/
import Modelsmith.Proofs.Identifiers

namespace Modelsmith.Text

open Modelsmith.Naming (IsAscii)

/-! ## Words in ASCII -/

/-- A list of ASCII characters. -/
def AreAscii (w : List Char) : Prop := ∀ c ∈ w, c.toNat < 0x80

section Word

variable {c : Char} {w : List Char}

lemma areAscii_cons : AreAscii (c :: w) ↔ c.toNat < 0x80 ∧ AreAscii w := List.forall_mem_cons

lemma flatMap_lower_of_ascii (hw : AreAscii w) : w.flatMap lower = w.map Char.toLower := by
  rw [List.map_eq_flatMap]
  exact List.flatMap_congr fun c hc => lower_of_ascii (hw c hc)

lemma upperWord_of_ascii (hw : AreAscii w) : upperWord w = w.map Char.toUpper := by
  rw [upperWord, List.map_eq_flatMap]
  exact List.flatMap_congr fun c hc => upper_of_ascii (hw c hc)

/-- There is no sigma in ASCII, so that no letter depends on its neighbours. -/
lemma lowerAfter_of_ascii (before : List Char) (hw : AreAscii w) :
    lowerAfter before w = w.map Char.toLower := by
  induction w generalizing before with
  | nil => rfl
  | cons c w ih =>
    obtain ⟨hc, hw⟩ := areAscii_cons.1 hw
    have hsigma : c ≠ 'Σ' := by
      rintro rfl
      exact absurd hc (by decide)
    rw [lowerAfter, if_neg hsigma, lower_of_ascii hc, ih _ hw]
    rfl

lemma lowerWord_of_ascii (hw : AreAscii w) : lowerWord w = w.map Char.toLower :=
  lowerAfter_of_ascii [] hw

lemma capitalize_of_ascii (hw : AreAscii (c :: w)) :
    capitalize (c :: w) = c.toUpper :: w.map Char.toLower := by
  obtain ⟨hc, hw⟩ := areAscii_cons.1 hw
  rw [capitalize, upper_of_ascii hc, flatMap_lower_of_ascii hw]
  rfl

lemma AreAscii.lowerWord (hw : AreAscii w) : AreAscii (lowerWord w) := by
  intro x hx
  obtain ⟨c, hc, hform⟩ := isForm_of_mem_lowerAfter hx
  exact hform.ascii_of_ascii (hw c hc)

/-! ## Words in small letters -/

lemma lowerWord_lowerWord (hw : AreAscii w) : lowerWord (lowerWord w) = lowerWord w := by
  rw [lowerWord_of_ascii hw.lowerWord, lowerWord_of_ascii hw, List.map_map]
  exact List.map_congr_left fun c _ => Char.toLower_toLower_eq_toLower c

lemma upperWord_lowerWord (hw : AreAscii w) : upperWord (lowerWord w) = upperWord w := by
  rw [upperWord_of_ascii hw.lowerWord, lowerWord_of_ascii hw, upperWord_of_ascii hw,
    List.map_map]
  exact List.map_congr_left fun c _ => Char.toUpper_toLower_eq_toUpper c

lemma capitalize_lowerWord (hw : AreAscii w) : capitalize (lowerWord w) = capitalize w := by
  cases w with
  | nil => rfl
  | cons c w =>
    have hlower : lowerWord (c :: w) = c.toLower :: w.map Char.toLower := lowerWord_of_ascii hw
    have hascii : AreAscii (c.toLower :: w.map Char.toLower) := hlower ▸ hw.lowerWord
    rw [hlower, capitalize_of_ascii hascii, capitalize_of_ascii hw, List.map_map,
      Char.toUpper_toLower_eq_toUpper]
    congr 1
    exact List.map_congr_left fun c _ => Char.toLower_toLower_eq_toLower c

/-- A word of ASCII in small letters is never cut. -/
lemma isPlain_lowerWord (hw : AreAscii w) (hne : w ≠ [])
    (hword : ∀ c ∈ w, isAlphanumeric c = true) : IsPlain (lowerWord w) := by
  rw [lowerWord_of_ascii hw]
  refine ⟨by simpa using hne, ?_⟩
  intro x hx
  obtain ⟨c, hc, rfl⟩ := List.mem_map.1 hx
  exact forall_ascii (P := fun c => isAlphanumeric c = true →
      isAlphanumeric c.toLower = true ∧ isUppercase c.toLower = false) (by decide +kernel)
    (hw c hc) (hword c hc)

end Word

/-! ## Spellings of words in small letters -/

namespace CaseStyle

/-- A style spells words the same way after they have been put into small letters. -/
lemma spell_map_lowerWord (style : CaseStyle) {ws : List (List Char)}
    (hws : ∀ w ∈ ws, AreAscii w) : style.spell (ws.map lowerWord) = style.spell ws := by
  have hfurther : ∀ w ∈ ws, style.further (lowerWord w) = style.further w := by
    intro w hw
    cases style with
    | pascal | camel => exact capitalize_lowerWord (hws w hw)
    | snake => exact congrArg ('_' :: ·) (lowerWord_lowerWord (hws w hw))
    | kebab => exact congrArg ('-' :: ·) (lowerWord_lowerWord (hws w hw))
    | constant => exact congrArg ('_' :: ·) (upperWord_lowerWord (hws w hw))
  have hfirst : ∀ w ∈ ws, style.first (lowerWord w) = style.first w := by
    intro w hw
    cases style with
    | pascal => exact capitalize_lowerWord (hws w hw)
    | camel | snake | kebab => exact lowerWord_lowerWord (hws w hw)
    | constant => exact upperWord_lowerWord (hws w hw)
  cases ws with
  | nil => rfl
  | cons w ws =>
    rw [List.map_cons, spell_cons, spell_cons, hfirst w (by simp), List.flatMap_map]
    congr 1
    exact List.flatMap_congr fun v hv => hfurther v (by simp [hv])

/-- Words that are never cut are found again between the signs. -/
lemma words_spell_of_isPlain {joining : CaseStyle} (hjoining : joining ∈ [snake, kebab])
    {ws : List (List Char)} (hws : ∀ w ∈ ws, IsPlain (lowerWord w)) :
    words (joining.spell ws) = ws.map lowerWord := by
  have hwords : (ws.map lowerWord).flatMap words = ws.map lowerWord := by
    rw [List.flatMap_map, List.map_eq_flatMap]
    exact List.flatMap_congr fun w hw => words_of_isPlain (hws w hw)
  rcases List.mem_pair.1 hjoining with rfl | rfl
  · rw [spell, words_intercalate isSeparator_underscore, hwords]
  · rw [spell, words_intercalate isSeparator_hyphen, hwords]

/-- The snake case and the kebab case of an ASCII text have the words of the text, in small
letters.  So every style spells them as it spells the text: the two styles change nothing when
they are applied again, and each can be made from the other. -/
theorem apply_apply {s : String} (hs : IsAscii s) {joining : CaseStyle}
    (hjoining : joining ∈ [snake, kebab]) :
    words (joining.apply s).toList = (words s.toList).map lowerWord ∧
      ∀ style : CaseStyle, style.apply (joining.apply s) = style.apply s := by
  have hascii : ∀ w ∈ words s.toList, AreAscii w := by
    intro w hw c hc
    exact hs c (mem_of_mem_words hw hc).1
  have hplain : ∀ w ∈ words s.toList, IsPlain (lowerWord w) := by
    intro w hw
    exact isPlain_lowerWord (hascii w hw) (ne_nil_of_mem_words hw)
      fun c hc => (mem_of_mem_words hw hc).2
  have hwords : words (joining.apply s).toList = (words s.toList).map lowerWord := by
    rw [apply, String.toList_ofList, words_spell_of_isPlain hjoining hplain]
  refine ⟨hwords, fun style => ?_⟩
  rw [apply, hwords, spell_map_lowerWord style hascii, apply]

/-- An acronym, a digit before a capital letter, and signs of both styles. -/
theorem apply_apply_mixed :
    IsAscii "HTTPServer2Go-v_1" ∧ kebab ∈ [snake, kebab] ∧
      kebab.apply "HTTPServer2Go-v_1" = "http-server2-go-v-1" ∧
      words "http-server2-go-v-1".toList = (words "HTTPServer2Go-v_1".toList).map lowerWord ∧
      ∀ style : CaseStyle, style.apply "http-server2-go-v-1" = style.apply "HTTPServer2Go-v_1" := by
  have hascii : IsAscii "HTTPServer2Go-v_1" := by decide
  have hjoining : kebab ∈ [snake, kebab] := by decide
  have hkebab : kebab.apply "HTTPServer2Go-v_1" = "http-server2-go-v-1" := by decide +kernel
  obtain ⟨hwords, hstyles⟩ := apply_apply hascii hjoining
  rw [hkebab] at hwords hstyles
  exact ⟨hascii, hjoining, hkebab, hwords, hstyles⟩

/-- The other styles lose beginnings of words or make new ones. -/
example : snake.apply (pascal.apply "a_b") = "ab" ∧ snake.apply (camel.apply "a_b_c") = "a_bc" ∧
    snake.apply (constant.apply "a1b") = "a1_b" := by
  decide +kernel

end CaseStyle

end Modelsmith.Text
