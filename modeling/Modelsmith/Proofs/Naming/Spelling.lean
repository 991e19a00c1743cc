/-
# Spelling of marked texts

A case style spells the first word of a text in its own way and every other word the same way.
Putting one more word in front therefore keeps what is spelled after the first word, and a
word of eight letters makes the spelling longer, whatever letters the text is made of.
-/
import Mathlib.Data.List.Basic
import Modelsmith.Text.CaseStyle

namespace Modelsmith.Text

/-! ## Words -/

/-- A word that is never cut: it has letters and digits, and no capital letter. -/
def IsPlain (p : List Char) : Prop :=
  p ≠ [] ∧ ∀ c ∈ p, isAlphanumeric c = true ∧ isUppercase c = false

instance (p : List Char) : Decidable (IsPlain p) :=
  @instDecidableAnd _ _ inferInstance (List.decidableBAll _ p)

/-- A plain word before an underscore is the first word of the text. -/
lemma words_plain_append {p : List Char} (hp : IsPlain p) (rest : List Char) :
    words (p ++ '_' :: rest) = p :: words rest := by
  obtain ⟨hne, hall⟩ := hp
  induction p with
  | nil => exact absurd rfl hne
  | cons c p ih =>
    have hc := (hall c (by simp)).1
    cases p with
    | nil =>
      have hcut : continuesWord c ('_' :: rest) = false := by
        simp [continuesWord, show isAlphanumeric '_' = false by decide]
      have hskip : words ('_' :: rest) = words rest := by
        rw [words, show isAlphanumeric '_' = false by decide]
        rfl
      rw [List.cons_append, List.nil_append, words, hc, hcut, hskip]
      rfl
    | cons d p =>
      obtain ⟨hd, hd'⟩ := hall d (by simp)
      have hgo : continuesWord c (d :: (p ++ '_' :: rest)) = true := by
        simp [continuesWord, startsWord, hd, hd']
      have hrec := ih (by simp) fun e he => hall e (by simp [he])
      rw [List.cons_append] at hrec
      rw [List.cons_append, List.cons_append, words, hc, hgo, hrec]
      rfl

/-! ## Lengths -/

lemma length_lower_le (c : Char) : (lower c).length ≤ 2 := by
  unfold lower mapCase
  split
  · simp
  · split
    · next codes hcodes =>
      obtain ⟨before, after, htable, -⟩ := List.lookup_eq_some_iff.1 hcodes
      have hmem : (c.toNat, codes) ∈ Table.lowerLong := by simp [htable]
      have hlong : ∀ entry ∈ Table.lowerLong, entry.2.length ≤ 2 := by decide
      simpa using hlong _ hmem
    · simp

/-- What stands around a letter does not change how many letters it becomes. -/
lemma length_lowerAfter (before cs : List Char) :
    (lowerAfter before cs).length = (cs.flatMap lower).length := by
  induction cs generalizing before with
  | nil => rfl
  | cons c cs ih =>
    rw [lowerAfter, List.length_append, ih, List.flatMap_cons, List.length_append]
    split
    · next hsigma =>
      subst hsigma
      rw [show lower 'Σ' = ['σ'] by decide +kernel]
      rfl
    · rfl

/-- A word in lower case is hardly longer than with a capital at its start. -/
lemma length_lowerWord_le (w : List Char) : (lowerWord w).length ≤ (capitalize w).length + 2 := by
  cases w with
  | nil => simp [lowerWord, lowerAfter]
  | cons c w =>
    have hc := length_lower_le c
    simp only [lowerWord, length_lowerAfter, capitalize, List.flatMap_cons, List.length_append]
    omega

namespace CaseStyle

/-! ## First and further words -/

/-- How a style spells the first word. -/
def first : CaseStyle → List Char → List Char
  | pascal => capitalize
  | constant => upperWord
  | _ => lowerWord

/-- How a style spells a further word, with what stands before it. -/
def further : CaseStyle → List Char → List Char
  | pascal, w => capitalize w
  | camel, w => capitalize w
  | snake, w => '_' :: lowerWord w
  | constant, w => '_' :: upperWord w
  | kebab, w => '-' :: lowerWord w

lemma intercalate_cons (separator : Char) (w : List Char) (ws : List (List Char)) :
    [separator].intercalate (w :: ws) = w ++ ws.flatMap (separator :: ·) := by
  induction ws generalizing w with
  | nil => simp
  | cons v ws ih =>
    rw [List.intercalate_cons_cons, ih, List.flatMap_cons]
    simp

lemma spell_nil (style : CaseStyle) : style.spell [] = [] := by cases style <;> rfl

lemma spell_cons (style : CaseStyle) (w : List Char) (ws : List (List Char)) :
    style.spell (w :: ws) = style.first w ++ ws.flatMap style.further := by
  cases style with
  | pascal => exact List.flatMap_cons
  | camel => rfl
  | snake | constant | kebab =>
    rw [spell, List.map_cons, intercalate_cons, List.flatMap_map]
    rfl

/-- A word is spelled hardly longer at the front than further back. -/
lemma length_first_le (style : CaseStyle) (w : List Char) :
    (style.first w).length ≤ (style.further w).length + 2 := by
  cases style with
  | pascal => exact Nat.le_add_right _ _
  | camel => exact length_lowerWord_le w
  | snake | constant | kebab =>
    simp only [first, further, List.length_cons]
    omega

/-- A word of three letters or more in front makes the spelling longer. -/
lemma length_spell_lt_cons (style : CaseStyle) {p : List Char}
    (hp : 2 < (style.first p).length) (ws : List (List Char)) :
    (style.spell ws).length < (style.spell (p :: ws)).length := by
  rw [spell_cons style p, List.length_append]
  cases ws with
  | nil =>
    rw [spell_nil, List.length_nil]
    omega
  | cons w ws =>
    have hw := length_first_le style w
    rw [spell_cons, List.length_append, List.flatMap_cons, List.length_append]
    omega

end CaseStyle

end Modelsmith.Text
