/-
# Captured type names

Generated code writes some types by their bare names, and a model with such a name captures
them.  The conventions keep the keywords among these names away from the models, and no others:
the raw names that are spelled as one of the rest are single words, and they can be listed.
-/
import Modelsmith.Proofs.Names
import Modelsmith.Proofs.Naming.Capitals
import Modelsmith.Proofs.Naming.Rounds

namespace Modelsmith.Text

/-! ## Segments -/

lemma consHead_ne_nil {α : Type} (a : α) (groups : List (List α)) : consHead a groups ≠ [] := by
  cases groups with
  | nil => simp [consHead]
  | cons group groups => simp [consHead]

lemma segments_ne_nil {keep cs : List Char} (h : cs ≠ []) : segments keep cs ≠ [] := by
  cases cs with
  | nil => exact absurd rfl h
  | cons c cs =>
    rw [segments]
    split
    · simp
    · split
      · exact consHead_ne_nil _ _
      · simp

/-- A special character cuts a text, and its word is a segment of its own. -/
lemma segments_append_special {keep : List Char} {c : Char} {word : String}
    (h : replacement? keep c = some word) (before after : List Char) :
    segments keep (before ++ c :: after) =
      segments keep before ++ word.toList :: segments keep after := by
  induction before with
  | nil => simp [segments, h]
  | cons d before ih =>
    have hhead : (before ++ c :: after).head?.any (fun e => (replacement? keep e).isNone) =
        before.head?.any (fun e => (replacement? keep e).isNone) := by
      cases before with
      | nil => simp [h]
      | cons e before => rfl
    rw [List.cons_append, segments, segments, hhead, ih]
    split
    · rfl
    · split
      · next hordinary =>
        refine consHead_append d (segments_ne_nil ?_) _
        rintro rfl
        simp at hordinary
      · rfl

end Modelsmith.Text

namespace Modelsmith.Naming

open Modelsmith.Text

/-! ## Words that naming inserts -/

/-- The words that naming puts into a text of its own accord. -/
def insertedWords : List String :=
  "reserved" :: "number" :: "empty" :: specialWords.map (·.2)

/-- One of the inserted words is a word of the text. -/
def HasInserted (s : String) : Prop := ∃ p ∈ insertedWords, p.toList ∈ words s.toList

lemma hasInserted_of_plain {p : String} (hp : p ∈ insertedWords) (hplain : IsPlain p.toList)
    {s : String} {rest : List Char} (hs : s.toList = p.toList ++ '_' :: rest) : HasInserted s := by
  refine ⟨p, hp, ?_⟩
  rw [hs, words_plain_append hplain]
  exact List.mem_cons_self

lemma hasInserted_mark (s : String) : HasInserted (mark s) :=
  hasInserted_of_plain (by simp [insertedWords]) isPlain_reserved (toList_mark s)

lemma hasInserted_number (s : String) : HasInserted ("number_" ++ s) := by
  have htext : ("number_" ++ s).toList = "number".toList ++ '_' :: s.toList := by
    rw [String.toList_append]
    rfl
  exact hasInserted_of_plain (by simp [insertedWords]) isPlain_number htext

lemma hasInserted_empty : HasInserted "empty" := by
  refine ⟨"empty", by simp [insertedWords], ?_⟩
  rw [words_of_isPlain (by decide +kernel)]
  exact List.mem_singleton_self _

/-- The word of a special character is a word of the sanitized text. -/
lemma hasInserted_sanitize {s : String} (h : ¬ IsClean s) : HasInserted (sanitize s) := by
  have hplain : ∀ entry ∈ specialWords, IsPlain entry.2.toList := by decide +kernel
  simp only [IsClean, not_forall] at h
  obtain ⟨c, hc, hspecial⟩ := h
  obtain ⟨word, hword⟩ := Option.ne_none_iff_exists'.1 hspecial
  obtain ⟨before, after, hs⟩ := List.append_of_mem hc
  have hmem : (c, word) ∈ specialWords := mem_specialWords hword
  refine ⟨word, by simpa [insertedWords] using .inr (.inr (.inr ⟨c, hmem⟩)), ?_⟩
  rw [sanitize, replaceSpecial, String.toList_ofList, show "_".toList = ['_'] from rfl,
    words_intercalate isSeparator_underscore, hs, segments_append_special hword,
    List.mem_flatMap]
  refine ⟨word.toList, by simp, ?_⟩
  rw [words_of_isPlain (hplain _ hmem)]
  exact List.mem_singleton_self _

namespace Convention

variable {c : Convention} {role : Role}

/-- Repairing a text leaves it as it is or puts a word into it. -/
lemma repair_cases (hc : c.sanitizes = true) (s : String) :
    HasInserted (c.repair role s) ∨ (IsClean s ∧ c.repair role s = s) := by
  have hrepair : c.repair role s =
      markIf (fun s => c.isReserved s || c.isReserved ((c.style role).apply s))
        (nonEmpty (noLeadingDigit (sanitize s))) := by
    simp [repair, hc]
  rw [hrepair]
  rcases markIf_cases (fun s => c.isReserved s || c.isReserved ((c.style role).apply s))
    (nonEmpty (noLeadingDigit (sanitize s))) with hmark | ⟨hkeep, -⟩
  · rw [hmark]
    exact .inl (hasInserted_mark _)
  · rw [hkeep, nonEmpty]
    split
    · exact .inl hasInserted_empty
    · rw [noLeadingDigit]
      split
      · exact .inl (hasInserted_number _)
      · by_cases hclean : IsClean s
        · exact .inr ⟨hclean, sanitize_of_isClean hclean⟩
        · exact .inl (hasInserted_sanitize hclean)

/-- The candidate for a raw name is the raw name or has a word put into it. -/
lemma candidate_cases (hc : c.sanitizes = true) (raw : String) :
    HasInserted (c.candidate role raw) ∨ (IsClean raw ∧ c.candidate role raw = raw) := by
  simp only [candidate]
  split
  · rcases repair_cases (c := c) hc "empty" with hinserted | ⟨-, hkeep⟩
    · exact .inl hinserted
    · rw [hkeep]
      exact .inl hasInserted_empty
  · split
    · rcases repair_cases (c := c) hc ("number_" ++ c.repair role raw) with hinserted | ⟨-, hkeep⟩
      · exact .inl hinserted
      · rw [hkeep]
        exact .inl (hasInserted_number _)
    · exact repair_cases hc raw

/-! ## Reserved words -/

/-- A text that is a reserved word has no separators. -/
lemma words_of_isReserved (hc : ∀ word ∈ c.reserved, word.toList.all Char.isAlpha = true)
    {s : String} (h : c.isReserved s = true) : (words s.toList).flatten = s.toList := by
  obtain ⟨word, hword, hsame⟩ := isReserved_iff.1 h
  rw [flatten_words, List.filter_eq_self]
  intro x hx
  have hmem : x.toLower ∈ word.toList.map Char.toLower := by
    rw [hsame]
    exact List.mem_map_of_mem hx
  obtain ⟨y, hy, hlower⟩ := List.mem_map.1 hmem
  have halpha : x.isAlpha = true := by
    rw [← Char.isAlpha_toLower_eq_isAlpha, ← hlower, Char.isAlpha_toLower_eq_isAlpha]
    exact List.all_eq_true.1 (hc word hword) y hy
  simp [isAlphanumeric, isAlphabetic, inClass, ascii_of_isAlpha halpha, halpha]

/-! ## Type names -/

/-- A type name that is not reserved and into which no inserted word is spelled. -/
structure IsUnguarded (c : Convention) (t : String) : Prop where
  isTypeName : IsTypeName t.toList
  not_inserted : ∀ p ∈ insertedWords, capitalize p.toList ≠ t.toList
  not_reserved : c.isReserved t = false

instance (c : Convention) (t : String) : Decidable (c.IsUnguarded t) :=
  decidable_of_iff (IsTypeName t.toList ∧
      (∀ p ∈ insertedWords, capitalize p.toList ≠ t.toList) ∧ c.isReserved t = false)
    ⟨fun ⟨h, h', h''⟩ => ⟨h, h', h''⟩, fun ⟨h, h', h''⟩ => ⟨h, h', h''⟩⟩

lemma IsUnguarded.isName {t : String} (h : c.IsUnguarded t) : c.IsName t := by
  obtain ⟨first, rest, ht⟩ := h.isTypeName.exists_cons
  have htype := h.isTypeName
  rw [ht] at htype
  refine ⟨?_, ?_, h.not_reserved⟩
  · rintro rfl
    simp at ht
  · have hdigit := forall_ascii (P := fun x => x.isUpper = true → x.isDigit = false)
      (by decide +kernel) (ascii_of_isAlpha (by simp [Char.isAlpha, htype.1])) htype.1
    simp [ht, hdigit]

lemma apply_pascal_eq_iff {t : String} (ht : IsTypeName t.toList) {s : String} :
    CaseStyle.pascal.apply s = t ↔ ∃ w, words s.toList = [w] ∧ capitalize w = t.toList := by
  rw [← String.toList_inj, CaseStyle.apply, String.toList_ofList]
  exact CaseStyle.spell_pascal_eq_iff (fun w hw => ne_nil_of_mem_words hw) ht

/-- A text that is spelled as a type name has no digit at its start. -/
lemma IsUnguarded.no_digit {t s : String} (h : c.IsUnguarded t)
    (hs : CaseStyle.pascal.apply s = t) : s.toList.head?.any Char.isDigit = false := by
  by_contra hdigit
  rw [Bool.not_eq_false, Option.any_eq_true] at hdigit
  obtain ⟨x, hx, hdigit⟩ := hdigit
  obtain ⟨xs, hxs⟩ : ∃ xs, s.toList = x :: xs := List.head?_eq_some_iff.1 hx
  obtain ⟨w, hwords, hw⟩ := (apply_pascal_eq_iff h.isTypeName).1 hs
  have hascii : x.toNat < 0x80 := ascii_of_isAlphanum (by simp [Char.isAlphanum, hdigit])
  obtain ⟨hclass, hupper⟩ := forall_ascii
    (P := fun x => x.isDigit = true → isAlphanumeric x = true ∧ upper x = [x]) (by decide +kernel)
    hascii hdigit
  have hflatten := flatten_words s.toList
  rw [hwords, hxs, List.filter_cons_of_pos hclass, List.flatten_singleton] at hflatten
  rw [hflatten, capitalize, hupper] at hw
  have hname := h.isName.no_digit
  rw [← hw] at hname
  simp [hdigit] at hname

/-- A text that is spelled as a type name is not reserved itself. -/
lemma IsUnguarded.isReserved_eq_false {t s : String} (h : c.IsUnguarded t)
    (hc : ∀ word ∈ c.reserved, word.toList.all Char.isAlpha = true)
    (hs : CaseStyle.pascal.apply s = t) : c.isReserved s = false := by
  obtain ⟨w, hwords, hw⟩ := (apply_pascal_eq_iff h.isTypeName).1 hs
  by_contra hreserved
  rw [Bool.not_eq_false] at hreserved
  have hflatten := words_of_isReserved hc hreserved
  obtain ⟨word, hword, hsame⟩ := isReserved_iff.1 hreserved
  rw [hwords, List.flatten_singleton] at hflatten
  rw [← hflatten] at hsame
  obtain ⟨first, rest, ht⟩ := h.isTypeName.exists_cons
  have htype := h.isTypeName
  rw [ht] at htype hw
  rw [capitalize_eq_iff htype, mem_uncapitalized, ← hsame] at hw
  rcases hw with hlower | ⟨-, hlong⟩
  · -- the name has the same letters, so that it would be reserved as well
    have hrest : rest.map Char.toLower = rest := by
      conv_rhs => rw [← List.map_id rest]
      refine List.map_congr_left fun x hx => ?_
      exact Char.toLower_eq_of_not_isUpper (Char.not_isUpper_of_isLower (htype.2.2 x hx).1)
    have hname : c.isReserved t = true := by
      refine isReserved_iff.2 ⟨word, hword, ?_⟩
      rw [ht, List.map_cons, hrest, hlower]
    rw [h.not_reserved] at hname
    cases hname
  · have hmem : 'ſ' ∈ word.toList.map Char.toLower := by simp [hlong]
    obtain ⟨y, hy, hlower⟩ := List.mem_map.1 hmem
    obtain rfl := toLower_eq_longS_iff.1 hlower
    exact absurd (List.all_eq_true.1 (hc word hword) _ hy) (by decide)

/-- What is needed of a convention to say which raw names are spelled as a type name. -/
structure IsUsual (c : Convention) : Prop where
  style : c.style .model = .pascal
  sanitizes : c.sanitizes = true
  letters : ∀ word ∈ c.reserved, word.toList.all Char.isAlpha = true
  sparesMark : c.SparesMark

lemma standalone_eq (c : Convention) (role : Role) (raw : String) :
    c.standalone role raw = (c.style role).apply (c.candidate role raw) := rfl

/-- A text that is spelled as a type name is its own candidate. -/
lemma IsUnguarded.candidate_eq {t s : String} (h : c.IsUnguarded t) (hc : c.IsUsual)
    (hclean : IsClean s) (hs : (c.style .model).apply s = t) : c.candidate .model s = s := by
  have hpascal : CaseStyle.pascal.apply s = t := by rwa [hc.style] at hs
  have hne : s ≠ "" := by
    rintro rfl
    exact h.isName.ne_empty (hpascal.symm.trans (by decide))
  have hrepair : c.repair .model s = s := by
    rw [repair_eq_markIf (fun _ => hclean) hne (h.no_digit hpascal), markIf, if_neg]
    simp [h.isReserved_eq_false hc.letters hpascal, hs, h.not_reserved]
  have hname : c.IsName ((c.style .model).apply (c.repair .model s)) := by
    rw [hrepair, hs]
    exact h.isName
  rw [candidate_eq_repair hname, hrepair]

/-- The raw names that become a model with the name of an unguarded type. -/
lemma IsUnguarded.standalone_eq_iff {t : String} (h : c.IsUnguarded t) (hc : c.IsUsual)
    (raw : String) : c.standalone .model raw = t ↔
      IsClean raw ∧ ∃ w, words raw.toList = [w] ∧ w.map Char.toLower ∈ uncapitalized t.toList := by
  have hspelled : ∀ s, (c.style .model).apply s = t ↔
      ∃ w, words s.toList = [w] ∧ w.map Char.toLower ∈ uncapitalized t.toList := by
    intro s
    simp only [hc.style, apply_pascal_eq_iff h.isTypeName, capitalize_eq_iff h.isTypeName]
  rw [standalone_eq, hspelled]
  constructor
  · rintro ⟨w, hwords, hw⟩
    have hcases : HasInserted (c.candidate .model raw) ∨
        (IsClean raw ∧ c.candidate .model raw = raw) := candidate_cases hc.sanitizes raw
    rcases hcases with ⟨p, hp, hmem⟩ | ⟨hclean, hkeep⟩
    · obtain rfl : p.toList = w := by simpa [hwords] using hmem
      exact absurd ((capitalize_eq_iff h.isTypeName).2 hw) (h.not_inserted p hp)
    · rw [hkeep] at hwords
      exact ⟨hclean, w, hwords, hw⟩
  · rintro ⟨hclean, hw⟩
    rwa [h.candidate_eq hc hclean ((hspelled raw).2 hw)]

end Convention

/-- A text without special characters that is one word, given up to the case of its letters. -/
def IsWord (spellings : List String) (raw : String) : Prop :=
  IsClean raw ∧ ∃ w, words raw.toList = [w] ∧ w.map Char.toLower ∈ spellings.map String.toList

/-- The words for those of some type names that are not reserved. -/
def Convention.capturing (c : Convention) (names : List String) : List String :=
  (names.filter (!c.isReserved ·)).flatMap fun t => (uncapitalized t.toList).map String.ofList

/-- A model gets one of some type names, which are reserved or unguarded, exactly if its raw name
is a word for one that is not reserved. -/
lemma Convention.IsUsual.standalone_mem_iff {c : Convention} (hc : c.IsUsual)
    (names : List String) (hnames : ∀ t ∈ names, c.isReserved t = true ∨ c.IsUnguarded t)
    (raw : String) : c.standalone .model raw ∈ names ↔ IsWord (c.capturing names) raw := by
  have hfree : c.isReserved (c.standalone .model raw) = false :=
    (Convention.isName_candidate hc.sparesMark raw).not_reserved
  constructor
  · intro hmem
    have hname : c.IsUnguarded (c.standalone .model raw) :=
      (hnames _ hmem).resolve_left (by simp [hfree])
    obtain ⟨hclean, w, hwords, hw⟩ := (hname.standalone_eq_iff hc raw).1 rfl
    refine ⟨hclean, w, hwords, ?_⟩
    rw [List.mem_map]
    refine ⟨String.ofList (w.map Char.toLower), ?_, String.toList_ofList⟩
    refine List.mem_flatMap.2 ⟨_, List.mem_filter.2 ⟨hmem, by simp [hfree]⟩, ?_⟩
    exact List.mem_map_of_mem hw
  · rintro ⟨hclean, w, hwords, hw⟩
    obtain ⟨spelling, hspelling, heq⟩ := List.mem_map.1 hw
    obtain ⟨t, ht, hmem⟩ := List.mem_flatMap.1 hspelling
    obtain ⟨v, hv, rfl⟩ := List.mem_map.1 hmem
    rw [String.toList_ofList] at heq
    obtain ⟨htnames, htfree⟩ := List.mem_filter.1 ht
    have hname : c.IsUnguarded t := (hnames t htnames).resolve_left (by simpa using htfree)
    rw [(hname.standalone_eq_iff hc raw).2 ⟨hclean, w, hwords, heq ▸ hv⟩]
    exact htnames

lemma isUsual_rust : rust.IsUsual :=
  ⟨rfl, rfl, by decide +kernel, Schema.sparesMark_of_mem (by simp)⟩

lemma isUsual_typeScript : typeScript.IsUsual :=
  ⟨rfl, rfl, by decide +kernel, Schema.sparesMark_of_mem (by simp)⟩

/-- The raw names with which a model captures a type that the generated code writes by its bare
name.  In Rust these are the words `string`, `vec` and `option`, and `string` with a long S, while
`box` is reserved.  In TypeScript it is the word `map`, and the other types are reserved. -/
theorem standalone_captures_iff (raw : String) :
    (rust.standalone .model raw ∈ ["String", "Vec", "Option", "Box"] ↔
      IsWord ["string", "ſtring", "vec", "option"] raw) ∧
      (typeScript.standalone .model raw ∈ ["any", "string", "number", "boolean", "Map"] ↔
        IsWord ["map"] raw) := by
  have hrust := isUsual_rust.standalone_mem_iff ["String", "Vec", "Option", "Box"]
    (by decide +kernel) raw
  have htypeScript := isUsual_typeScript.standalone_mem_iff
    ["any", "string", "number", "boolean", "Map"] (by decide +kernel) raw
  have hwords : rust.capturing ["String", "Vec", "Option", "Box"] =
      ["string", "ſtring", "vec", "option"] := by
    decide +kernel
  have hwords' : typeScript.capturing ["any", "string", "number", "boolean", "Map"] = ["map"] := by
    decide +kernel
  rw [hwords] at hrust
  rw [hwords'] at htypeScript
  exact ⟨hrust, htypeScript⟩

/-- A model `string` of Rust and a model `map` of TypeScript capture the types of their own
fields. -/
theorem standalone_captures_string_map :
    rust.standalone .model "string" ∈ ["String", "Vec", "Option", "Box"] ∧
      typeScript.standalone .model "map" ∈ ["any", "string", "number", "boolean", "Map"] := by
  decide +kernel

end Modelsmith.Naming
