/-
# Identifiers

What the rounds of naming give for every raw name: among finitely many taken names they end with
as few marks as possible, and whatever names are taken, they end only with a text that looks
like an identifier.
-/
import Modelsmith.Proofs.Names
import Modelsmith.Proofs.Naming.Letters
import Modelsmith.Proofs.Naming.Rounds

namespace Modelsmith.Naming

open Modelsmith.Text

/-! ## Marks -/

/-- The convention with a spelling for each role. -/
def Convention.withStyles (c : Convention) (styles : Role → CaseStyle) : Convention :=
  { c with model := styles .model, property := styles .property, enumKey := styles .enumKey }

@[simp] lemma Convention.style_withStyles (c : Convention) (styles : Role → CaseStyle)
    (role : Role) : (c.withStyles styles).style role = styles role := by
  cases role <;> rfl

/-- For the three conventions with any spellings, let `b` be the candidate with which the rounds
end if nothing is taken.  For finitely many taken names the rounds end, with the candidate `b`
marked `k` times, where `k` is the least number of marks whose spelling is free.  There are no
more marks than taken names. -/
theorem identifier_least_marks {c : Convention} (hc : c ∈ [rust, typeScript, sketch])
    (styles : Role → CaseStyle) (role : Role) (raw : String) (taken : List String) :
    ∃ b k, (∀ x, (c.withStyles styles).Ends role (fun _ => false) raw x ↔ x = b) ∧
      (c.withStyles styles).standalone role raw = (styles role).apply b ∧
      (∀ x, (c.withStyles styles).Ends role taken.contains raw x ↔ x = mark^[k] b) ∧
      (c.withStyles styles).identifier role taken raw = (styles role).apply (mark^[k] b) ∧
      IsLeast {j | (styles role).apply (mark^[j] b) ∉ taken} k ∧
      k ≤ taken.toFinset.card := by
  have hspares : c.SparesMark := Schema.sparesMark_of_mem hc
  have hunique : ∀ {isTaken : String → Bool} {x y : String},
      (c.withStyles styles).Ends role isTaken raw y →
        ((c.withStyles styles).Ends role isTaken raw x ↔ x = y) := by
    intro isTaken x y hy
    exact ⟨fun hx => hx.unique hy, fun hx => hx ▸ hy⟩
  obtain ⟨k₀, hends₀, hstandalone, -, hk₀⟩ :=
    Convention.ends_identifier (c := c.withStyles styles) hspares role [] raw
  obtain ⟨k, hends, hidentifier, hleast, hk⟩ :=
    Convention.ends_identifier (c := c.withStyles styles) hspares role taken raw
  obtain rfl : k₀ = 0 := by simpa using hk₀
  simp only [Convention.marked, Convention.style_withStyles] at hstandalone hidentifier hleast
  exact ⟨_, k, fun x => hunique hends₀, hstandalone, fun x => hunique hends, hidentifier, hleast,
    hk⟩

/-- A raw name that starts with a digit, among names that it clashes with twice. -/
theorem identifier_least_marks_digit :
    rust.identifier .model ["Number1", "ReservedNumber1", "Number1"] "-1" =
        "ReservedReservedNumber1" ∧
      ∃ b k, (∀ x, (rust.withStyles rust.style).Ends .model (fun _ => false) "-1" x ↔ x = b) ∧
        (rust.withStyles rust.style).standalone .model "-1" = (rust.style .model).apply b ∧
        (∀ x, (rust.withStyles rust.style).Ends .model
          ["Number1", "ReservedNumber1", "Number1"].contains "-1" x ↔ x = mark^[k] b) ∧
        (rust.withStyles rust.style).identifier .model ["Number1", "ReservedNumber1", "Number1"]
          "-1" = (rust.style .model).apply (mark^[k] b) ∧
        IsLeast {j | (rust.style .model).apply (mark^[j] b) ∉
          ["Number1", "ReservedNumber1", "Number1"]} k ∧
        k ≤ ["Number1", "ReservedNumber1", "Number1"].toFinset.card :=
  ⟨by decide +kernel, identifier_least_marks (by simp) rust.style .model "-1" _⟩

/-! ## Texts in ASCII -/

/-- A text of ASCII characters. -/
def IsAscii (s : String) : Prop := ∀ c ∈ s.toList, c.toNat < 0x80

instance (s : String) : Decidable (IsAscii s) := List.decidableBAll _ s.toList

lemma IsAscii.append {s t : String} (hs : IsAscii s) (ht : IsAscii t) : IsAscii (s ++ t) := by
  intro c hc
  rw [String.toList_append, List.mem_append] at hc
  exact hc.elim (hs c) (ht c)

lemma isAscii_mark {s : String} (hs : IsAscii s) : IsAscii (mark s) :=
  IsAscii.append (by decide) hs

lemma isAscii_sanitize {s : String} (hs : IsAscii s) : IsAscii (sanitize s) := by
  have hwords : ∀ entry ∈ specialWords, IsAscii entry.2 := by decide +kernel
  intro x hx
  rcases mem_sanitize hx with rfl | ⟨hmem, -⟩ | ⟨entry, hentry, hmem⟩
  · decide
  · exact hs x hmem
  · exact hwords entry hentry x hmem

namespace Convention

variable {c : Convention} {role : Role} {isTaken : String → Bool} {text candidate : String}

/-- Repairing puts nothing but ASCII into a text. -/
lemma isAscii_repair (h : IsAscii text) : IsAscii (c.repair role text) := by
  have hsanitize : IsAscii (if c.sanitizes then sanitize text else text) := by
    split
    · exact isAscii_sanitize h
    · exact h
  have hdigit : ∀ {s}, IsAscii s → IsAscii (noLeadingDigit s) := by
    intro s hs
    unfold noLeadingDigit
    split
    · exact IsAscii.append (by decide) hs
    · exact hs
  have hempty : ∀ {s}, IsAscii s → IsAscii (nonEmpty s) := by
    intro s hs
    unfold nonEmpty
    split
    · decide
    · exact hs
  have hmark : ∀ {isReserved s}, IsAscii s → IsAscii (markIf isReserved s) := by
    intro isReserved s hs
    unfold markIf
    split
    · exact isAscii_mark hs
    · exact hs
  exact hmark (hempty (hdigit hsanitize))

lemma isAscii_of_round {text' : String} (hround : c.round role isTaken text = .again text')
    (h : IsAscii text) : IsAscii text' := by
  rcases round_eq_again hround with rfl | rfl | rfl
  · decide
  · exact IsAscii.append (by decide) (isAscii_repair h)
  · exact isAscii_mark (isAscii_repair h)

/-- The rounds for a text in ASCII end with a candidate in ASCII. -/
lemma Ends.isAscii (h : c.Ends role isTaken text candidate) (htext : IsAscii text) :
    IsAscii candidate := by
  induction h with
  | final hround =>
    obtain ⟨rfl, -⟩ := round_eq_final hround
    exact isAscii_repair htext
  | again hround _ ih => exact ih (isAscii_of_round hround htext)

/-- Whatever the rounds were, the last one has found the spelling of its candidate not empty and
without a digit at its start. -/
lemma Ends.last (h : c.Ends role isTaken text candidate) :
    (c.style role).apply candidate ≠ "" ∧
      ((c.style role).apply candidate).toList.head?.any Char.isDigit = false := by
  induction h with
  | final hround =>
    obtain ⟨-, hne, hdigit, -⟩ := round_eq_final hround
    exact ⟨hne, hdigit⟩
  | again _ _ ih => exact ih

end Convention

/-! ## Shapes of identifiers -/

/-- What can be said about a name in any script: there is something, neither an underscore nor
an ASCII digit comes first, and the ASCII characters in it are letters, digits and
underscores. -/
structure IsIdentifier (name : String) : Prop where
  ne_empty : name ≠ ""
  head : ∀ x ∈ name.toList.head?, x ≠ '_' ∧ x.isDigit = false
  ascii : ∀ x ∈ name.toList, x.toNat < 0x80 → x.isAlphanum = true ∨ x = '_'

/-- A name that is a letter of ASCII, followed by letters, digits and underscores of ASCII. -/
def IsAsciiIdentifier (name : String) : Prop :=
  ∃ first rest, name.toList = first :: rest ∧ first.isAlpha = true ∧
    ∀ x ∈ rest, x.isAlphanum = true ∨ x = '_'

/-- An identifier in ASCII starts with a letter, as nothing else is left. -/
lemma IsIdentifier.isAsciiIdentifier {name : String} (h : IsIdentifier name)
    (hascii : IsAscii name) : IsAsciiIdentifier name := by
  obtain ⟨first, rest, hname⟩ :=
    List.exists_cons_of_ne_nil (mt String.toList_eq_nil_iff.1 h.ne_empty)
  have hchar : ∀ x ∈ first :: rest, x.isAlphanum = true ∨ x = '_' := by
    intro x hx
    rw [← hname] at hx
    exact h.ascii x hx (hascii x hx)
  obtain ⟨hmark, hdigit⟩ := h.head first (by simp [hname])
  have hfirst : first.isAlphanum = true := (hchar first (by simp)).resolve_right hmark
  refine ⟨first, rest, hname, ?_, fun x hx => hchar x (by simp [hx])⟩
  simpa [Char.isAlphanum, hdigit] using hfirst

section

variable {style : CaseStyle} {s : String} {x : Char}

/-- Every character of a spelled text is an underscore or a form of an alphanumeric character
of the text. -/
lemma isForm_of_mem_apply (hstyle : style ≠ .kebab) (h : x ∈ (style.apply s).toList) :
    x = '_' ∨ ∃ c ∈ s.toList, isAlphanumeric c = true ∧ IsForm c x := by
  rw [CaseStyle.apply, String.toList_ofList] at h
  refine (CaseStyle.isForm_of_mem_spell hstyle h).imp_right ?_
  rintro ⟨w, hw, c, hc, hform⟩
  obtain ⟨hmem, hclass⟩ := mem_of_mem_words hw hc
  exact ⟨c, hmem, hclass, hform⟩

lemma isAscii_apply (hstyle : style ≠ .kebab) (hs : IsAscii s) : IsAscii (style.apply s) := by
  intro x hx
  rcases isForm_of_mem_apply hstyle hx with rfl | ⟨c, hc, -, hform⟩
  · decide
  · exact hform.ascii_of_ascii (hs c hc)

/-- No separator comes first: the first character is a form of one in the first word. -/
lemma head_apply_ne (h : x ∈ (style.apply s).toList.head?) : x ≠ '_' := by
  rw [CaseStyle.apply, String.toList_ofList] at h
  cases hwords : words s.toList with
  | nil => simp [hwords, CaseStyle.spell_nil] at h
  | cons w ws =>
    have hw : w ∈ words s.toList := by simp [hwords]
    obtain ⟨y, ys, hfirst⟩ := style.exists_first (ne_nil_of_mem_words hw)
    obtain rfl : y = x := by simpa [hwords, CaseStyle.spell_cons, hfirst] using h
    obtain ⟨c, hc, hform⟩ := CaseStyle.isForm_of_mem_first (hfirst ▸ List.mem_cons_self)
    rintro rfl
    exact absurd (hform.isAlphanum (mem_of_mem_words hw hc).2 (by decide)) (by decide)

end

/-- However the rounds end, the spelling of the candidate is an identifier. -/
lemma Convention.Ends.isIdentifier {c : Convention} {role : Role} {isTaken : String → Bool}
    {text candidate : String} (h : c.Ends role isTaken text candidate)
    (hstyle : c.style role ≠ .kebab) : IsIdentifier ((c.style role).apply candidate) := by
  obtain ⟨hne, hdigit⟩ := h.last
  refine ⟨hne, fun x hx => ⟨head_apply_ne hx, ?_⟩, fun x hx hascii => ?_⟩
  · simpa [Option.mem_def.1 hx] using hdigit
  · rcases isForm_of_mem_apply hstyle hx with rfl | ⟨c, -, hclass, hform⟩
    · exact .inr rfl
    · exact .inl (hform.isAlphanum hclass hascii)

/-- For the three conventions with any spellings but that with dashes, every name is an
identifier, and for a raw name in ASCII it is an identifier in ASCII.  This holds of all rounds
that end, for any predicate of taken names, and so of the identifier among finitely many names,
for which they do end. -/
theorem identifier_shape {c : Convention} (hc : c ∈ [rust, typeScript, sketch])
    (styles : Role → CaseStyle) (role : Role) (hstyle : styles role ≠ .kebab) (raw : String) :
    (∀ (isTaken : String → Bool) (candidate : String),
      (c.withStyles styles).Ends role isTaken raw candidate →
        IsIdentifier ((styles role).apply candidate) ∧
          (IsAscii raw → IsAsciiIdentifier ((styles role).apply candidate))) ∧
      ∀ taken : List String, IsIdentifier ((c.withStyles styles).identifier role taken raw) ∧
        (IsAscii raw → IsAsciiIdentifier ((c.withStyles styles).identifier role taken raw)) := by
  have hspares : c.SparesMark := Schema.sparesMark_of_mem hc
  have hstyle' : (c.withStyles styles).style role ≠ .kebab := by simpa using hstyle
  have hrounds : ∀ (isTaken : String → Bool) (candidate : String),
      (c.withStyles styles).Ends role isTaken raw candidate →
        IsIdentifier ((styles role).apply candidate) ∧
          (IsAscii raw → IsAsciiIdentifier ((styles role).apply candidate)) := by
    intro isTaken candidate h
    have hname := h.isIdentifier hstyle'
    rw [Convention.style_withStyles] at hname
    refine ⟨hname, fun hraw => hname.isAsciiIdentifier ?_⟩
    exact isAscii_apply hstyle (h.isAscii hraw)
  refine ⟨hrounds, fun taken => ?_⟩
  obtain ⟨k, hends, heq, -⟩ :=
    Convention.ends_identifier (c := c.withStyles styles) hspares role taken raw
  rw [heq, Convention.marked, Convention.style_withStyles]
  exact hrounds _ _ hends

/-- Three rounds, in which a digit comes to the start and a name of odd length is taken. -/
theorem identifier_shape_ligature :
    (typeScript.withStyles typeScript.style).Ends .enumKey (fun name => name.length % 2 == 1)
        "-1 ﬁß" "reserved_number_-1 ﬁß" ∧
      CaseStyle.constant.apply "reserved_number_-1 ﬁß" = "RESERVED_NUMBER_1_FISS" ∧
      IsIdentifier "RESERVED_NUMBER_1_FISS" ∧ IsAscii "-1" ∧
      IsAsciiIdentifier ((typeScript.withStyles typeScript.style).identifier .enumKey [] "-1") := by
  have hdigit : (typeScript.withStyles typeScript.style).round .enumKey
      (fun name => name.length % 2 == 1) "-1 ﬁß" = .again "number_-1 ﬁß" := by
    decide +kernel
  have hclash : (typeScript.withStyles typeScript.style).round .enumKey
      (fun name => name.length % 2 == 1) "number_-1 ﬁß" = .again "reserved_number_-1 ﬁß" := by
    decide +kernel
  have hrounds : (typeScript.withStyles typeScript.style).Ends .enumKey
      (fun name => name.length % 2 == 1) "-1 ﬁß" "reserved_number_-1 ﬁß" :=
    .again hdigit (.again hclash (.final (by decide +kernel)))
  have hspelled : CaseStyle.constant.apply "reserved_number_-1 ﬁß" = "RESERVED_NUMBER_1_FISS" := by
    decide +kernel
  refine ⟨hrounds, hspelled, ?_, by decide, ?_⟩
  · rw [← hspelled]
    exact ((identifier_shape (by simp) typeScript.style .enumKey (by decide) _).1 _ _ hrounds).1
  · exact ((identifier_shape (by simp) typeScript.style .enumKey (by decide) _).2 []).2 (by decide)

end Modelsmith.Naming
