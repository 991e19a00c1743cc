/-
# The rounds of naming

A name is looked for in rounds.  A round repairs a text and spells the candidate that it gets;
if nothing of it is left, if a digit has come to its start or if the name is taken, the next
round starts with another text.  Nothing in this bounds the number of rounds, and for a
predicate that holds of all names there is no end.  Where some number of marks gives a free name,
the rounds end with the least such number: it is the number of clashes, and the first two reasons
for another round come up once at most.
-/
import Mathlib.Data.Finset.Card
import Mathlib.Order.Bounds.Defs
import Modelsmith.Proofs.Naming.Clash

namespace Modelsmith.Naming

open Modelsmith.Text

/-- How a round ends. -/
inductive Round where
  /-- With a candidate whose spelling is a free name. -/
  | final (candidate : String)
  /-- With a text for the next round. -/
  | again (text : String)
deriving DecidableEq, Repr

namespace Convention

/-- One round: the text is repaired and spelled. -/
def round (c : Convention) (role : Role) (isTaken : String → Bool) (text : String) : Round :=
  let candidate := c.repair role text
  let name := (c.style role).apply candidate
  if name.isEmpty then .again "empty"
  else if name.toList.head?.any Char.isDigit then .again ("number_" ++ candidate)
  else if isTaken name then .again (mark candidate)
  else .final candidate

/-- The rounds that start with a text come to an end with a candidate. -/
inductive Ends (c : Convention) (role : Role) (isTaken : String → Bool) : String → String → Prop
  | final {text candidate : String} (round : c.round role isTaken text = .final candidate) :
      Ends c role isTaken text candidate
  | again {text text' candidate : String} (round : c.round role isTaken text = .again text')
      (rest : Ends c role isTaken text' candidate) : Ends c role isTaken text candidate

variable {c : Convention} {role : Role} {isTaken : String → Bool} {text text' candidate : String}

/-! ## One round -/

/-- A round that is the last one has repaired its text to a candidate with a free name. -/
lemma round_eq_final (h : c.round role isTaken text = .final candidate) :
    candidate = c.repair role text ∧ (c.style role).apply candidate ≠ "" ∧
      ((c.style role).apply candidate).toList.head?.any Char.isDigit = false ∧
      isTaken ((c.style role).apply candidate) = false := by
  simp only [round] at h
  split at h
  · cases h
  · next hne =>
    split at h
    · cases h
    · next hdigit =>
      split at h
      · cases h
      · next hfree =>
        obtain rfl := Round.final.inj h
        exact ⟨rfl, by simpa using hne, by simpa using hdigit, by simpa using hfree⟩

/-- The texts with which a round hands over to the next one. -/
lemma round_eq_again (h : c.round role isTaken text = .again text') :
    text' = "empty" ∨ text' = "number_" ++ c.repair role text ∨
      text' = mark (c.repair role text) := by
  simp only [round] at h
  split at h
  · exact .inl (Round.again.inj h).symm
  · split at h
    · exact .inr (.inl (Round.again.inj h).symm)
    · split at h
      · exact .inr (.inr (Round.again.inj h).symm)
      · cases h

/-- A repaired text that is spelled as a name is the candidate for the text. -/
lemma candidate_eq_repair (h : c.IsName ((c.style role).apply (c.repair role text))) :
    c.candidate role text = c.repair role text := by
  have hne : ((c.style role).apply (c.repair role text)).isEmpty = false := by
    simpa using h.ne_empty
  simp [Convention.candidate, hne, h.no_digit]

/-- Once the candidate is there, only a clash leads to another round. -/
lemma round_of_eq (hc : c.SparesMark) (isTaken : String → Bool)
    (h : c.candidate role text = c.repair role text) :
    c.round role isTaken text =
      if isTaken ((c.style role).apply (c.candidate role text)) then
        .again (mark (c.candidate role text))
      else .final (c.candidate role text) := by
  have hname : c.IsName ((c.style role).apply (c.candidate role text)) := isName_candidate hc text
  have hne : ((c.style role).apply (c.candidate role text)).isEmpty = false := by
    simpa using hname.ne_empty
  simp [round, ← h, hne, hname.no_digit]

/-- The candidate is there in the first round or in the second one. -/
lemma round_cases (hc : c.SparesMark) (role : Role) (isTaken : String → Bool) (text : String) :
    c.candidate role text = c.repair role text ∨
      ∃ text', c.round role isTaken text = .again text' ∧
        c.candidate role text' = c.candidate role text ∧
        c.candidate role text' = c.repair role text' := by
  -- a text whose repaired form is a candidate has this form as its candidate
  have hsecond : ∀ {text'}, c.candidate role text = c.repair role text' →
      c.candidate role text' = c.candidate role text ∧
        c.candidate role text' = c.repair role text' := by
    intro text' h
    have hname : c.IsName ((c.style role).apply (c.candidate role text)) :=
      isName_candidate hc text
    rw [h] at hname
    exact ⟨(candidate_eq_repair hname).trans h.symm, candidate_eq_repair hname⟩
  by_cases hempty : ((c.style role).apply (c.repair role text)).isEmpty = true
  · refine .inr ⟨"empty", by simp [round, hempty], hsecond ?_⟩
    simp [Convention.candidate, hempty]
  · by_cases hdigit :
        ((c.style role).apply (c.repair role text)).toList.head?.any Char.isDigit = true
    · refine .inr ⟨"number_" ++ c.repair role text, by simp [round, hempty, hdigit], hsecond ?_⟩
      simp [Convention.candidate, hempty, hdigit]
    · refine .inl ?_
      simp [Convention.candidate, hempty, hdigit]

/-! ## All rounds -/

/-- It is enough to look at the round in which the candidate is there. -/
lemma ends_of_candidate (hc : c.SparesMark)
    (h : ∀ text', c.candidate role text' = c.candidate role text →
      c.candidate role text' = c.repair role text' → c.Ends role isTaken text' candidate) :
    c.Ends role isTaken text candidate := by
  rcases round_cases hc role isTaken text with hfirst | ⟨text', hround, hsame, hsecond⟩
  · exact h text rfl hfirst
  · exact .again hround (h text' hsame hsecond)

/-- The rounds end at the candidate with the first number of marks that makes it free. -/
lemma ends_marks (hc : c.SparesMark) {k : Nat}
    (hclash : ∀ i < k, isTaken (c.marked role (c.candidate role text) i) = true)
    (hfree : isTaken (c.marked role (c.candidate role text) k) = false) :
    c.Ends role isTaken text (mark^[k] (c.candidate role text)) := by
  induction k generalizing text with
  | zero =>
    refine ends_of_candidate hc fun text' hsame hrepair => ?_
    have hround := round_of_eq hc isTaken hrepair
    rw [hsame, if_neg (by simpa [marked] using hfree)] at hround
    exact .final hround
  | succ k ih =>
    refine ends_of_candidate hc fun text' hsame hrepair => ?_
    have hround := round_of_eq hc isTaken hrepair
    have hclash₀ : isTaken ((c.style role).apply (c.candidate role text)) = true :=
      hclash 0 (Nat.succ_pos k)
    rw [hsame, if_pos hclash₀] at hround
    have hmark : c.candidate role (mark (c.candidate role text)) = mark (c.candidate role text) :=
      candidate_mark hc (candidate_isSound text)
    have hrest : c.Ends role isTaken (mark (c.candidate role text))
        (mark^[k] (c.candidate role (mark (c.candidate role text)))) := by
      refine ih (fun i hi => ?_) ?_
      · rw [hmark, marked_mark]
        exact hclash (i + 1) (by omega)
      · rw [hmark, marked_mark]
        exact hfree
    rw [hmark] at hrest
    exact .again hround hrest

/-- Rounds that start with the same text end with the same candidate. -/
lemma Ends.unique {candidate' : String} (h : c.Ends role isTaken text candidate)
    (h' : c.Ends role isTaken text candidate') : candidate = candidate' := by
  induction h with
  | final hround =>
    cases h' with
    | final hround' => exact Round.final.inj (hround.symm.trans hround')
    | again hround' _ => cases hround.symm.trans hround'
  | again hround _ ih =>
    cases h' with
    | final hround' => cases hround.symm.trans hround'
    | again hround' rest' =>
      obtain rfl := Round.again.inj (hround.symm.trans hround')
      exact ih rest'

/-! ## Finitely many taken names -/

/-- The number of marks is at most the number of different taken names. -/
lemma le_card_of_marked_mem {taken : List String} {s : String} {k : Nat}
    (h : ∀ i < k, c.marked role s i ∈ taken) : k ≤ taken.toFinset.card := by
  rw [List.card_toFinset]
  exact le_length_of_marked_mem fun i hi => List.mem_dedup.2 (h i hi)

/-- For finitely many taken names the rounds end, and the identifier is the spelling of the
candidate at their end. -/
theorem ends_identifier (hc : c.SparesMark) (role : Role) (taken : List String) (raw : String) :
    ∃ k, c.Ends role taken.contains raw (mark^[k] (c.candidate role raw)) ∧
      c.identifier role taken raw = c.marked role (c.candidate role raw) k ∧
      IsLeast {j | c.marked role (c.candidate role raw) j ∉ taken} k ∧
      k ≤ taken.toFinset.card := by
  obtain ⟨k, heq, hclash, hfree⟩ := identifier_eq role taken hc raw
  refine ⟨k, ends_marks hc ?_ ?_, heq, ⟨hfree, fun j hj => ?_⟩, le_card_of_marked_mem hclash⟩
  · intro i hi
    exact List.contains_iff_mem.2 (hclash i hi)
  · simpa using hfree
  · by_contra hlt
    exact hj (hclash j (Nat.not_le.1 hlt))

end Convention

end Modelsmith.Naming
