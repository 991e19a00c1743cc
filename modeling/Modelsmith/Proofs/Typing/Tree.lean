/-
# Type expressions as trees

A type expression of TypeScript is written without regard to what it is read as: members of
unions, elements of tuples and types of keys and values are put next to each other, and an
element of an array is in parentheses if a union sign stands anywhere in its text.  This is
enough to read the text back.  A reader that counts brackets finds the ends of members and
elements, and the form of a type is known from its last characters.  What cannot be told from
a text is how its unions are nested, as a union in a union has no parentheses; trees in which
such unions are flattened are determined by their texts.
-/
import Mathlib.Data.List.Infix
import Modelsmith.Target.TypeScriptTypes

namespace Modelsmith.TypeScript

/-! ## Trees -/

/-- The types with a name of their own. -/
inductive Primitive where
  | any
  | string
  | number
  | boolean
deriving DecidableEq, Repr

/-- The word for a primitive type. -/
def Primitive.word : Primitive → String
  | any => "any"
  | string => "string"
  | number => "number"
  | boolean => "boolean"

/-- Types as trees. -/
inductive TypeTree where
  | primitive (p : Primitive)
  /-- The type of a model that is known by its name. -/
  | named (name : String)
  | array (element : TypeTree)
  | tuple (elements : List TypeTree)
  | union (members : List TypeTree)
  | map (key value : TypeTree)

namespace TypeTree

/-- The type expression of a tree. -/
def text : TypeTree → String
  | primitive p => p.word
  | named name => name
  | array element => elementType element.text ++ "[]"
  | tuple elements => "[" ++ Text.joinWith ", " (elements.map text) ++ "]"
  | union members => Text.joinWith unionSign (members.map text)
  | map key value => "Map<" ++ key.text ++ ", " ++ value.text ++ ">"

/-- Whether the root of a tree is a union. -/
def isUnion : TypeTree → Bool
  | union _ => true
  | _ => false

/-- The members of a union; every other tree is its own only one. -/
def alternatives : TypeTree → List TypeTree
  | union members => members
  | t => [t]

/-- The union of trees, which is the tree itself if there is only one. -/
def unite : List TypeTree → TypeTree
  | [t] => t
  | ts => union ts

/-- The tree without unions directly in unions and without unions of one member. -/
def normal : TypeTree → TypeTree
  | array element => array element.normal
  | tuple elements => tuple (elements.map normal)
  | union members => unite ((members.map normal).flatMap alternatives)
  | map key value => map key.normal value.normal
  | primitive p => primitive p
  | named name => named name

lemma alternatives_of_not_isUnion {t : TypeTree} (h : t.isUnion = false) :
    t.alternatives = [t] := by
  cases t with
  | union members => cases h
  | _ => rfl

end TypeTree

/-- The opening brackets. -/
def openers : List Char := ['(', '[', '<']

/-- The closing brackets. -/
def closers : List Char := [')', ']', '>']

/-- The characters that structure a type expression. -/
def signs : List Char := [' ', ',', '|'] ++ openers ++ closers

/-- A text in which no such character occurs. -/
def IsSignFree (s : List Char) : Prop := ∀ c ∈ s, c ∉ signs

instance (s : List Char) : Decidable (IsSignFree s) := List.decidableBAll _ s

lemma Primitive.word_injective : Function.Injective word := by
  intro p q
  cases p <;> cases q <;> decide

lemma Primitive.isSignFree_word (p : Primitive) : IsSignFree p.word.toList := by
  cases p <;> decide

/-- What the name of a model has to be in a type expression: a word that is neither broken by
signs nor taken by a primitive type. -/
structure IsModelName (name : String) : Prop where
  ne_empty : name ≠ ""
  isSignFree : IsSignFree name.toList
  ne_word : ∀ p : Primitive, name ≠ p.word

namespace TypeTree

/-- Trees whose names can be read and whose unions have members. -/
inductive IsProper : TypeTree → Prop where
  | primitive (p : Primitive) : IsProper (primitive p)
  | named {n : String} (name : IsModelName n) : IsProper (named n)
  | array {t : TypeTree} (element : IsProper t) : IsProper (array t)
  | tuple {ts : List TypeTree} (elements : ∀ t ∈ ts, IsProper t) : IsProper (tuple ts)
  | union {ts : List TypeTree} (ne_nil : ts ≠ []) (members : ∀ t ∈ ts, IsProper t) :
      IsProper (union ts)
  | map {k v : TypeTree} (key : IsProper k) (value : IsProper v) : IsProper (map k v)

/-- Proper trees whose unions have two or more members, none of them a union. -/
inductive IsNormal : TypeTree → Prop where
  | primitive (p : Primitive) : IsNormal (primitive p)
  | named {n : String} (name : IsModelName n) : IsNormal (named n)
  | array {t : TypeTree} (element : IsNormal t) : IsNormal (array t)
  | tuple {ts : List TypeTree} (elements : ∀ t ∈ ts, IsNormal t) : IsNormal (tuple ts)
  | union {ts : List TypeTree} (several : 2 ≤ ts.length) (flat : ∀ t ∈ ts, t.isUnion = false)
      (members : ∀ t ∈ ts, IsNormal t) : IsNormal (union ts)
  | map {k v : TypeTree} (key : IsNormal k) (value : IsNormal v) : IsNormal (map k v)

/-! ## Normal trees -/

/-- The alternatives of a normal tree are normal and no unions, and there is one of them. -/
lemma IsNormal.alternatives {t : TypeTree} (h : t.IsNormal) :
    t.alternatives ≠ [] ∧ ∀ u ∈ t.alternatives, u.IsNormal ∧ u.isUnion = false := by
  cases hunion : t.isUnion with
  | false =>
    rw [alternatives_of_not_isUnion hunion]
    simp [h, hunion]
  | true =>
    cases h with
    | @union ts several flat members =>
      refine ⟨?_, fun u hu => ⟨members u hu, flat u hu⟩⟩
      rintro rfl
      simp at several
    | _ => cases hunion

lemma flatMap_alternatives_ne_nil {ts : List TypeTree} (hne : ts ≠ [])
    (h : ∀ t ∈ ts, t.alternatives ≠ []) : ts.flatMap alternatives ≠ [] := by
  obtain ⟨t, ht⟩ := List.exists_mem_of_ne_nil ts hne
  obtain ⟨u, hu⟩ := List.exists_mem_of_ne_nil _ (h t ht)
  exact List.ne_nil_of_mem (List.mem_flatMap.2 ⟨t, ht, hu⟩)

lemma isNormal_unite {ts : List TypeTree} (hne : ts ≠ [])
    (h : ∀ t ∈ ts, t.IsNormal ∧ t.isUnion = false) : (unite ts).IsNormal := by
  match ts with
  | [t] => exact (h t (by simp)).1
  | t :: u :: rest => exact .union (by simp) (fun v hv => (h v hv).2) fun v hv => (h v hv).1

theorem IsProper.isNormal_normal {t : TypeTree} (h : t.IsProper) : t.normal.IsNormal := by
  induction h with
  | primitive p => simpa [normal] using IsNormal.primitive p
  | named name => simpa [normal] using IsNormal.named name
  | array element ih => simpa [normal] using IsNormal.array ih
  | tuple elements ih =>
    rw [normal]
    exact .tuple (List.forall_mem_map.2 ih)
  | @union ts ne_nil members ih =>
    have hmem : ∀ u ∈ ts.map normal, u.IsNormal := List.forall_mem_map.2 ih
    rw [normal]
    refine isNormal_unite (flatMap_alternatives_ne_nil ?_ ?_) fun v hv => ?_
    · simpa using ne_nil
    · exact fun u hu => (hmem u hu).alternatives.1
    · obtain ⟨u, hu, hv⟩ := List.mem_flatMap.1 hv
      exact (hmem u hu).alternatives.2 v hv
  | map key value ihk ihv => simpa [normal] using IsNormal.map ihk ihv

/-! ## The text of the normal tree -/

lemma text_unite (ts : List TypeTree) :
    (unite ts).text = Text.joinWith unionSign (ts.map text) := by
  match ts with
  | [] => rw [show unite [] = union [] from rfl, text]
  | [t] => rw [unite, List.map_singleton, Text.joinWith, String.intercalate_singleton]
  | t :: u :: rest => rw [show unite (t :: u :: rest) = union (t :: u :: rest) from rfl, text]

lemma text_alternatives (t : TypeTree) :
    Text.joinWith unionSign (t.alternatives.map text) = t.text := by
  cases hunion : t.isUnion with
  | false =>
    rw [alternatives_of_not_isUnion hunion, List.map_singleton, Text.joinWith,
      String.intercalate_singleton]
  | true =>
    cases t with
    | union members => rw [alternatives, text]
    | _ => cases hunion

/-- The members of unions in a union are written like members of the union. -/
lemma joinWith_alternatives {ts : List TypeTree} (h : ∀ t ∈ ts, t.alternatives ≠ []) :
    Text.joinWith unionSign ((ts.flatMap alternatives).map text) =
      Text.joinWith unionSign (ts.map text) := by
  induction ts with
  | nil => rfl
  | cons t ts ih =>
    have hmore : ∀ u ∈ ts, u.alternatives ≠ [] := fun u hu => h u (by simp [hu])
    have hfirst : t.alternatives.map text ≠ [] := by simpa using h t (by simp)
    rcases eq_or_ne ts [] with rfl | hne
    · simpa [Text.joinWith] using text_alternatives t
    · have hrest : (ts.flatMap alternatives).map text ≠ [] := by
        rw [ne_eq, List.map_eq_nil_iff]
        exact flatMap_alternatives_ne_nil hne hmore
      have htext := text_alternatives t
      have hjoined := ih hmore
      simp only [Text.joinWith] at htext hjoined ⊢
      rw [List.flatMap_cons, List.map_append, String.intercalate_append_of_ne_nil hfirst hrest,
        htext, hjoined, List.map_cons, String.intercalate_cons_of_ne_nil (by simpa using hne)]

theorem IsProper.text_normal {t : TypeTree} (h : t.IsProper) : t.normal.text = t.text := by
  have htexts : ∀ {ts : List TypeTree}, (∀ t ∈ ts, t.normal.text = t.text) →
      (ts.map normal).map text = ts.map text := by
    intro ts ih
    rw [List.map_map]
    exact List.map_congr_left ih
  induction h with
  | primitive p => rw [normal]
  | named name => rw [normal]
  | array element ih => rw [normal, text, text, ih]
  | tuple elements ih => rw [normal, text, text, htexts ih]
  | @union ts ne_nil members ih =>
    have hne : ∀ u ∈ ts.map normal, u.alternatives ≠ [] :=
      List.forall_mem_map.2 fun t ht => (members t ht).isNormal_normal.alternatives.1
    rw [normal, text_unite, joinWith_alternatives hne, htexts ih, text]
  | map key value ihk ihv => rw [normal, text, text, ihk, ihv]

end TypeTree

/-! ## Reading up to a sign outside of brackets -/

/-- A text in which no bracket opens or closes. -/
def IsBracketFree (s : List Char) : Prop := ∀ c ∈ s, c ∉ openers ∧ c ∉ closers

instance (s : List Char) : Decidable (IsBracketFree s) := List.decidableBAll _ s

lemma IsSignFree.isBracketFree {s : List Char} (h : IsSignFree s) : IsBracketFree s :=
  fun c hc => ⟨fun ho => h c hc (by simp [signs, ho]), fun hc' => h c hc (by simp [signs, hc'])⟩

/-- The number of open brackets after a character. -/
def depthAfter (depth : Nat) (c : Char) : Nat :=
  if c ∈ openers then depth + 1 else if c ∈ closers then depth - 1 else depth

/-- The part of a text before the first `stop` outside of brackets, if `depth` brackets are
open. -/
def upTo (stop : Char) : Nat → List Char → List Char
  | _, [] => []
  | depth, c :: rest =>
    if depth = 0 ∧ c = stop then [] else c :: upTo stop (depthAfter depth c) rest

/-- A text that is read over: reading goes on behind it, with as many brackets open. -/
def Passes (stop : Char) (depth : Nat) (s : List Char) : Prop :=
  ∀ rest, upTo stop depth (s ++ rest) = s ++ upTo stop depth rest

namespace Passes

variable {stop : Char} {depth : Nat} {s t : List Char}

lemma nil : Passes stop depth [] := fun _ => rfl

lemma append (hs : Passes stop depth s) (ht : Passes stop depth t) :
    Passes stop depth (s ++ t) := by
  intro rest
  rw [List.append_assoc, hs, ht, List.append_assoc]

/-- Characters other than brackets are read over if they are not looked for. -/
lemma of_isBracketFree (hbracket : IsBracketFree s) (hstop : depth = 0 → stop ∉ s) :
    Passes stop depth s := by
  induction s with
  | nil => exact nil
  | cons c s ih =>
    intro rest
    obtain ⟨hopen, hclose⟩ := hbracket c (by simp)
    have hs : Passes stop depth s :=
      ih (fun x hx => hbracket x (by simp [hx])) fun h hx => hstop h (by simp [hx])
    have hc : ¬ (depth = 0 ∧ c = stop) := by
      rintro ⟨h, rfl⟩
      exact hstop h (by simp)
    have hdepth : depthAfter depth c = depth := by simp [depthAfter, hopen, hclose]
    rw [List.cons_append, upTo, if_neg hc, hdepth, hs, List.cons_append]

/-- A text in brackets is read over if it is read over inside of brackets. -/
lemma bracketed {o c : Char} (ho : o ∈ openers) (hc : c ∈ closers) (hstop : stop ∉ openers)
    (hs : Passes stop (depth + 1) s) : Passes stop depth (o :: s ++ [c]) := by
  intro rest
  have ho' : ¬ (depth = 0 ∧ o = stop) := by
    rintro ⟨-, rfl⟩
    exact hstop ho
  have hc' : c ∉ openers := by
    simp only [closers, List.mem_cons, List.not_mem_nil, or_false] at hc
    rcases hc with rfl | rfl | rfl <;> decide
  rw [List.append_assoc, List.cons_append, upTo, if_neg ho', depthAfter, if_pos ho, hs]
  simp [upTo, depthAfter, hc, hc']

lemma intercalate {separator : List Char} {parts : List (List Char)}
    (hseparator : Passes stop depth separator) (h : ∀ s ∈ parts, Passes stop depth s) :
    Passes stop depth (separator.intercalate parts) := by
  induction parts with
  | nil => exact nil
  | cons s parts ih =>
    have hs := h s (by simp)
    rcases eq_or_ne parts [] with rfl | hne
    · rwa [List.intercalate_singleton]
    · rw [List.intercalate_cons_of_ne_nil hne]
      exact (hs.append hseparator).append (ih fun t ht => h t (by simp [ht]))

/-- Nothing is left over of a text that is read over. -/
lemma upTo_eq (h : Passes stop depth s) : upTo stop depth s = s := by
  simpa [upTo] using h []

lemma upTo_append_cons (h : Passes stop 0 s) (rest : List Char) :
    upTo stop 0 (s ++ stop :: rest) = s := by
  rw [h, upTo, if_pos ⟨rfl, rfl⟩, List.append_nil]

lemma append_cons_inj {rest rest' : List Char} (hs : Passes stop 0 s) (ht : Passes stop 0 t)
    (h : s ++ stop :: rest = t ++ stop :: rest') : s = t ∧ rest = rest' := by
  have hsame : s = t := by rw [← hs.upTo_append_cons rest, h, ht.upTo_append_cons]
  subst hsame
  exact ⟨rfl, by simpa using h⟩

/-- The first of joined texts is what is read up to the first separator. -/
lemma upTo_intercalate (h : Passes stop 0 s) (more : List Char) (rest : List (List Char)) :
    upTo stop 0 ((stop :: more).intercalate (s :: rest)) = s := by
  rcases eq_or_ne rest [] with rfl | hne
  · rw [List.intercalate_singleton, h.upTo_eq]
  · rw [List.intercalate_cons_of_ne_nil hne, List.append_assoc, List.cons_append,
      h.upTo_append_cons]

end Passes

/-- Texts that are read over can be told from their joined text, if the separator starts with
what is looked for. -/
lemma intercalate_inj {stop : Char} {more : List Char} {ss ts : List (List Char)}
    (hs : ∀ s ∈ ss, Passes stop 0 s ∧ s ≠ []) (ht : ∀ t ∈ ts, Passes stop 0 t ∧ t ≠ [])
    (h : (stop :: more).intercalate ss = (stop :: more).intercalate ts) : ss = ts := by
  induction ss generalizing ts with
  | nil =>
    cases ts with
    | nil => rfl
    | cons t ts =>
      obtain ⟨hpass, hne⟩ := ht t (by simp)
      have hfirst := hpass.upTo_intercalate more ts
      rw [← h, List.intercalate_nil] at hfirst
      exact absurd hfirst.symm hne
  | cons s ss ih =>
    obtain ⟨hpass, hne⟩ := hs s (by simp)
    have hfirst := hpass.upTo_intercalate more ss
    rw [h] at hfirst
    cases ts with
    | nil => exact absurd hfirst.symm hne
    | cons t ts =>
      rw [(ht t (by simp)).1.upTo_intercalate] at hfirst
      subst hfirst
      rcases eq_or_ne ss [] with rfl | hss <;> rcases eq_or_ne ts [] with rfl | hts
      · rfl
      · rw [List.intercalate_singleton, List.intercalate_cons_of_ne_nil hts] at h
        simp at h
      · rw [List.intercalate_singleton, List.intercalate_cons_of_ne_nil hss] at h
        simp at h
      · rw [List.intercalate_cons_of_ne_nil hss, List.intercalate_cons_of_ne_nil hts] at h
        rw [ih (fun x hx => hs x (by simp [hx])) (fun x hx => ht x (by simp [hx]))
          (List.append_cancel_left h)]

/-! ## Reading over the texts of trees -/

lemma occursIn_iff {part s : List Char} : occursIn part s = true ↔ part <:+: s := by
  induction s with
  | nil => simp [occursIn]
  | cons c s ih =>
    rw [occursIn, Bool.or_eq_true, List.isPrefixOf_iff_prefix, ih, List.infix_cons_iff]

/-- The text of the element of an array can be told: if only one of two elements is in
parentheses, there is a union sign in one text that is not in the other. -/
lemma elementType_inj {s t : String} (h : elementType s = elementType t) : s = t := by
  have hmixed : ∀ {s t : String}, occursIn unionSign.toList s.toList = true →
      occursIn unionSign.toList t.toList = false → "(" ++ s ++ ")" ≠ t := by
    rintro s t hs ht rfl
    rw [← Bool.not_eq_true, occursIn_iff] at ht
    rw [occursIn_iff] at hs
    refine ht (hs.trans ?_)
    rw [String.toList_append, String.toList_append]
    exact List.infix_append _ _ _
  unfold elementType at h
  cases hs : occursIn unionSign.toList s.toList <;> cases ht : occursIn unionSign.toList t.toList
  · simpa [hs, ht] using h
  · exact absurd (by simpa [hs, ht] using h.symm) (hmixed ht hs)
  · exact absurd (by simpa [hs, ht] using h) (hmixed hs ht)
  · simpa [hs, ht] using h

/-- What is looked for between elements and between members. -/
def IsStop (stop : Char) : Prop := stop = ',' ∨ stop = ' '

lemma Passes.of_isSignFree {stop : Char} {s : List Char} (hstop : IsStop stop)
    (h : IsSignFree s) (depth : Nat) : Passes stop depth s := by
  refine .of_isBracketFree h.isBracketFree fun _ hmem => h stop hmem ?_
  rcases hstop with rfl | rfl <;> decide

lemma IsStop.not_opener {stop : Char} (h : IsStop stop) : stop ∉ openers := by
  rcases h with rfl | rfl <;> decide

namespace TypeTree

lemma toList_text_array (t : TypeTree) :
    (array t).text.toList = (elementType t.text).toList ++ ('[' :: [] ++ [']']) := by
  simp [text]

lemma toList_text_tuple (ts : List TypeTree) : (tuple ts).text.toList =
    '[' :: [',', ' '].intercalate (ts.map (·.text.toList)) ++ [']'] := by
  simp [text, Text.joinWith, Function.comp_def]

lemma toList_text_union (ts : List TypeTree) : (union ts).text.toList =
    [' ', '|', ' '].intercalate (ts.map (·.text.toList)) := by
  simp [text, Text.joinWith, unionSign, Function.comp_def]

lemma toList_text_map (k v : TypeTree) : (map k v).text.toList =
    ['M', 'a', 'p'] ++ ('<' :: (k.text.toList ++ ',' :: ' ' :: v.text.toList) ++ ['>']) := by
  simp [text]

/-- A union sign stands in the text of a union. -/
lemma occursIn_text_union {ts : List TypeTree} (h : 2 ≤ ts.length) :
    occursIn unionSign.toList (union ts).text.toList = true := by
  match ts with
  | t :: u :: rest =>
    rw [occursIn_iff, toList_text_union, List.map_cons, List.map_cons, List.intercalate_cons_cons]
    exact List.infix_append _ _ _

/-- The text of a normal tree is read over in search of the next element of a tuple, and also
in search of the next member of a union, unless it is a union itself. -/
theorem IsNormal.passes {t : TypeTree} (h : t.IsNormal) {stop : Char} (hstop : IsStop stop)
    {depth : Nat} (houter : depth = 0 → stop = ' ' → t.isUnion = false) :
    Passes stop depth t.text.toList := by
  have hopener := hstop.not_opener
  have hcomma : ∀ depth, Passes stop (depth + 1) [',', ' '] :=
    fun depth => .of_isBracketFree (by decide) (by simp)
  induction h generalizing depth with
  | primitive p =>
    rw [text]
    exact .of_isSignFree hstop p.isSignFree_word depth
  | named name =>
    rw [text]
    exact .of_isSignFree hstop name.isSignFree depth
  | @array t element ih =>
    rw [toList_text_array]
    refine .append ?_ (.bracketed (by decide) (by decide) hopener .nil)
    cases hsign : occursIn unionSign.toList t.text.toList with
    | true =>
      have hparen : (elementType t.text).toList = '(' :: t.text.toList ++ [')'] := by
        simp [elementType, hsign]
      rw [hparen]
      exact .bracketed (by decide) (by decide) hopener (ih (by simp))
    | false =>
      have hbare : elementType t.text = t.text := by simp [elementType, hsign]
      rw [hbare]
      refine ih fun _ _ => ?_
      -- without a union sign the element is no union
      cases element with
      | union several => rw [occursIn_text_union several] at hsign; cases hsign
      | _ => rfl
  | tuple elements ih =>
    rw [toList_text_tuple]
    refine .bracketed (by decide) (by decide) hopener (.intercalate (hcomma depth) fun s hs => ?_)
    obtain ⟨t, ht, rfl⟩ := List.mem_map.1 hs
    exact ih t ht (by simp)
  | union several flat members ih =>
    rw [toList_text_union]
    refine .intercalate (.of_isBracketFree (by decide) fun hdepth => ?_) fun s hs => ?_
    · rcases hstop with rfl | rfl
      · decide
      · cases houter hdepth rfl
    · obtain ⟨t, ht, rfl⟩ := List.mem_map.1 hs
      exact ih t ht fun _ _ => flat t ht
  | map key value ihk ihv =>
    rw [toList_text_map]
    refine .append (.of_isSignFree hstop (by decide) depth) ?_
    refine .bracketed (by decide) (by decide) hopener ?_
    exact (ihk (by simp)).append ((hcomma depth).append (ihv (by simp)))

end TypeTree

/-! ## Reading the form of a type -/

/-- A text that can stand before a closing bracket and is not empty. -/
def EndsOutside (s : List Char) : Prop := ∃ init c, s = init ++ [c] ∧ c ≠ '['

namespace EndsOutside

variable {s : List Char}

lemma ne_nil (h : EndsOutside s) : s ≠ [] := by
  obtain ⟨init, c, rfl, -⟩ := h
  simp

lemma append_left (h : EndsOutside s) (p : List Char) : EndsOutside (p ++ s) := by
  obtain ⟨init, c, rfl, hc⟩ := h
  exact ⟨p ++ init, c, by simp, hc⟩

lemma of_isSignFree (hne : s ≠ []) (h : IsSignFree s) : EndsOutside s := by
  refine ⟨s.dropLast, s.getLast hne, (List.dropLast_append_getLast hne).symm, fun hc => ?_⟩
  exact h _ (List.getLast_mem hne) (hc ▸ by decide)

lemma intercalate {separator : List Char} {parts : List (List Char)} (hne : parts ≠ [])
    (h : ∀ s ∈ parts, EndsOutside s) : EndsOutside (separator.intercalate parts) := by
  induction parts with
  | nil => exact absurd rfl hne
  | cons s parts ih =>
    rcases eq_or_ne parts [] with rfl | hne'
    · simpa using h s (by simp)
    · rw [List.intercalate_cons_of_ne_nil hne']
      exact (ih hne' fun t ht => h t (by simp [ht])).append_left _

end EndsOutside

/-- The forms of a type expression. -/
inductive Form where
  | word
  | array
  | tuple
  | union
  | map
deriving DecidableEq, Repr

/-- Read the form of a type expression that is no union from its reversed text. -/
def formAtEnd : List Char → Form
  | '>' :: _ => .map
  | [']', '['] => .tuple
  | ']' :: '[' :: _ => .array
  | ']' :: _ => .tuple
  | _ => .word

lemma formAtEnd_of_isSignFree {s : List Char} (h : IsSignFree s) :
    formAtEnd s.reverse = .word := by
  have hs : IsSignFree s.reverse := fun c hc => h c (List.mem_reverse.1 hc)
  unfold formAtEnd
  split
  · exact absurd (hs '>' (by simp [*])) (by decide)
  · exact absurd (hs ']' (by simp [*])) (by decide)
  · exact absurd (hs ']' (by simp [*])) (by decide)
  · exact absurd (hs ']' (by simp [*])) (by decide)
  · rfl

/-- Read the form of a type expression.  Only unions have a space outside of brackets. -/
def formOf (s : List Char) : Form :=
  if upTo ' ' 0 s = s then formAtEnd s.reverse else .union

namespace TypeTree

/-- The form of a tree. -/
def form : TypeTree → Form
  | primitive _ | named _ => .word
  | array _ => .array
  | tuple _ => .tuple
  | union _ => .union
  | map .. => .map

lemma IsNormal.endsOutside {t : TypeTree} (h : t.IsNormal) : EndsOutside t.text.toList := by
  induction h with
  | primitive p =>
    rw [text]
    exact .of_isSignFree (by cases p <;> decide) p.isSignFree_word
  | named name =>
    rw [text]
    exact .of_isSignFree (mt String.toList_eq_nil_iff.1 name.ne_empty) name.isSignFree
  | array =>
    rw [toList_text_array]
    exact .append_left ⟨['['], ']', rfl, by decide⟩ _
  | tuple =>
    rw [toList_text_tuple]
    exact ⟨_, ']', rfl, by decide⟩
  | union several flat members ih =>
    rw [toList_text_union]
    refine .intercalate ?_ fun s hs => ?_
    · rw [ne_eq, List.map_eq_nil_iff]
      rintro rfl
      simp at several
    · obtain ⟨t, ht, rfl⟩ := List.mem_map.1 hs
      exact ih t ht
  | map =>
    rw [toList_text_map]
    exact .append_left ⟨_, '>', rfl, by decide⟩ _

/-- The form of a tree that is no union is read at the end of its text. -/
lemma IsNormal.formAtEnd_text {t : TypeTree} (h : t.IsNormal) (hunion : t.isUnion = false) :
    formAtEnd t.text.toList.reverse = t.form := by
  cases h with
  | primitive p => rw [text, formAtEnd_of_isSignFree p.isSignFree_word, form]
  | named name => rw [text, formAtEnd_of_isSignFree name.isSignFree, form]
  | @array t element =>
    have hne : (elementType t.text).toList.reverse ≠ [] := by
      rw [ne_eq, List.reverse_eq_nil_iff, elementType]
      split
      · simp
      · exact element.endsOutside.ne_nil
    obtain ⟨c, rest, hrest⟩ := List.exists_cons_of_ne_nil hne
    rw [toList_text_array]
    simp [hrest, formAtEnd, form]
  | @tuple ts elements =>
    rw [toList_text_tuple]
    rcases eq_or_ne ts [] with rfl | hne
    · rfl
    · obtain ⟨init, c, hinit, hc⟩ :
          EndsOutside ([',', ' '].intercalate (ts.map (·.text.toList))) := by
        refine .intercalate (by simpa using hne) fun s hs => ?_
        obtain ⟨t, ht, rfl⟩ := List.mem_map.1 hs
        exact (elements t ht).endsOutside
      rw [hinit]
      simp [formAtEnd, hc, form]
  | union => cases hunion
  | map => simp [toList_text_map, formAtEnd, form]

theorem IsNormal.formOf_text {t : TypeTree} (h : t.IsNormal) : formOf t.text.toList = t.form := by
  cases hunion : t.isUnion with
  | false =>
    have hpasses : Passes ' ' 0 t.text.toList := h.passes (.inr rfl) fun _ _ => hunion
    rw [formOf, if_pos hpasses.upTo_eq, h.formAtEnd_text hunion]
  | true =>
    cases h with
    | @union ts several flat members =>
      match ts with
      | t :: u :: rest =>
        -- reading stops before the second member
        have hpasses : Passes ' ' 0 t.text.toList :=
          (members t (by simp)).passes (.inr rfl) fun _ _ => flat t (by simp)
        rw [toList_text_union, List.map_cons, List.map_cons, List.intercalate_cons_cons,
          List.append_assoc, List.cons_append, formOf, hpasses.upTo_append_cons, if_neg (by simp),
          form]
    | _ => cases hunion

/-- Elements and members can be told from their joined texts if they can be told from their
own. -/
lemma eq_of_intercalate {stop : Char} (hstop : IsStop stop) {more : List Char}
    {ts us : List TypeTree} (ht : ∀ t ∈ ts, t.IsNormal ∧ (stop = ' ' → t.isUnion = false))
    (hu : ∀ u ∈ us, u.IsNormal ∧ (stop = ' ' → u.isUnion = false))
    (hinj : ∀ t ∈ ts, ∀ u ∈ us, t.text = u.text → t = u)
    (h : (stop :: more).intercalate (ts.map (·.text.toList)) =
      (stop :: more).intercalate (us.map (·.text.toList))) : ts = us := by
  have hreads : ∀ {ts : List TypeTree},
      (∀ t ∈ ts, t.IsNormal ∧ (stop = ' ' → t.isUnion = false)) →
      ∀ s ∈ ts.map (·.text.toList), Passes stop 0 s ∧ s ≠ [] := by
    intro ts ht s hs
    obtain ⟨t, hmem, rfl⟩ := List.mem_map.1 hs
    obtain ⟨hnormal, hflat⟩ := ht t hmem
    exact ⟨hnormal.passes hstop fun _ => hflat, hnormal.endsOutside.ne_nil⟩
  have htexts := intercalate_inj (hreads ht) (hreads hu) h
  refine List.ext_getElem (by simpa using congrArg List.length htexts) fun i hi hi' => ?_
  have htext := List.getElem_of_eq htexts (by simpa using hi)
  simp only [List.getElem_map, String.toList_inj] at htext
  exact hinj _ (List.getElem_mem hi) _ (List.getElem_mem hi') htext

lemma IsNormal.form_eq {t u : TypeTree} (ht : t.IsNormal) (hu : u.IsNormal)
    (h : t.text = u.text) : t.form = u.form := by
  rw [← ht.formOf_text, h, hu.formOf_text]

/-- Normal trees can be told from their texts. -/
theorem IsNormal.text_inj {t u : TypeTree} (ht : t.IsNormal) (hu : u.IsNormal)
    (h : t.text = u.text) : t = u := by
  induction ht generalizing u with
  | primitive p =>
    have hform := (IsNormal.primitive p).form_eq hu h
    rw [text] at h
    cases hu with
    | primitive q => rw [Primitive.word_injective (h.trans (by rw [text]))]
    | named name => exact absurd (h.trans (by rw [text])).symm (name.ne_word p)
    | _ => cases hform
  | named name =>
    have hform := (IsNormal.named name).form_eq hu h
    rw [text] at h
    cases hu with
    | primitive q => exact absurd (h.trans (by rw [text])) (name.ne_word q)
    | named name' => rw [h, text]
    | _ => cases hform
  | array element ih =>
    have hform := (IsNormal.array element).form_eq hu h
    cases hu with
    | array element' =>
      rw [text, text, String.append_left_inj] at h
      rw [ih element' (elementType_inj h)]
    | _ => cases hform
  | tuple elements ih =>
    have hform := (IsNormal.tuple elements).form_eq hu h
    cases hu with
    | tuple elements' =>
      rw [← String.toList_inj, toList_text_tuple, toList_text_tuple, List.append_cancel_right_eq,
        List.cons.injEq] at h
      refine congrArg TypeTree.tuple (eq_of_intercalate (.inl rfl)
        (fun t ht => ⟨elements t ht, by simp⟩) (fun u hu => ⟨elements' u hu, by simp⟩) ?_ h.2)
      exact fun t ht u hu => ih t ht (elements' u hu)
    | _ => cases hform
  | union several flat members ih =>
    have hform := (IsNormal.union several flat members).form_eq hu h
    cases hu with
    | union several' flat' members' =>
      rw [← String.toList_inj, toList_text_union, toList_text_union] at h
      refine congrArg TypeTree.union (eq_of_intercalate (.inr rfl)
        (fun t ht => ⟨members t ht, fun _ => flat t ht⟩)
        (fun u hu => ⟨members' u hu, fun _ => flat' u hu⟩) ?_ h)
      exact fun t ht u hu => ih t ht (members' u hu)
    | _ => cases hform
  | map key value ihk ihv =>
    have hform := (IsNormal.map key value).form_eq hu h
    cases hu with
    | map key' value' =>
      rw [← String.toList_inj, toList_text_map, toList_text_map, List.append_cancel_left_eq,
        List.append_cancel_right_eq, List.cons.injEq] at h
      obtain ⟨hk, hv⟩ := (key.passes (.inl rfl) (by simp)).append_cons_inj
        (key'.passes (.inl rfl) (by simp)) h.2
      rw [ihk key' (String.toList_inj.1 hk), ihv value' (String.toList_inj.1 (List.cons.inj hv).2)]
    | _ => cases hform

/-- Trees have the same text exactly if they differ in the nesting of their unions only. -/
theorem IsProper.text_eq_iff {t u : TypeTree} (ht : t.IsProper) (hu : u.IsProper) :
    t.text = u.text ↔ t.normal = u.normal := by
  rw [← ht.text_normal, ← hu.text_normal]
  exact ⟨ht.isNormal_normal.text_inj hu.isNormal_normal, congrArg text⟩

end TypeTree

end Modelsmith.TypeScript
