/-
# Texts of constants

A constant gets its text at different moments of the walk: a part of a safe variant on the way
in, a reference or a part of any other variant on the way out, a part that stands for another at
once.  The moment makes no difference.  A cut ends at a part that is neither a reference nor an
enumeration, so that the references that lead to an enumeration lead to it before and after all
cuts, and every constant has the text that it would get in the finished blueprint.
-/
import Modelsmith.Proofs.Typing.Kept

namespace Modelsmith

/-- The text for the first entry of an enumeration that has a given value: the name of the
enumeration, the separator and the key of the entry. -/
def Part.entryText? (separator : String) (p : Part) (value : Json) : Option String :=
  match p.shape with
  | .enumeration entries =>
    (entries.find? (·.value == value)).map fun e => p.name ++ separator ++ e.label.key
  | _ => none

lemma Part.entryText?_eq_none {separator : String} {p : Part} {value : Json}
    (h : p.variant ≠ .enumeration) : p.entryText? separator value = none := by
  unfold entryText?
  split
  · next entries hshape => exact absurd (congrArg Shape.variant hshape) h
  · rfl

namespace Blueprint

variable {table : TypeTable} {rules : NamingRules} {b c c' : Blueprint} {cuts : List Visit}
  {id last root : ModelId} {path : List ModelId} {separator : String} {value : Json}

/-- The text of a constant of a part: if the part is an enumeration or refers to one in the end,
the text for its first entry with that value, and the literal if there is no such entry. -/
def constantText (separator : String) (b : Blueprint) (id : ModelId) (value : Json) : String :=
  ((b.part (b.resolve id)).entryText? separator value).getD (literal value)

/-! ## The enumeration that a part refers to -/

/-- References that lead to no enumeration have literals. -/
lemma constantText_eq_literal
    (h : ∀ path last, Trail b.target? id path last → (b.part last).variant ≠ .enumeration) :
    b.constantText separator id value = literal value := by
  rw [constantText, Part.entryText?_eq_none, Option.getD_none]
  intro hvariant
  have hstop : b.target? (b.resolve id) = none := by
    unfold target?
    cases hshape : (b.part (b.resolve id)).shape with
    | reference target => simp [Part.variant, hshape, Shape.variant] at hvariant
    | _ => rfl
  obtain ⟨path, htrail⟩ := Trail.of_follow hstop
  exact h path _ htrail hvariant

lemma constantText_of_trail
    (hrange : ∀ i j, b.target? i = some j → i < b.size → j < b.size)
    (htrail : Trail b.target? id path last) (hid : id < b.size) :
    b.constantText separator id value =
      ((b.part last).entryText? separator value).getD (literal value) := by
  have hresolve : b.resolve id = last := htrail.follow_size hrange hid
  rw [constantText, hresolve]

/-- Looking up the entry from the target of a reference gives the same text as from the
reference. -/
lemma enumMember?_getD
    (hrange : ∀ i j, b.target? i = some j → i < b.size → j < b.size) (hid : id < b.size) :
    (enumMember? separator b (b.part id) value).getD (literal value) =
      b.constantText separator id value := by
  cases htarget : b.target? id with
  | none =>
    have hmember : enumMember? separator b (b.part id) value =
        (b.part id).entryText? separator value := by
      rw [target?] at htarget
      simp only [enumMember?, htarget]
      rfl
    rw [hmember, constantText_of_trail hrange (.last htarget) hid]
  | some t =>
    have ht : t < b.size := hrange id t htarget hid
    have hmember : (enumMember? separator b (b.part id) value).getD (literal value) =
        b.constantText separator t value := by
      rw [target?] at htarget
      simp only [enumMember?, htarget]
      rfl
    rw [hmember]
    by_cases hends : ∃ path last, Trail b.target? t path last
    · obtain ⟨path, last, htrail⟩ := hends
      rw [constantText_of_trail hrange htrail ht,
        constantText_of_trail hrange (.step htarget htrail) hid]
    · -- the references go round in a cycle
      rw [constantText_eq_literal fun path last htrail => absurd ⟨path, last, htrail⟩ hends,
        constantText_eq_literal]
      intro path last htrail
      cases htrail with
      | last stop => simp [htarget] at stop
      | step go rest =>
        obtain rfl := Option.some.inj (htarget.symm.trans go)
        exact absurd ⟨_, _, rest⟩ hends

/-- Cuts at parts of unsafe variants leave the trails to enumerations as they are. -/
lemma IsCut.trail_enumeration_iff (h : b.IsCut cuts c.bare) (hcuts : b.AreCuts cuts)
    (hclosed : b.IsClosed)
    (hother : ∀ v ∈ cuts, (b.part v.node).variant.isSelfContained = false) (hid : id < b.size) :
    (Trail c.target? id path last ∧ (c.part last).variant = .enumeration) ↔
      (Trail b.target? id path last ∧ (b.part last).variant = .enumeration) := by
  constructor
  · rintro ⟨htrail, hvariant⟩
    induction htrail with
    | @last id stop =>
      rw [h.target?_kept hid, Option.map_eq_none_iff] at stop
      exact ⟨.last stop, (h.variant_eq hid).symm.trans hvariant⟩
    | @step id id' last path go rest ih =>
      rw [h.target?_kept hid] at go
      obtain ⟨old, hold, rfl⟩ := Option.map_eq_some_iff.1 go
      have he := edge_of_target? hold
      rcases hcuts.endAfter_cases he with ⟨k, hk, hend⟩ | ⟨-, hend⟩
      · -- the new end of a cut is a part of any value
        have hstop : c.target? (b.endAfter cuts id .target old) = none := by
          rw [hend, h.target?_stand hk]
        obtain ⟨-, rfl⟩ := rest.unique (.last hstop)
        have hany : (c.part (b.size + k)).shape = .any := by
          rw [← Part.shape_bare, h.part_stand hk]
        rw [hend, Part.variant, hany] at hvariant
        cases hvariant
      · rw [hend] at ih rest
        obtain ⟨htrail, hvariant⟩ := ih (hclosed id hid _ he) hvariant
        exact ⟨.step hold htrail, hvariant⟩
  · rintro ⟨htrail, hvariant⟩
    induction htrail with
    | @last id stop =>
      refine ⟨.last ?_, (h.variant_eq hid).trans hvariant⟩
      rw [h.target?_kept hid, stop, Option.map_none]
    | @step id id' last path go rest ih =>
      have he := edge_of_target? go
      have hid' : id' < b.size := hclosed id hid _ he
      rcases hcuts.endAfter_cases he with ⟨k, hk, -⟩ | ⟨-, hend⟩
      · -- the old end of a cut is neither a reference nor an enumeration
        have hunsafe : (b.part id').variant.isSelfContained = false :=
          hother _ (List.mem_of_getElem? hk)
        cases rest with
        | last _ =>
          rw [hvariant] at hunsafe
          cases hunsafe
        | step go' _ =>
          rw [variant_eq_reference_iff.2 ⟨_, go'⟩] at hunsafe
          cases hunsafe
      · obtain ⟨htrail, hvariant⟩ := ih hid' hvariant
        refine ⟨.step ?_ htrail, hvariant⟩
        rw [h.target?_kept hid, go, Option.map_some]
        exact congrArg some hend

/-- Cuts at parts of unsafe variants change the texts of no constants. -/
theorem IsCut.constantText_eq (h : b.IsCut cuts c.bare) (hcuts : b.AreCuts cuts)
    (hclosed : b.IsClosed)
    (hother : ∀ v ∈ cuts, (b.part v.node).variant.isSelfContained = false) (hid : id < b.size) :
    c.constantText separator id value = b.constantText separator id value := by
  have hrange : ∀ i j, b.target? i = some j → i < b.size → j < b.size := by
    intro i j htarget hi
    exact hclosed i hi _ (edge_of_target? htarget)
  by_cases henum : ∃ path last, Trail b.target? id path last ∧
      (b.part last).variant = .enumeration
  · obtain ⟨path, last, htrail, hvariant⟩ := henum
    have hlast : last < b.size := htrail.mem_lt hrange hid last htrail.last_mem
    obtain ⟨htrail', -⟩ :=
      (h.trail_enumeration_iff hcuts hclosed hother hid).2 ⟨htrail, hvariant⟩
    have hname : (c.part last).name = (b.part last).name := by
      rw [← Part.name_bare, h.part_kept hlast]
    have hshape : (c.part last).shape = (b.part last).shape := by
      rw [h.shape_kept hlast]
      cases hshape : (b.part last).shape with
      | enumeration entries => rfl
      | _ => simp [Part.variant, hshape, Shape.variant] at hvariant
    rw [constantText_of_trail (h.target?_lt hcuts hclosed) htrail' (h.lt_size hid),
      constantText_of_trail hrange htrail hid]
    simp only [Part.entryText?, hname, hshape]
  · rw [constantText_eq_literal fun path last htrail hvariant =>
        henum ⟨path, last, htrail, hvariant⟩, constantText_eq_literal]
    intro path last htrail hvariant
    exact henum ⟨path, last,
      (h.trail_enumeration_iff hcuts hclosed hother hid).1 ⟨htrail, hvariant⟩⟩

/-! ## Telling the texts -/

/-- A part whose constant, if it has one, has the text that is expected of it. -/
def Told (text : ModelId → Json → String) (c : Blueprint) (id : ModelId) : Prop :=
  ∀ k, (c.part id).options.constant = some k → k.text = some (text id k.value)

variable {text : ModelId → Json → String} {j : ModelId} {v : Visit} {event : Event}
  {property : Option (Property String)}

/-- A part whose constant stays the same stays told. -/
lemma Told.of_eq (h : Told text c id)
    (heq : (c'.part id).options.constant = (c.part id).options.constant) : Told text c' id := by
  intro k hk
  exact h k (heq ▸ hk)

lemma constant_assignType (h : c.assignType table j property = .ok c') :
    (c'.part id).options.constant = (c.part id).options.constant := by
  simp only [assignType, bind_eq_ok, pure_eq_ok] at h
  obtain ⟨type, -, rfl⟩ := h
  exact view_modify (·.options.constant) fun _ => rfl

lemma constant_resolveDiscriminator :
    ((c.resolveDiscriminator j).part id).options.constant = (c.part id).options.constant := by
  simp only [resolveDiscriminator]
  split
  · split
    · exact view_modify (·.options.constant) fun _ => rfl
    · rfl
  · rfl

lemma constant_lead :
    ((c.lead v j).part id).options.constant = (c.part id).options.constant := by
  unfold lead
  split
  · rw [redirect_eq]
    exact view_modify (·.options.constant) fun _ => rfl
  · rfl

/-- Rules that answer with the expected text tell the constant of a part, and no other. -/
lemma told_assignConstant (h : c.assignConstant rules j = .ok c') (hj : j < c.size)
    (hanswer : ∀ value, rules.constant c (c.part j) value = .ok (some (text j value))) :
    Told text c' j ∧ ∀ id, Told text c id → Told text c' id := by
  have hself : Told text c' j ∧
      ∀ id ≠ j, (c'.part id).options.constant = (c.part id).options.constant := by
    simp only [assignConstant] at h
    split at h
    · next hnone =>
      obtain rfl := pure_eq_ok.1 h
      exact ⟨fun k hk => by simp [hnone] at hk, fun _ _ => rfl⟩
    · next k hk =>
      simp only [bind_eq_ok, blame_eq_ok, pure_eq_ok, hanswer, Except.ok.injEq] at h
      obtain ⟨_, rfl, rfl⟩ := h
      refine ⟨fun k' hk' => ?_, fun id hid => by rw [part_modify_of_ne _ hid]⟩
      rw [part_modify_self _ hj] at hk'
      obtain rfl := Option.some.inj hk'
      rfl
  refine ⟨hself.1, fun id hid => ?_⟩
  by_cases hsame : id = j
  · exact hsame ▸ hself.1
  · exact hid.of_eq (hself.2 id hsame)

/-! ## Steps -/

/-- Whether typing has told the constant of a part after some events: the part stands for
another, the walk has left it, or it has entered it and tells it on the way in. -/
def HasText (table : TypeTable) (b : Blueprint) (past : List Event) (id : ModelId) : Prop :=
  b.size ≤ id ∨ id ∈ left past ∨
    (id ∈ entered past ∧ table.isSafe (b.part id).variant = true ∧
      (b.part id).variant ≠ .reference)

section Event

variable (hanswer : ∀ d : Blueprint, d.bare = c.bare → ∀ id < c.size, ∀ value,
  rules.constant d (d.part id) value = .ok (some (text id value)))
include hanswer

lemma told_enter (h : typeEvent table rules c (.enter v) = .ok c') (hv : v.node < c.size) :
    (∀ id, Told text c id → Told text c' id) ∧
      (table.isSafe (c.part v.node).variant = true → (c.part v.node).variant ≠ .reference →
        Told text c' v.node) := by
  simp only [typeEvent] at h
  split at h
  · next hother =>
    obtain rfl := pure_eq_ok.1 h
    exact ⟨fun _ hid => hid, fun hsafe => by simp [hsafe] at hother⟩
  · simp only [bind_eq_ok] at h
    obtain ⟨d, hd, h⟩ := h
    have hbare : d.bare = c.bare := (assignType_gives hd).bare_eq
    split at h
    · next href =>
      obtain rfl := pure_eq_ok.1 h
      exact ⟨fun _ hid => hid.of_eq (constant_assignType hd), fun _ hne => absurd href hne⟩
    · obtain ⟨htold, hkeep⟩ := told_assignConstant h (size_eq_of_bare hbare ▸ hv)
        (hanswer d hbare _ hv)
      exact ⟨fun id hid => hkeep id (hid.of_eq (constant_assignType hd)), fun _ _ => htold⟩

lemma told_leave (h : typeEvent table rules c (.leave v) = .ok c') (hv : v.node < c.size) :
    (∀ id, Told text c id → Told text c' id) ∧
      (table.isSafe (c.part v.node).variant = false ∨ (c.part v.node).variant = .reference →
        Told text c' v.node) := by
  obtain ⟨d, hfirst, hlast⟩ := leave_cases h
  -- the constant of a part of an unsafe variant is told first
  obtain ⟨hbare, hkeep, htold⟩ : d.bare = c.bare ∧ (∀ id, Told text c id → Told text d id) ∧
      (table.isSafe (c.part v.node).variant = false → Told text d v.node) := by
    rcases hfirst with ⟨hsafe, rfl⟩ | ⟨-, e, he, hd⟩
    · exact ⟨rfl, fun _ hid => hid, fun hother => by simp [hsafe] at hother⟩
    · have hbare : e.bare = c.bare := (assignType_gives he).bare_eq
      obtain ⟨htold, hkeep⟩ := told_assignConstant hd (size_eq_of_bare hbare ▸ hv)
        (hanswer e hbare _ hv)
      exact ⟨(assignConstant_keeps hd).bare.trans hbare,
        fun id hid => hkeep id (hid.of_eq (constant_assignType he)), fun _ => htold⟩
  rcases hlast with ⟨-, hc'⟩ | ⟨hunion, rfl⟩ | ⟨href, -, rfl⟩
  · obtain ⟨htold', hkeep'⟩ := told_assignConstant hc' (size_eq_of_bare hbare ▸ hv)
      (hanswer d hbare _ hv)
    exact ⟨fun id hid => hkeep' id (hkeep id hid), fun _ => htold'⟩
  · have href : (c.part v.node).variant ≠ .reference := by simp [hunion]
    refine ⟨fun id hid => (hkeep id hid).of_eq constant_resolveDiscriminator, fun hcase => ?_⟩
    exact (htold (hcase.resolve_right href)).of_eq constant_resolveDiscriminator
  · exact ⟨hkeep, fun hcase => htold (hcase.resolve_right href)⟩

end Event

lemma told_again {o : Bool} (h : typeEvent table rules c (.again v o) = .ok c')
    (hany : ∀ (d : Blueprint) (p : Part) value, p.shape = .any →
      rules.constant d p value = .ok (some (text c.size value))) :
    (∀ id < c.size, Told text c id → Told text c' id) ∧
      (c'.size = c.size ∨ c'.size = c.size + 1 ∧ Told text c' c.size) := by
  simp only [typeEvent] at h
  split at h
  · simp only [cutCycle, bind_eq_ok, pure_eq_ok] at h
    obtain ⟨d, hd, d', hd', rfl⟩ := h
    have hbare : d.bare = (c.addStand v).bare := (assignType_gives hd).bare_eq
    have hsize : d.size = c.size + 1 := by rw [size_eq_of_bare hbare, size_addStand]
    have hsize' : d'.size = c.size + 1 := by
      rw [size_eq_of_bare (assignConstant_keeps hd').bare, hsize]
    have hshape : (d.part c.size).shape = .any := by
      rw [← Part.shape_bare, ← part_bare, hbare, part_bare, Part.shape_bare, part_addStand_size]
    have hlt : c.size < d.size := by omega
    obtain ⟨htold, hkeep⟩ := told_assignConstant hd' hlt fun value => hany d _ value hshape
    refine ⟨fun id hid hold => ?_, .inr ⟨?_, htold.of_eq constant_lead⟩⟩
    · refine (hkeep id (hold.of_eq ?_)).of_eq constant_lead
      rw [constant_assignType hd]
      exact congrArg (·.options.constant) (part_addStand_of_lt v hid)
    · exact (size_lead v).trans hsize'
  · obtain rfl := pure_eq_ok.1 h
    exact ⟨fun _ _ hid => hid, .inl rfl⟩

/-! ## The whole run -/

section Run

variable {past : List Event} {progress : Array Progress} {tasks : List Task}

/-- What the rules answer for the parts of a blueprint that is typed: for a part of before the
text in the blueprint before typing, and for a part that stands for another the literal. -/
def expectedText (separator : String) (b : Blueprint) (id : ModelId) (value : Json) : String :=
  if id < b.size then b.constantText separator id value else literal value

lemma IsCut.expectedText_eq (h : b.IsCut cuts c.bare) (hcuts : b.AreCuts cuts)
    (hclosed : b.IsClosed)
    (hother : ∀ v ∈ cuts, (b.part v.node).variant.isSelfContained = false) (hid : id < c.size) :
    b.expectedText separator id value = c.constantText separator id value := by
  rcases h.part_cases hid with ⟨hlt, -⟩ | ⟨v, -, hge, hstand⟩
  · rw [expectedText, if_pos hlt, h.constantText_eq hcuts hclosed hother hlt]
  · have hany : (c.part id).shape = .any := by rw [← Part.shape_bare, hstand]
    have hstop : c.target? id = none := by rw [target?, hany]; rfl
    rw [expectedText, if_neg (Nat.not_lt.2 hge),
      constantText_of_trail (h.target?_lt hcuts hclosed) (.last hstop) hid,
      Part.entryText?_eq_none (by rw [Part.variant, hany]; simp [Shape.variant]), Option.getD_none]

/-- With the usual safe variants, only parts of the other variants are at the end of a cut. -/
lemma isSelfContained_of_cut (hsafe : table.isSafe = Variant.isSelfContained) :
    ∀ v ∈ b.cutsOf table past, (b.part v.node).variant.isSelfContained = false := by
  intro v hv
  rw [← hsafe]
  exact (mem_cutsOf.1 hv).2

/-- A run that ends with an event is a run and one more event. -/
lemma run_last (hrun : (past ++ [event]).foldlM (typeEvent table rules) b = .ok c') :
    ∃ c, past.foldlM (typeEvent table rules) b = .ok c ∧
      typeEvent table rules c event = .ok c' := by
  rw [List.foldlM_append, bind_eq_ok] at hrun
  obtain ⟨c, hc, hlast⟩ := hrun
  obtain ⟨d, hd, hdone⟩ := run_cons.1 hlast
  obtain rfl := pure_eq_ok.1 hdone
  exact ⟨c, hc, hd⟩

variable (hsafe : table.isSafe = Variant.isSelfContained)
  (hconstant : ∀ (d : Blueprint) (p : Part) value, rules.constant d p value =
    .ok (some ((enumMember? separator d p value).getD (literal value))))
  (hbare : b.bare = b) (hclosed : b.IsClosed)
include hsafe hconstant hbare hclosed

/-- At any moment of the walk the rules answer with the expected texts. -/
lemma answer_of_run (h : WalkState b.edges b.size root past progress tasks)
    (hrun : past.foldlM (typeEvent table rules) b = .ok c) :
    ∀ d : Blueprint, d.bare = c.bare → ∀ id < c.size, ∀ value,
      rules.constant d (d.part id) value = .ok (some (b.expectedText separator id value)) := by
  intro d hd id hid value
  have hcuts := areCuts_cutsOf table h
  have hcut : b.IsCut (b.cutsOf table past) d.bare := hd ▸ isCut_of_run h hbare hrun
  have hid' : id < d.size := size_eq_of_bare hd ▸ hid
  rw [hconstant, enumMember?_getD (hcut.target?_lt hcuts hclosed) hid',
    hcut.expectedText_eq hcuts hclosed (isSelfContained_of_cut hsafe) hid']

/-- After any part of the walk, the constants that have been told have the expected texts. -/
theorem told_of_run (h : WalkState b.edges b.size root past progress tasks)
    (hrun : past.foldlM (typeEvent table rules) b = .ok c) :
    ∀ id < c.size, b.HasText table past id → Told (b.expectedText separator) c id := by
  induction h generalizing c with
  | start =>
    obtain rfl := pure_eq_ok.1 hrun
    rintro id hid (hge | hleft | ⟨hentered, -⟩)
    · exact absurd hid (Nat.not_lt.2 hge)
    · simp at hleft
    · simp at hentered
  | @enter past progress v rest before fresh ih =>
    obtain ⟨d, hd, hevent⟩ := run_last hrun
    have hcut := isCut_of_run before hbare hd
    have hsize : c.size = d.size := size_eq_of_bare (by simpa using (typeEvent_step hevent).bare_eq)
    have hnode : v.node < b.size :=
      before.tracked.size_eq ▸ (Array.getElem?_eq_some_iff.1 fresh).1
    obtain ⟨hkeep, htold⟩ := told_enter
      (answer_of_run hsafe hconstant hbare hclosed before hd) hevent (hcut.lt_size hnode)
    intro id hid htext
    by_cases hold : b.HasText table past id
    · exact hkeep id (ih hd id (hsize ▸ hid) hold)
    · -- a part that is not told yet is told now
      rcases htext with hge | hleft | ⟨hentered, hself, href⟩
      · exact absurd (.inl hge) hold
      · exact absurd (.inr (.inl (by simpa using hleft))) hold
      · rw [entered_append, entered_enter, List.mem_append, List.mem_singleton] at hentered
        rcases hentered with hentered | rfl
        · exact absurd (.inr (.inr ⟨hentered, hself, href⟩)) hold
        · rw [← hcut.variant_eq hnode] at hself href
          exact htold hself href
  | @leave past progress v rest before ih =>
    obtain ⟨d, hd, hevent⟩ := run_last hrun
    have hcut := isCut_of_run before hbare hd
    have hsize : c.size = d.size := size_eq_of_bare (by simpa using (typeEvent_step hevent).bare_eq)
    have hinside := (before.tracked.inside_iff v.node).2 ⟨v, by simp, rfl⟩
    have hnode : v.node < b.size :=
      before.tracked.size_eq ▸ (Array.getElem?_eq_some_iff.1 hinside).1
    obtain ⟨hkeep, htold⟩ := told_leave
      (answer_of_run hsafe hconstant hbare hclosed before hd) hevent (hcut.lt_size hnode)
    intro id hid htext
    by_cases hold : b.HasText table past id
    · exact hkeep id (ih hd id (hsize ▸ hid) hold)
    · rcases htext with hge | hleft | ⟨hentered, hself, href⟩
      · exact absurd (.inl hge) hold
      · rw [left_append, left_leave, List.mem_append, List.mem_singleton] at hleft
        rcases hleft with hleft | rfl
        · exact absurd (.inr (.inl hleft)) hold
        · -- it was not told on the way in, so that it is unsafe or a reference
          have hentered : v.node ∈ entered past :=
            mem_entered.2 ⟨v, before.tracked.open_entered v (by simp), rfl⟩
          refine htold ?_
          rw [hcut.variant_eq hnode]
          by_contra hcase
          rw [not_or, Bool.not_eq_false] at hcase
          exact hold (.inr (.inr ⟨hentered, hcase⟩))
      · exact absurd (.inr (.inr ⟨by simpa using hentered, hself, href⟩)) hold
  | @again past progress v rest before seen ih =>
    obtain ⟨d, hd, hevent⟩ := run_last hrun
    have hcut := isCut_of_run before hbare hd
    have hstand : ¬ d.size < b.size := by
      have hsize := hcut.size_of_bare
      omega
    have hliteral : ∀ (e : Blueprint) (p : Part) value, p.shape = .any →
        rules.constant e p value = .ok (some (b.expectedText separator d.size value)) := by
      intro e p value hany
      rw [hconstant, expectedText, if_neg hstand]
      simp [enumMember?, hany, Shape.target?]
    obtain ⟨hkeep, hnew⟩ := told_again hevent hliteral
    intro id hid htext
    have hold : b.HasText table past id := by simpa [HasText] using htext
    rcases hnew with hsame | ⟨hsize, htold⟩
    · exact hkeep id (hsame ▸ hid) (ih hd id (hsame ▸ hid) hold)
    · rw [hsize] at hid
      rcases Nat.lt_succ_iff_lt_or_eq.1 hid with hlt | rfl
      · exact hkeep id hlt (ih hd id hlt hold)
      · exact htold

end Run

end Blueprint

namespace Schema

variable {s : Schema} {table : TypeTable} {rules : NamingRules} {convention : Naming.Convention}
  {separator : String} {valueText : Json → String} {root : ModelId} {b : Blueprint}

/-- For every table with the usual safe variants and any names, if the texts of constants are
those of a convention, every constant of the blueprint has a text: the entry of the enumeration
that its part is or refers to in the end, if there is one with its value, and the literal
otherwise. -/
theorem blueprint_constants (hsafe : table.isSafe = Variant.isSelfContained)
    (hrules : rules.constant = (NamingRules.ofConvention convention separator valueText).constant)
    (hclosed : s.IsClosed root) (h : s.blueprint table rules root = .ok b) :
    ∀ id < b.size, ∀ k, (b.part id).options.constant = some k →
      k.text = some (b.constantText separator id k.value) := by
  obtain ⟨b₀, hlower, hrun⟩ := bind_eq_ok.1 h
  obtain ⟨progress, hwalk⟩ := walkState_walk b₀.edges b₀.size b₀.root
  have hconstant : ∀ (d : Blueprint) (p : Part) value, rules.constant d p value =
      .ok (some ((enumMember? separator d p value).getD (literal value))) := by
    intro d p value
    rw [hrules]
    rfl
  have hclosed₀ := lower_isClosed hclosed hlower
  have hcuts := Blueprint.areCuts_cutsOf table hwalk
  have hcut := Blueprint.isCut_of_run hwalk (lower_bare hlower) hrun
  intro id hid k hk
  -- in the end the walk has left every part that is no stand
  have htext : b₀.HasText table (walk b₀.edges b₀.size b₀.root) id := by
    rcases Nat.lt_or_ge id b₀.size with hlt | hge
    · exact .inr (.inl (hwalk.done_iff.1
        (hwalk.done_of_entered (lower_entered hclosed hlower hlt))))
    · exact .inl hge
  have htold := Blueprint.told_of_run hsafe hconstant (lower_bare hlower) hclosed₀ hwalk hrun id
    hid htext k hk
  rw [htold, hcut.expectedText_eq hcuts hclosed₀ (Blueprint.isSelfContained_of_cut hsafe) hid]

/-- A union with a constant that holds itself and a reference to a color with another one. -/
def blueSample : Schema :=
  ⟨#[{ name := "choice", options := { constant := some (.int 1) }, shape := .union [1, 0] },
    { name := "tint", options := { constant := some (.string "blue") }, shape := .reference 2 },
    plain "color" (.enumeration [
      ⟨"red", .string "red", ()⟩, ⟨"blue", .string "blue", ()⟩, ⟨"azure", .string "blue", ()⟩])]⟩

/-- The reference names the first entry with its value; the part that stands for the union has
the literal, like the union itself. -/
theorem blueprint_constants_blueSample :
    ∃ b, blueSample.blueprint Sketch.types (Sketch.rules {}) 0 = .ok b ∧
      b.parts.toList.map (fun p => p.options.constant.bind (·.text)) =
        [some "1", some "Color.BLUE", none, some "1"] ∧
      ∀ id < b.size, ∀ k, (b.part id).options.constant = some k →
        k.text = some (b.constantText "." id k.value) := by
  have hrun : (blueSample.blueprintWithin Sketch.types (Sketch.rules {}) 0 9).any
      (fun b => b.parts.toList.map (fun p => p.options.constant.bind (·.text)) =
        [some "1", some "Color.BLUE", none, some "1"]) = true := by
    decide +kernel
  obtain ⟨b, hb, htexts⟩ := blueprint_of_within hrun
  have hclosed : blueSample.IsClosed 0 := isClosed_of_range (by decide) (by decide)
  exact ⟨b, hb, of_decide_eq_true htexts, blueprint_constants rfl rfl hclosed hb⟩

end Schema

end Modelsmith
