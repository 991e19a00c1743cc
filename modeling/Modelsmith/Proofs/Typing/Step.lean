/-
# The steps of typing

Typing a blueprint goes through the events of a walk.  Each event does one of three things:
it gives a type to one part, it cuts a cycle, or it changes no type and no shape.  `TypeStep`
lists these cases with their conditions, and every fact on typing is proved from it.  Texts of
constants and types of discriminators play no role for names, shapes and types: the `bare`
form of a blueprint leaves them out.
-/
import Modelsmith.Blueprint.Typing
import Modelsmith.Proofs.Lowering

namespace Modelsmith

/-- A part without what typing adds to it: its type, the text of its constant and the type of
its discriminator. -/
def Part.bare (p : Part) : Part :=
  { p with
    type := ""
    options := { p.options with
      discriminator := p.options.discriminator.map fun d => { property := d.property }
      constant := p.options.constant.map fun c => { value := c.value } } }

namespace Part

variable (p : Part)

@[simp] lemma name_bare : p.bare.name = p.name := rfl

@[simp] lemma input_bare : p.bare.input = p.input := rfl

@[simp] lemma shape_bare : p.bare.shape = p.shape := rfl

@[simp] lemma source_bare : p.bare.source = p.source := rfl

@[simp] lemma nullable_bare : p.bare.options.nullable = p.options.nullable := rfl

@[simp] lemma format_bare : p.bare.options.format = p.options.format := rfl

@[simp] lemma parents_bare : p.bare.options.parents = p.options.parents := rfl

@[simp] lemma discriminator_bare :
    p.bare.options.discriminator.map (·.property) = p.options.discriminator.map (·.property) := by
  simp [bare, Function.comp_def]

@[simp] lemma constant_bare :
    p.bare.options.constant.map (·.value) = p.options.constant.map (·.value) := by
  simp [bare, Function.comp_def]

end Part

/-- What leading an edge to a part does to the shape of the part that the edge leaves. -/
def Link.lead (link : Link) (id : ModelId) (shape : Shape String Member) : Shape String Member :=
  match link with
  | .slot i => shape.setSlot i id
  | .target => .reference id
  | .parent _ => shape

namespace Blueprint

variable {b b' : Blueprint} {id : ModelId}

/-- Blueprints with the same root and the same parts are equal. -/
lemma ext_part (hsize : b.size = b'.size) (hroot : b.root = b'.root)
    (hpart : ∀ id < b.size, b.part id = b'.part id) : b = b' := by
  obtain ⟨parts, root⟩ := b
  obtain ⟨parts', root'⟩ := b'
  obtain rfl : root = root' := hroot
  have hparts : parts = parts' := by
    apply Array.ext hsize
    intro id hid hid'
    simpa [part, hid, hid'] using hpart id hid
  rw [hparts]

/-! ## Single changes -/

@[simp] lemma size_modify (f : Part → Part) : (b.modify id f).size = b.size := by
  simp [modify, size]

@[simp] lemma root_modify (f : Part → Part) : (b.modify id f).root = b.root := rfl

lemma part_modify_self (f : Part → Part) (hid : id < b.size) :
    (b.modify id f).part id = f (b.part id) := by
  have hid' : id < b.parts.size := hid
  simp [part, modify, Array.getElem_modify, hid']

lemma part_modify_of_ne (f : Part → Part) {j : ModelId} (hj : j ≠ id) :
    (b.modify id f).part j = b.part j := by
  simp [part, modify, Array.getElem?_modify, Ne.symm hj]

/-- A change that leaves its part as it is changes nothing. -/
lemma modify_eq_self (f : Part → Part) (hf : id < b.size → f (b.part id) = b.part id) :
    b.modify id f = b := by
  apply ext_part (size_modify f) rfl
  intro j hj
  rw [size_modify] at hj
  by_cases hji : j = id
  · subst hji
    rw [part_modify_self f hj, hf hj]
  · exact part_modify_of_ne f hji

/-- A change that keeps types changes no type. -/
lemma type_modify {f : Part → Part} (hf : ∀ p, (f p).type = p.type) (j : ModelId) :
    ((b.modify id f).part j).type = (b.part j).type := by
  by_cases hj : j = id
  · subst hj
    by_cases hlt : j < b.size
    · rw [part_modify_self f hlt, hf]
    · simp [part, modify, show ¬ j < b.parts.size from hlt]
  · rw [part_modify_of_ne f hj]

/-- Add a part of any value that stands for the visited part. -/
def addStand (b : Blueprint) (v : Visit) : Blueprint :=
  { b with parts := b.parts.push { b.part v.node with type := "", shape := .any } }

@[simp] lemma size_addStand (v : Visit) : (b.addStand v).size = b.size + 1 := by
  simp [addStand, size]

@[simp] lemma root_addStand (v : Visit) : (b.addStand v).root = b.root := rfl

lemma part_addStand_of_lt (v : Visit) (hid : id < b.size) :
    (b.addStand v).part id = b.part id := by
  have hid' : id < b.parts.size := hid
  simp [part, addStand, Array.getElem?_push, Nat.ne_of_lt hid']

lemma part_addStand_size (v : Visit) :
    (b.addStand v).part b.size = { b.part v.node with type := "", shape := .any } := by
  simp [part, addStand, size]

/-- Lead the edge of a visit to another part. -/
def lead (b : Blueprint) (v : Visit) (id : ModelId) : Blueprint :=
  match v.via with
  | some e => b.redirect e id
  | none => b

lemma redirect_eq (e : Edge) (id : ModelId) :
    b.redirect e id = b.modify e.source fun p => { p with shape := e.link.lead id p.shape } := by
  rcases e with ⟨source, link, target⟩
  cases link with
  | slot i => rfl
  | target => rfl
  | parent i => exact (modify_eq_self _ fun _ => rfl).symm

@[simp] lemma size_lead (v : Visit) : (b.lead v id).size = b.size := by
  unfold lead
  split <;> simp [redirect_eq]

@[simp] lemma root_lead (v : Visit) : (b.lead v id).root = b.root := by
  unfold lead
  split <;> simp [redirect_eq]

/-- Leading an edge to another part changes no type. -/
@[simp] lemma type_lead (v : Visit) (j : ModelId) :
    ((b.lead v id).part j).type = (b.part j).type := by
  unfold lead
  split
  · rw [redirect_eq]
    refine type_modify ?_ j
    intro p
    rfl
  · rfl

/-- The part of any value takes the place of the visited part at the end of the edge. -/
def cut (b : Blueprint) (v : Visit) : Blueprint := (b.addStand v).lead v b.size

@[simp] lemma size_cut (v : Visit) : (b.cut v).size = b.size + 1 := by simp [cut]

@[simp] lemma root_cut (v : Visit) : (b.cut v).root = b.root := by simp [cut]

lemma cut_visit (e : Edge) :
    b.cut e.visit = (b.addStand e.visit).modify e.source
      fun p => { p with shape := e.link.lead b.size p.shape } :=
  redirect_eq e b.size

lemma part_cut_source {e : Edge} (hlt : e.source < b.size) :
    (b.cut e.visit).part e.source =
      { b.part e.source with shape := e.link.lead b.size (b.part e.source).shape } := by
  rw [cut_visit, part_modify_self _ (by simpa using Nat.lt_succ_of_lt hlt),
    part_addStand_of_lt _ hlt]

lemma part_cut_of_ne {e : Edge} (hid : id < b.size) (hne : id ≠ e.source) :
    (b.cut e.visit).part id = b.part id := by
  rw [cut_visit, part_modify_of_ne _ hne, part_addStand_of_lt _ hid]

lemma part_cut_size {e : Edge} (hlt : e.source < b.size) :
    (b.cut e.visit).part b.size = { b.part e.target with type := "", shape := .any } := by
  rw [cut_visit, part_modify_of_ne _ (Nat.ne_of_gt hlt), part_addStand_size, Edge.visit_node]

/-! ## Bare blueprints -/

/-- A blueprint with bare parts. -/
def bare (b : Blueprint) : Blueprint := { b with parts := b.parts.map Part.bare }

@[simp] lemma size_bare : b.bare.size = b.size := by simp [bare, size]

@[simp] lemma root_bare : b.bare.root = b.root := rfl

@[simp] lemma part_bare : b.bare.part id = (b.part id).bare := by
  by_cases hid : id < b.parts.size
  · simp [part, bare, hid]
  · simp [part, bare, hid, Part.bare]

lemma size_eq_of_bare (h : b'.bare = b.bare) : b'.size = b.size := by
  rw [← size_bare, h, size_bare]

/-- Changes that agree on a part up to its bare form agree on the bare blueprint. -/
lemma bare_modify {f g : Part → Part} (hfg : (f (b.part id)).bare = g (b.part id).bare) :
    (b.modify id f).bare = b.bare.modify id g := by
  refine ext_part (by simp) rfl fun j hj => ?_
  simp only [size_bare, size_modify] at hj
  by_cases hji : j = id
  · subst hji
    rw [part_bare, part_modify_self f hj, part_modify_self g (by simpa using hj), hfg, part_bare]
  · rw [part_bare, part_modify_of_ne f hji, part_modify_of_ne g hji, part_bare]

lemma bare_addStand (v : Visit) : (b.addStand v).bare = b.bare.addStand v := by
  refine ext_part (by simp) rfl fun j hj => ?_
  simp only [size_bare, size_addStand] at hj
  rcases Nat.lt_succ_iff_lt_or_eq.1 hj with hj | rfl
  · rw [part_bare, part_addStand_of_lt v hj, part_addStand_of_lt v (by simpa using hj), part_bare]
  · rw [part_bare, part_addStand_size, ← size_bare, part_addStand_size, part_bare]
    rfl

lemma bare_lead (v : Visit) : (b.lead v id).bare = b.bare.lead v id := by
  unfold lead
  split
  · rw [redirect_eq, redirect_eq]
    exact bare_modify rfl
  · rfl

/-! ## Steps -/

/-- A change of texts of constants and types of discriminators only. -/
structure Keeps (b b' : Blueprint) : Prop where
  bare : b'.bare = b.bare
  type : ∀ id, (b'.part id).type = (b.part id).type

lemma Keeps.refl (b : Blueprint) : Keeps b b := ⟨rfl, fun _ => rfl⟩

lemma Keeps.trans {c : Blueprint} (h : Keeps b b') (h' : Keeps b' c) : Keeps b c :=
  ⟨h'.bare.trans h.bare, fun id => (h'.type id).trans (h.type id)⟩

/-- A part gets the type that the table writes for it; nothing else changes but texts of
constants and types of discriminators. -/
def Gives (table : TypeTable) (b : Blueprint) (id : ModelId) (b' : Blueprint) : Prop :=
  ∃ property type, table.typeOf { blueprint := b, id, property } = .ok type ∧
    Keeps (b.modify id fun p => { p with type }) b'

/-- What an event of the walk can do to a blueprint. -/
inductive TypeStep (table : TypeTable) (b : Blueprint) : Event → Blueprint → Prop
  /-- A part of a safe variant gets its type on the way in. -/
  | enterSafe {v : Visit} {b' : Blueprint} (safe : table.isSafe (b.part v.node).variant = true)
      (gives : Gives table b v.node b') : TypeStep table b (.enter v) b'
  | enterOther {v : Visit} (other : table.isSafe (b.part v.node).variant = false) :
      TypeStep table b (.enter v) b
  /-- An edge to a part that is done or has its type is left as it is. -/
  | again {v : Visit} {o : Bool} (typed : o = false ∨ table.isSafe (b.part v.node).variant = true) :
      TypeStep table b (.again v o) b
  /-- An edge to an open part without a type is cut. -/
  | cut {v : Visit} {b' : Blueprint} (other : table.isSafe (b.part v.node).variant = false)
      (gives : Gives table (b.addStand v) b.size b') :
      TypeStep table b (.again v true) (b'.lead v b.size)
  | leaveSafe {v : Visit} {b' : Blueprint} (safe : table.isSafe (b.part v.node).variant = true)
      (keeps : Keeps b b') : TypeStep table b (.leave v) b'
  /-- A part of any other variant gets its type on the way out. -/
  | leaveOther {v : Visit} {b' : Blueprint}
      (other : table.isSafe (b.part v.node).variant = false)
      (gives : Gives table b v.node b') : TypeStep table b (.leave v) b'

variable {table : TypeTable} {rules : NamingRules} {property : Option (Property String)}

/-- A change of the options of a part that leaves its bare form as it is. -/
lemma keeps_modify {f : Part → Part} (hbare : (f (b.part id)).bare = (b.part id).bare)
    (htype : ∀ p, (f p).type = p.type) : Keeps b (b.modify id f) := by
  refine ⟨?_, type_modify htype⟩
  rw [bare_modify (g := fun p => p) hbare, modify_eq_self _ fun _ => rfl]

lemma assignType_gives (h : b.assignType table id property = .ok b') : Gives table b id b' := by
  simp only [assignType, bind_eq_ok, blame_eq_ok, pure_eq_ok] at h
  obtain ⟨type, htype, rfl⟩ := h
  exact ⟨property, type, htype, .refl _⟩

lemma assignConstant_keeps (h : b.assignConstant rules id = .ok b') : Keeps b b' := by
  simp only [assignConstant] at h
  split at h
  · obtain rfl := pure_eq_ok.1 h
    exact .refl b
  · next c hc =>
    simp only [bind_eq_ok, blame_eq_ok, pure_eq_ok] at h
    obtain ⟨text, -, rfl⟩ := h
    exact keeps_modify (by simp [Part.bare, hc]) fun _ => rfl

lemma resolveDiscriminator_keeps : Keeps b (b.resolveDiscriminator id) := by
  simp only [resolveDiscriminator]
  split
  · next d members hd hshape =>
    split
    · exact keeps_modify (by simp [Part.bare, hd]) fun _ => rfl
    · exact .refl b
  · exact .refl b

lemma Gives.keeps {c : Blueprint} (h : Gives table b id b') (hk : Keeps b' c) :
    Gives table b id c := by
  obtain ⟨property, type, htype, hkeeps⟩ := h
  exact ⟨property, type, htype, hkeeps.trans hk⟩

/-- What is left to do when a part has its type: a reference gets its constant and a union its
discriminator. -/
lemma finish_cases {variant : Variant}
    (h : (match variant with
      | .reference => b.assignConstant rules id
      | .union => pure (b.resolveDiscriminator id)
      | _ => pure b) = Except.ok b') :
    (variant = .reference ∧ b.assignConstant rules id = .ok b') ∨
      (variant = .union ∧ b.resolveDiscriminator id = b') ∨
      (variant ≠ .reference ∧ variant ≠ .union ∧ b = b') := by
  split at h
  · exact .inl ⟨rfl, h⟩
  · exact .inr (.inl ⟨rfl, pure_eq_ok.1 h⟩)
  · next hne hne' => exact .inr (.inr ⟨hne, hne', pure_eq_ok.1 h⟩)

/-- What happens when the walk leaves a node: a part of an unsafe variant gets its type and its
constant first. -/
lemma leave_cases {v : Visit} (h : typeEvent table rules b (.leave v) = .ok b') :
    ∃ c : Blueprint,
      ((table.isSafe (b.part v.node).variant = true ∧ c = b) ∨
        (table.isSafe (b.part v.node).variant = false ∧
          ∃ c', b.assignType table v.node (b.propertyOf v) = .ok c' ∧
            c'.assignConstant rules v.node = .ok c)) ∧
      (((b.part v.node).variant = .reference ∧ c.assignConstant rules v.node = .ok b') ∨
        ((b.part v.node).variant = .union ∧ c.resolveDiscriminator v.node = b') ∨
        ((b.part v.node).variant ≠ .reference ∧ (b.part v.node).variant ≠ .union ∧ c = b')) := by
  simp only [typeEvent] at h
  split at h
  · next hsafe =>
    simp only [bind_eq_ok, pure_eq_ok] at h
    obtain ⟨c, rfl, hlast⟩ := h
    exact ⟨b, .inl ⟨hsafe, rfl⟩, finish_cases hlast⟩
  · next hother =>
    simp only [bind_eq_ok] at h
    obtain ⟨c', hc', c, hc, hlast⟩ := h
    exact ⟨c, .inr ⟨by simpa using hother, c', hc', hc⟩, finish_cases hlast⟩

/-- Cutting a cycle gives the new part its type and leads the edge to it. -/
lemma cutCycle_gives {v : Visit} (h : b.cutCycle table rules v = .ok b') :
    ∃ c, Gives table (b.addStand v) b.size c ∧ b' = c.lead v b.size := by
  simp only [cutCycle, bind_eq_ok, pure_eq_ok] at h
  obtain ⟨c, hc, c', hc', rfl⟩ := h
  exact ⟨c', (assignType_gives hc).keeps (assignConstant_keeps hc'), rfl⟩

/-- Every event of the walk does one of the listed steps. -/
theorem typeEvent_step {event : Event} (h : typeEvent table rules b event = .ok b') :
    TypeStep table b event b' := by
  cases event with
  | enter v =>
    simp only [typeEvent] at h
    cases hsafe : table.isSafe (b.part v.node).variant with
    | false =>
      obtain rfl : b = b' := by simpa [hsafe, pure_eq_ok] using h
      exact .enterOther hsafe
    | true =>
      simp only [hsafe, Bool.not_true, Bool.false_eq_true, if_false, bind_eq_ok] at h
      obtain ⟨c, hc, h⟩ := h
      refine .enterSafe hsafe ((assignType_gives hc).keeps ?_)
      split at h
      · obtain rfl := pure_eq_ok.1 h
        exact .refl c
      · exact assignConstant_keeps h
  | again v o =>
    simp only [typeEvent] at h
    split at h
    · next hcut =>
      obtain ⟨rfl, hother⟩ : o = true ∧ table.isSafe (b.part v.node).variant = false := by
        simpa using hcut
      obtain ⟨c, hc, rfl⟩ := cutCycle_gives h
      exact .cut hother hc
    · next hkeep =>
      obtain rfl := pure_eq_ok.1 h
      refine .again ?_
      cases o with
      | false => exact .inl rfl
      | true => exact .inr (by simpa using hkeep)
  | leave v =>
    obtain ⟨c, hfirst, hlast⟩ := leave_cases h
    have hkeeps : Keeps c b' := by
      rcases hlast with ⟨-, hconstant⟩ | ⟨-, rfl⟩ | ⟨-, -, rfl⟩
      · exact assignConstant_keeps hconstant
      · exact resolveDiscriminator_keeps
      · exact .refl c
    rcases hfirst with ⟨hsafe, rfl⟩ | ⟨hother, c', hc', hc⟩
    · exact .leaveSafe hsafe hkeeps
    · exact .leaveOther hother
        (((assignType_gives hc').keeps (assignConstant_keeps hc)).keeps hkeeps)

/-- A run that ends with an event is a run and one more step. -/
lemma run_append {c' : Blueprint} {past : List Event} {event : Event}
    (hrun : (past ++ [event]).foldlM (typeEvent table rules) b = .ok c') :
    ∃ c, past.foldlM (typeEvent table rules) b = .ok c ∧ TypeStep table c event c' := by
  rw [List.foldlM_append, bind_eq_ok] at hrun
  obtain ⟨c, hc, hevent⟩ := hrun
  rw [List.foldlM_cons, bind_eq_ok] at hevent
  obtain ⟨c', hevent, hdone⟩ := hevent
  obtain rfl := pure_eq_ok.1 hdone
  exact ⟨c, hc, typeEvent_step hevent⟩

end Blueprint

end Modelsmith
