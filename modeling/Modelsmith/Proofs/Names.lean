/-
# Names of a blueprint

Every name in a blueprint is an identifier that the naming convention gives, among the names
before it in the same object or enumeration.  Cutting a cycle repeats the name of a part and
changes no other name.
-/
import Modelsmith.Proofs.Evaluation
import Modelsmith.Proofs.Naming.Clash
import Modelsmith.Proofs.Typing.Cut
import Modelsmith.Target.Sketch

namespace Modelsmith

/-- The names inside a shape: those of the properties of an object and the keys of an
enumeration. -/
def Shape.labels : Shape String Member → List String
  | object properties => properties.map (·.label)
  | enumeration entries => entries.map (·.label.key)
  | _ => []

/-- Leading links elsewhere changes no name. -/
@[simp] lemma Shape.labels_relink (f : Link → ModelId → ModelId) (shape : Shape String Member) :
    (shape.relink f).labels = shape.labels := by
  cases shape with
  | object properties => apply List.ext_getElem <;> simp [relink, mapSlots, labels]
  | _ => rfl

/-- What is said about the names of a part: its own name and those inside of it are names, and
the latter differ from each other. -/
structure Part.HasNames (c : Naming.Convention) (p : Part) : Prop where
  name : c.IsName p.name
  labels_nodup : p.shape.labels.Nodup
  labels : ∀ label ∈ p.shape.labels, c.IsName label

namespace NamingRules

variable {c : Naming.Convention} {separator : String} {valueText : Json → String}

lemma properties_ofConvention {object : Model} {place : ModelId → ModelId} {owner : ModelId}
    {earlier : List (Property String)} {ps : List (Property Unit)} {qs : List (Property String)}
    (h : (ofConvention c separator valueText).properties object place owner earlier ps = .ok qs) :
    qs.map (·.label) = c.identifiers .property (earlier.map (·.label)) (ps.map (·.name)) := by
  induction ps generalizing earlier qs with
  | nil =>
    obtain rfl : [] = qs := pure_eq_ok.1 h
    rfl
  | cons p ps ih =>
    simp only [properties, bind_eq_ok, pure_eq_ok] at h
    obtain ⟨key, hkey, qs, hqs, rfl⟩ := h
    obtain rfl : c.identifier .property (earlier.map (·.label)) p.name = key := pure_eq_ok.1 hkey
    rw [List.map_cons, ih hqs, List.map_cons, Naming.Convention.identifiers, List.map_append]
    rfl

lemma members_ofConvention {m : Model} {earlier : List (Entry Member)} {es : List (Entry Unit)}
    {fs : List (Entry Member)}
    (h : (ofConvention c separator valueText).members m earlier es = .ok fs) :
    fs.map (·.label.key) =
      c.identifiers .enumKey (earlier.map (·.label.key)) (es.map (·.key)) := by
  induction es generalizing earlier fs with
  | nil =>
    obtain rfl : [] = fs := pure_eq_ok.1 h
    rfl
  | cons e es ih =>
    simp only [members, bind_eq_ok, pure_eq_ok] at h
    obtain ⟨key, hkey, text, -, fs, hfs, rfl⟩ := h
    obtain rfl : c.identifier .enumKey (earlier.map (·.label.key)) e.key = key :=
      pure_eq_ok.1 hkey
    rw [List.map_cons, ih hfs, List.map_cons, Naming.Convention.identifiers, List.map_append]
    rfl

end NamingRules

namespace Schema

variable {s : Schema} {table : TypeTable} {c : Naming.Convention} {separator : String}
  {valueText : Json → String} {root : ModelId} {b : Blueprint}

/-- The names inside a lowered shape are the identifiers of raw names. -/
lemma lowerShape_labels {m : Model} {place : ModelId → ModelId} {owner : ModelId}
    {shape : Shape String Member}
    (h : lowerShape (.ofConvention c separator valueText) m place owner = .ok shape) :
    ∃ role raws, shape.labels = c.identifiers role [] raws := by
  obtain ⟨name, input, options, mshape⟩ := m
  cases mshape with
  | object ps =>
    simp only [lowerShape, bind_eq_ok, pure_eq_ok] at h
    obtain ⟨qs, hqs, rfl⟩ := h
    exact ⟨.property, _, NamingRules.properties_ofConvention hqs⟩
  | enumeration es =>
    simp only [lowerShape, bind_eq_ok, pure_eq_ok] at h
    obtain ⟨fs, hfs, rfl⟩ := h
    exact ⟨.enumKey, _, NamingRules.members_ofConvention hfs⟩
  | any | string | integer | float | boolean | array | tuple | union | dictionary | reference =>
    obtain rfl := pure_eq_ok.1 h
    exact ⟨.model, [], rfl⟩

lemma lower_hasNames (hc : c.SparesMark)
    (h : s.lower (.ofConvention c separator valueText) root = .ok b) {id : ModelId}
    (hid : id < b.size) : (b.part id).HasNames c := by
  rw [lower_size h] at hid
  have hpart := lower_part h (List.getElem_mem hid)
  rw [placeOf_reached_getElem hid] at hpart
  obtain ⟨role, raws, hlabels⟩ := lowerShape_labels hpart.shape
  have hspec := Naming.Convention.identifiers_spec role [] hc raws
  have hname : c.standalone .model (s.model (s.reached root)[id]).name = (b.part id).name :=
    pure_eq_ok.1 hpart.name
  refine ⟨?_, ?_, ?_⟩
  · rw [← hname]
    exact Naming.Convention.isName_identifier .model [] hc _
  · rw [hlabels]
    exact hspec.1
  · rw [hlabels]
    exact fun label hlabel => (hspec.2 label hlabel).1

lemma blueprint_hasNames (hc : c.SparesMark)
    (h : s.blueprint table (.ofConvention c separator valueText) root = .ok b) {id : ModelId}
    (hid : id < b.size) : (b.part id).HasNames c := by
  obtain ⟨b₀, hlower, hcuts, hcut⟩ := blueprint_isCut h
  rcases hcut.part_cases hid with ⟨hid₀, hpart⟩ | ⟨v, hv, -, hpart⟩
  · have hnames := lower_hasNames hc hlower hid₀
    have hshape : (b.part id).shape.labels = (b₀.part id).shape.labels := by
      rw [← Part.shape_bare, hpart, Shape.labels_relink]
    refine ⟨?_, hshape ▸ hnames.labels_nodup, hshape ▸ hnames.labels⟩
    rw [← Part.name_bare, hpart]
    exact hnames.name
  · have hshape : (b.part id).shape = .any := by rw [← Part.shape_bare, hpart]
    refine ⟨?_, by simp [hshape, Shape.labels], by simp [hshape, Shape.labels]⟩
    rw [← Part.name_bare, hpart]
    exact (lower_hasNames hc hlower (hcuts.edge v hv).1).name

/-- The three conventions reserve no word with the mark at its start. -/
lemma sparesMark_of_mem (hc : c ∈ [Naming.rust, Naming.typeScript, Naming.sketch]) :
    c.SparesMark := by
  have hall : ∀ c ∈ [Naming.rust, Naming.typeScript, Naming.sketch], c.SparesMark := by
    decide +kernel
  exact hall c hc

/-- In a blueprint for one of the three conventions, with any spellings of model and property
names, every name is an identifier of the target, and neither the properties of an object nor
the entries of an enumeration share a name. -/
theorem blueprint_names (hc : c ∈ [Naming.rust, Naming.typeScript, Naming.sketch])
    (o : Naming.Overrides)
    (h : s.blueprint table (.ofConvention (c.override o) separator valueText) root = .ok b) :
    ∀ id < b.size, c.IsName (b.part id).name ∧ (b.part id).shape.labels.Nodup ∧
      ∀ label ∈ (b.part id).shape.labels, c.IsName label := by
  have hspares : c.SparesMark := sparesMark_of_mem hc
  have hsame : ∀ {name}, (c.override o).IsName name → c.IsName name :=
    fun ⟨hne, hdigit, hfree⟩ => ⟨hne, hdigit, hfree⟩
  intro id hid
  obtain ⟨hname, hnodup, hlabels⟩ := blueprint_hasNames (c := c.override o) hspares h hid
  exact ⟨hsame hname, hnodup, fun label hlabel => hsame (hlabels label hlabel)⟩

/-- Two entries with the same spelling: the second one is marked. -/
theorem blueprint_names_clashSample :
    ∃ b, clashSample.blueprint Sketch.types (Sketch.rules {}) 0 = .ok b ∧
      (b.part 0).shape.labels = ["NUMBER_1", "RESERVED_NUMBER_1"] ∧
      ∀ id < b.size, Naming.sketch.IsName (b.part id).name ∧ (b.part id).shape.labels.Nodup ∧
        ∀ label ∈ (b.part id).shape.labels, Naming.sketch.IsName label := by
  have hrun : (clashSample.blueprintWithin Sketch.types (Sketch.rules {}) 0 4).any
      (fun b => (b.part 0).shape.labels = ["NUMBER_1", "RESERVED_NUMBER_1"]) = true := by
    decide +kernel
  obtain ⟨b, hb, hlabels⟩ := blueprint_of_within hrun
  exact ⟨b, hb, of_decide_eq_true hlabels, blueprint_names (by simp) {} hb⟩

end Schema

end Modelsmith
