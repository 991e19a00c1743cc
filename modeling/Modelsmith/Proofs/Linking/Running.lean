/-
# Running linking statements

What a file exports is decided by the statements that it ends with, and what another file finds
under the names that it imports by the statements that it begins with.  Here these statements are
run, over values that are told apart by identity.  Exports and imports of one kind meet: every name
stands for the same object on both sides, unless a default and named items are exported by
assignments.  There the last assignment replaces the object that has got the named items.
-/
import Modelsmith.Proofs.Linking.Reading

namespace Modelsmith.Linking

open Modelsmith.Text

/-! ## Statements of imports and exports -/

/-- The statements of an import. -/
def Import.statements (i : Import) : ModuleSystem → List Statement
  | .esm => [.importFrom i.defaultName i.names i.file]
  | .cjs =>
    match i.defaultName, i.names with
    | some d, [] => [.constant d (.required i.file)]
    | some d, names => [.constant d (.required i.file), .unpack names (.named d)]
    | none, [] => [.load i.file]
    | none, names => [.unpack names (.required i.file)]

/-- The statements of an export. -/
def Export.statements (e : Export) : ModuleSystem → List Statement
  | .esm =>
    (if e.names.isEmpty then [] else [.exportNames e.names]) ++
      e.defaultName.toList.map .exportDefault
  | .cjs => (e.names.map fun n => .setExport n n) ++ e.defaultName.toList.map .replaceExports

lemma Import.steps_eq (i : Import) (system : ModuleSystem) :
    i.steps system = (i.statements system).map fun st => .line st.line := by
  obtain ⟨file, defaultName, names⟩ := i
  cases system <;> cases defaultName <;> cases names <;>
    simp [steps, lines, esmLine, cjsLines, statements, Statement.line, Statement.pieces,
      Source.text, String.append_assoc]

lemma Export.steps_eq (e : Export) (system : ModuleSystem) :
    e.steps system = (e.statements system).map fun st => .line st.line := by
  obtain ⟨defaultName, names⟩ := e
  cases system <;> cases defaultName <;> cases names <;>
    simp [steps, lines, statements, Statement.line, Statement.pieces, String.append_assoc]

/-- The statements of an export of names can be read back. -/
lemma Export.isReadable_of_mem {e : Export}
    (hnames : ∀ n ∈ e.defaultName.toList ++ e.names, IsName n)
    {system : ModuleSystem} {st : Statement} (hst : st ∈ e.statements system) : st.IsReadable := by
  obtain ⟨defaultName, names⟩ := e
  simp only [List.forall_mem_append, Option.mem_toList] at hnames
  cases system with
  | esm =>
    rcases List.mem_append.1 hst with hst | hst
    · cases names with
      | nil => simp at hst
      | cons n names =>
        obtain rfl : st = .exportNames (n :: names) := by simpa using hst
        exact ⟨by simp, hnames.2⟩
    · obtain ⟨d, hd, rfl⟩ := List.mem_map.1 hst
      exact hnames.1 d (Option.mem_toList.1 hd)
  | cjs =>
    rcases List.mem_append.1 hst with hst | hst
    · obtain ⟨n, hn, rfl⟩ := List.mem_map.1 hst
      exact ⟨hnames.2 n hn, hnames.2 n hn⟩
    · obtain ⟨d, hd, rfl⟩ := List.mem_map.1 hst
      exact hnames.1 d (Option.mem_toList.1 hd)

/-- The statements of an import of names from a file can be read back. -/
lemma Import.isReadable_of_mem {i : Import}
    (hnames : ∀ n ∈ i.defaultName.toList ++ i.names, IsName n)
    (hfile : IsFile i.file) {system : ModuleSystem} {st : Statement}
    (hst : st ∈ i.statements system) : st.IsReadable := by
  obtain ⟨file, defaultName, names⟩ := i
  simp only [List.forall_mem_append, Option.mem_toList] at hnames
  cases system with
  | esm =>
    obtain rfl : st = .importFrom defaultName names file := by simpa [statements] using hst
    exact ⟨hnames.1, hnames.2, hfile⟩
  | cjs =>
    cases defaultName with
    | none =>
      cases names with
      | nil =>
        obtain rfl : st = .load file := by simpa [statements] using hst
        exact hfile
      | cons n names =>
        obtain rfl : st = .unpack (n :: names) (.required file) := by
          simpa [statements] using hst
        exact ⟨⟨by simp, hnames.2⟩, hfile⟩
    | some d =>
      have hd : IsName d := hnames.1 d rfl
      cases names with
      | nil =>
        obtain rfl : st = .constant d (.required file) := by simpa [statements] using hst
        exact ⟨hd, hfile⟩
      | cons n names =>
        obtain rfl | rfl : st = .constant d (.required file) ∨
            st = .unpack (n :: names) (.named d) := by
          simpa [statements] using hst
        · exact ⟨hd, hfile⟩
        · exact ⟨⟨by simp, hnames.2⟩, hd⟩

/-! ## Running exports -/

/-- What a name or a property can stand for. -/
inductive Value where
  | undefined
  /-- An object, by its identity. -/
  | object (id : Nat)
deriving DecidableEq, Repr

/-- The properties of all objects. -/
abbrev Properties := Nat → String → Value

/-- What the names of a file stand for. -/
abbrev Scope := String → Option Value

/-- A file before it exports anything. -/
structure File where
  /-- The objects that the names of the file stand for. -/
  object : String → Nat
  /-- The object that `exports` stands for. -/
  exports : Nat
  /-- The properties that objects have already. -/
  properties : Properties

/-- What a file gives to other files. -/
structure Publication where
  /-- The value of `module.exports`. -/
  whole : Value
  /-- The default of `export` statements. -/
  main : Option Value := none
  /-- What is exported under names by `export` statements. -/
  named : Scope := fun _ => none
  /-- The properties of objects. -/
  properties : Properties

/-- A name that stands for a value from now on.  No name is declared twice. -/
def Scope.declare (s : Scope) (name : String) (value : Value) : Option Scope :=
  match s name with
  | some _ => none
  | none => some fun other => if other = name then some value else s other

/-- Names that stand for the values that `value?` has for them. -/
def Scope.declareAll (s : Scope) (names : List String) (value? : String → Option Value) :
    Option Scope :=
  names.foldlM (fun s n => (value? n).bind (Scope.declare s n)) s

/-- An assignment to a property. -/
def Properties.set (p : Properties) (id : Nat) (key : String) (value : Value) : Properties :=
  fun id' key' => if id' = id ∧ key' = key then value else p id' key'

/-- Run a statement that exports. -/
def Statement.publish (f : File) (p : Publication) : Statement → Option Publication
  | .setExport key name =>
    some { p with properties := p.properties.set f.exports key (.object (f.object name)) }
  | .replaceExports name => some { p with whole := .object (f.object name) }
  | .exportNames names =>
    (p.named.declareAll names fun n => some (.object (f.object n))).map fun named =>
      { p with named }
  | .exportDefault name =>
    match p.main with
    | some _ => none
    | none => some { p with main := some (.object (f.object name)) }
  | _ => none

/-- What a file gives to others that ends with a text of export statements. -/
def File.publication? (f : File) (exporting : String) : Option Publication := do
  let statements ← readStatements exporting
  statements.foldlM (Statement.publish f) { whole := .object f.exports, properties := f.properties }

/-! ## Running imports -/

/-- The value of a source in a file that knows one other file. -/
def Source.value? (file : String) (p : Publication) (s : Scope) : Source → Option Value
  | .named name => s name
  | .required other => if other = file then some p.whole else none

/-- Run a statement that imports.  A file that is not there is a failure, and so is a name that it
does not export; a property that is not there is undefined. -/
def Statement.bind (file : String) (p : Publication) (s : Scope) : Statement → Option Scope
  | .importFrom defaultName names other =>
    if other = file then
      (s.declareAll defaultName.toList fun _ => p.main).bind fun s => s.declareAll names p.named
    else none
  | .constant name source => s.declareAll [name] fun _ => source.value? file p s
  | .unpack names source =>
    match source.value? file p s with
    | some (.object id) => s.declareAll names fun n => some (p.properties id n)
    | _ => none
  | .load other => if other = file then some s else none
  | _ => none

/-- What names stand for after a text of import statements that may take from `file`. -/
def Publication.scope? (p : Publication) (file importing : String) : Option Scope := do
  let statements ← readStatements importing
  statements.foldlM (Statement.bind file p) fun _ => none

/-- What names stand for in a file that begins with the text `importing`, if `file` names a file
that ends with the text `exporting`. -/
def File.linked? (f : File) (file exporting importing : String) : Option Scope :=
  (f.publication? exporting).bind fun p => p.scope? file importing

/-! ## Names that are declared together -/

/-- Different names that are free can be declared together. -/
lemma Scope.declareAll_eq {s : Scope} {names : List String} {value? : String → Option Value}
    (hdistinct : names.Nodup) (hfree : ∀ n ∈ names, s n = none)
    (hvalue : ∀ n ∈ names, (value? n).isSome) :
    s.declareAll names value? = some fun k => if k ∈ names then value? k else s k := by
  induction names generalizing s with
  | nil => simp [declareAll]
  | cons n names ih =>
    obtain ⟨hn, hdistinct⟩ := List.nodup_cons.1 hdistinct
    obtain ⟨v, hv⟩ := Option.isSome_iff_exists.1 (hvalue n (by simp))
    have hdeclare : s.declare n v = some fun k => if k = n then some v else s k := by
      simp [declare, hfree n (by simp)]
    have hrest := ih (s := fun k => if k = n then some v else s k) hdistinct
      (fun k hk => by
        have hkn : k ≠ n := fun h => hn (h ▸ hk)
        simp [hkn, hfree k (by simp [hk])])
      fun k hk => hvalue k (by simp [hk])
    rw [declareAll] at hrest ⊢
    rw [List.foldlM_cons, hv, Option.bind_some, hdeclare, Option.bind_eq_bind, Option.bind_some,
      hrest]
    -- the first name is not among the others, so that it keeps its value
    congr 1
    funext k
    by_cases hkn : k = n
    · subst hkn
      simp [hn, hv]
    · simp [hkn]

/-! ## What exports give -/

namespace File

variable (f : File) (defaultName : Option String) (names : List String)

/-- What a file gives with `export` statements. -/
def published : Publication where
  whole := .object f.exports
  main := defaultName.map fun d => .object (f.object d)
  named n := if n ∈ names then some (.object (f.object n)) else none
  properties := f.properties

/-- What a file gives with assignments. -/
def assigned : Publication where
  whole := .object ((defaultName.map f.object).getD f.exports)
  properties id key :=
    if id = f.exports ∧ key ∈ names then .object (f.object key) else f.properties id key

variable {f defaultName names}

lemma publish_setExports (p : Publication) :
    (names.map fun n => Statement.setExport n n).foldlM (Statement.publish f) p =
      some { p with
        properties := fun id key =>
          if id = f.exports ∧ key ∈ names then .object (f.object key)
          else p.properties id key } := by
  induction names generalizing p with
  | nil => simp
  | cons n names ih =>
    rw [List.map_cons, List.foldlM_cons, Statement.publish, Option.bind_eq_bind, Option.bind_some,
      ih]
    congr 2
    funext id key
    by_cases hid : id = f.exports <;> by_cases hkey : key ∈ names <;>
      by_cases hn : key = n <;> simp [Properties.set, hid, hkey, hn]

variable (hnames : ∀ n ∈ defaultName.toList ++ names, IsName n) (i : Indentation) (level : Nat)
include hnames

lemma publication?_esm (hdistinct : names.Nodup) :
    f.publication? (Code.render i level (({ defaultName, names } : Export).steps .esm)) =
      some (f.published defaultName names) := by
  have hdeclare : Scope.declareAll (fun _ => none) names (fun n => some (.object (f.object n))) =
      some (f.published defaultName names).named := by
    rw [Scope.declareAll_eq hdistinct (fun _ _ => rfl) fun _ _ => rfl]
    rfl
  have hexport : (if names.isEmpty then [] else [Statement.exportNames names]).foldlM
      (Statement.publish f) { whole := .object f.exports, properties := f.properties } =
        some { f.published none names with named := (f.published defaultName names).named } := by
    cases names with
    | nil => rfl
    | cons n names =>
      rw [List.isEmpty_cons, if_neg Bool.false_ne_true, List.foldlM_cons, Statement.publish,
        hdeclare]
      rfl
  rw [publication?, Export.steps_eq,
    readStatements_render fun st hst => Export.isReadable_of_mem hnames hst,
    Option.bind_eq_bind, Option.bind_some, Export.statements, List.foldlM_append, hexport]
  cases defaultName <;> rfl

lemma publication?_cjs :
    f.publication? (Code.render i level (({ defaultName, names } : Export).steps .cjs)) =
      some (f.assigned defaultName names) := by
  rw [publication?, Export.steps_eq,
    readStatements_render fun st hst => Export.isReadable_of_mem hnames hst]
  simp only [Option.bind_eq_bind, Option.bind_some, Export.statements, List.foldlM_append,
    publish_setExports]
  cases defaultName <;> rfl

end File

/-! ## What imports find -/

lemma Source.value?_required {p : Publication} {file : String} {id : Nat}
    (hwhole : p.whole = .object id) (s : Scope) :
    Source.value? file p s (.required file) = some (.object id) := by
  rw [value?, if_pos rfl, hwhole]

/-- Names that are taken from one object stand for its properties. -/
lemma Statement.bind_unpack {p : Publication} {file : String} {s : Scope} {names : List String}
    {source : Source} {id : Nat} (hdistinct : names.Nodup) (hfree : ∀ n ∈ names, s n = none)
    (hvalue : source.value? file p s = some (.object id)) :
    bind file p s (.unpack names source) =
      some fun k => if k ∈ names then some (p.properties id k) else s k := by
  rw [bind, hvalue]
  exact Scope.declareAll_eq hdistinct hfree fun _ _ => rfl

namespace Publication

variable {p : Publication} {defaultName : Option String} {names : List String} {file : String}
  (hnames : ∀ n ∈ defaultName.toList ++ names, IsName n)
  (hdistinct : (defaultName.toList ++ names).Nodup) (hfile : IsFile file) (i : Indentation)
  (level : Nat)
include hnames hdistinct hfile

/-- An `import` statement finds what is exported as the default and under names. -/
lemma scope?_esm (hmain : defaultName.isSome → p.main.isSome)
    (hnamed : ∀ n ∈ names, (p.named n).isSome) :
    p.scope? file (Code.render i level (({ file, defaultName, names } : Import).steps .esm)) =
      some fun k => if k ∈ names then p.named k else
        if k ∈ defaultName.toList then p.main else none := by
  obtain ⟨hdefault, hrest, hdisjoint⟩ := List.nodup_append.1 hdistinct
  have hmain' : ∀ d ∈ defaultName.toList, ((fun _ => p.main) d).isSome := by
    intro d hd
    exact hmain (Option.isSome_iff_exists.2 ⟨d, Option.mem_toList.1 hd⟩)
  have hfree : ∀ n ∈ names, (if n ∈ defaultName.toList then p.main else none) = none :=
    fun n hn => if_neg fun hd => hdisjoint n hd n hn rfl
  rw [scope?, Import.steps_eq,
    readStatements_render fun st hst => Import.isReadable_of_mem hnames hfile hst]
  rw [Option.bind_eq_bind, Option.bind_some, Import.statements, List.foldlM_cons, Statement.bind,
    if_pos rfl, Scope.declareAll_eq hdefault (fun _ _ => rfl) hmain', Option.bind_some,
    Scope.declareAll_eq hrest hfree hnamed]
  rfl

/-- Calls of `require` find the whole that a file exports and, under names, its properties. -/
lemma scope?_cjs {id : Nat} (hwhole : p.whole = .object id) :
    p.scope? file (Code.render i level (({ file, defaultName, names } : Import).steps .cjs)) =
      some fun k => if k ∈ names then some (p.properties id k) else
        if k ∈ defaultName.toList then some p.whole else none := by
  obtain ⟨-, hrest, hdisjoint⟩ := List.nodup_append.1 hdistinct
  rw [scope?, Import.steps_eq,
    readStatements_render fun st hst => Import.isReadable_of_mem hnames hfile hst,
    Option.bind_eq_bind, Option.bind_some]
  have hrequired : ∀ s, Source.value? file p s (.required file) = some (.object id) :=
    Source.value?_required hwhole
  -- the names are taken from one object, which the default stands for if there is one
  cases defaultName with
  | none =>
    cases names with
    | nil => simp [Import.statements, Statement.bind]
    | cons n names =>
      rw [Import.statements, List.foldlM_cons,
        Statement.bind_unpack hrest (fun _ _ => rfl) (hrequired _)]
      simp
  | some d =>
    have hconstant : Statement.bind file p (fun _ => none) (.constant d (.required file)) =
        some fun k => if k = d then some (.object id) else none := by
      simp [Statement.bind, hrequired, Scope.declareAll, Scope.declare]
    cases names with
    | nil => simp [Import.statements, hconstant, hwhole]
    | cons n names =>
      have hfree : ∀ k ∈ n :: names, (if k = d then some (Value.object id) else none) = none :=
        fun k hk => if_neg (hdisjoint d (by simp) k hk).symm
      have hnamed : Source.value? file p (fun k => if k = d then some (.object id) else none)
          (.named d) = some (.object id) := if_pos rfl
      rw [Import.statements, List.foldlM_cons, hconstant, Option.bind_eq_bind, Option.bind_some,
        List.foldlM_cons, Statement.bind_unpack hrest hfree hnamed]
      simp [hwhole]

end Publication

/-! ## Files that are linked -/

section Linked

variable {f : File} {defaultName : Option String} {names : List String} {file : String}
  (hnames : ∀ n ∈ defaultName.toList ++ names, IsName n)
  (hdistinct : (defaultName.toList ++ names).Nodup) (hfile : IsFile file)
  (i j : Indentation) (level level' : Nat)
include hnames hdistinct hfile

/-- With `export` and `import` statements, names stand for the objects that they stand for where
they come from. -/
lemma linked?_esm : f.linked? file
    (Code.render i level (({ defaultName, names } : Export).steps .esm))
    (Code.render j level' (({ file, defaultName, names } : Import).steps .esm)) =
      some fun k =>
        if k ∈ defaultName.toList ++ names then some (.object (f.object k)) else none := by
  have hrest : names.Nodup := (List.nodup_append.1 hdistinct).2.1
  rw [File.linked?, File.publication?_esm hnames i level hrest, Option.bind_some,
    Publication.scope?_esm hnames hdistinct hfile j level' (by simp [File.published])
      fun n hn => by simp [File.published, hn]]
  congr 1
  funext k
  by_cases hk : k ∈ names
  · simp [File.published, hk]
  · cases defaultName with
    | none => simp [hk]
    | some d => by_cases hd : k = d <;> simp [File.published, hk, hd]

/-- With assignments and calls of `require`, named items are lost if there is a default without
properties. -/
lemma linked?_cjs (hbare : ∀ d ∈ defaultName, f.object d ≠ f.exports ∧
    ∀ key, f.properties (f.object d) key = .undefined) : f.linked? file
    (Code.render i level (({ defaultName, names } : Export).steps .cjs))
    (Code.render j level' (({ file, defaultName, names } : Import).steps .cjs)) =
      some fun k =>
        if k ∈ names then some (if defaultName = none then .object (f.object k) else .undefined)
        else if k ∈ defaultName.toList then some (.object (f.object k)) else none := by
  rw [File.linked?, File.publication?_cjs hnames i level, Option.bind_some,
    Publication.scope?_cjs hnames hdistinct hfile j level' rfl]
  congr 1
  funext k
  cases defaultName with
  | none => by_cases hk : k ∈ names <;> simp [File.assigned, hk]
  | some d =>
    obtain ⟨hother, hundefined⟩ := hbare d rfl
    by_cases hk : k ∈ names
    · simp [File.assigned, hk, hother, hundefined]
    · by_cases hd : k = d
      · subst hd
        simp [File.assigned, hk]
      · simp [hk, hd]

end Linked

/-- A file takes a default and named items from another file that exports them.  The default always
stands for the same object in both files, and so do the named items with `import` and `export`
statements.  With `require` and assignments they do so if and only if there is no default beside
them: a default without properties takes the place of the object that got the named items. -/
theorem linked_iff (f : File) {defaultName : Option String} {names : List String} {file : String}
    (hnames : ∀ n ∈ defaultName.toList ++ names, IsName n)
    (hdistinct : (defaultName.toList ++ names).Nodup) (hfile : IsFile file)
    (hbare : ∀ d ∈ defaultName, f.object d ≠ f.exports ∧
      ∀ key, f.properties (f.object d) key = .undefined)
    (system : ModuleSystem) (i j : Indentation) (level level' : Nat) :
    ∃ scope, f.linked? file
        (Code.render i level (({ defaultName, names } : Export).steps system))
        (Code.render j level' (({ file, defaultName, names } : Import).steps system)) =
          some scope ∧
      (∀ d ∈ defaultName, scope d = some (.object (f.object d))) ∧
      ((∀ n ∈ names, scope n = some (.object (f.object n))) ↔
        system = .esm ∨ defaultName = none ∨ names = []) := by
  have hother : ∀ d ∈ defaultName, d ∉ names := fun d hd hmem =>
    (List.nodup_append.1 hdistinct).2.2 d (Option.mem_toList.2 hd) d hmem rfl
  cases system with
  | esm =>
    refine ⟨_, linked?_esm hnames hdistinct hfile i j level level', ?_, ?_⟩
    · intro d hd
      simp [Option.mem_def.1 hd]
    · simp +contextual
  | cjs =>
    refine ⟨_, linked?_cjs hnames hdistinct hfile i j level level' hbare, ?_, ?_⟩
    · intro d hd
      simp [hother d hd, Option.mem_def.1 hd]
    · cases defaultName with
      | none => simp +contextual
      | some d =>
        cases names with
        | nil => simp
        | cons n names => simp

/-- A file with a class and the classes of two of its parts. -/
def petFile : File where
  object n := if n = "Pet" then 1 else if n = "Kind" then 2 else 3
  exports := 0
  properties _ _ := .undefined

/-- A default beside two named items, with `import` and `export` statements. -/
theorem linked_petFile :
    ((∀ n ∈ ["Pet", "Kind", "Size"], IsName n) ∧ ["Pet", "Kind", "Size"].Nodup ∧
      IsFile "./pet" ∧ petFile.object "Pet" ≠ petFile.exports) ∧
      ∃ scope, petFile.linked? "./pet"
          (Code.render .standard 0
            (({ defaultName := some "Pet", names := ["Kind", "Size"] } : Export).steps .esm))
          (Code.render .standard 0
            (({ file := "./pet", defaultName := some "Pet", names := ["Kind", "Size"] } :
              Import).steps .esm)) = some scope ∧
        scope "Pet" = some (.object 1) ∧ scope "Kind" = some (.object 2) ∧
        scope "Size" = some (.object 3) := by
  have hnames : ∀ n ∈ ["Pet", "Kind", "Size"], IsName n := by decide +kernel
  have hfile : IsFile "./pet" := by decide +kernel
  have hbare : ∀ d ∈ some "Pet", petFile.object d ≠ petFile.exports ∧
      ∀ key, petFile.properties (petFile.object d) key = .undefined := by
    rintro d ⟨⟩
    exact ⟨by decide, fun _ => rfl⟩
  have hdistinct : ((some "Pet").toList ++ ["Kind", "Size"]).Nodup := by decide
  obtain ⟨scope, hscope, hdefault, hnamed⟩ :=
    linked_iff petFile hnames hdistinct hfile hbare .esm .standard .standard 0 0
  have hparts := hnamed.2 (.inl rfl)
  exact ⟨⟨hnames, by decide, hfile, by decide⟩, scope, hscope, hdefault "Pet" rfl,
    hparts "Kind" (by simp), hparts "Size" (by simp)⟩

/-- A default beside a named item: with assignments, the named item is undefined where it is
imported. -/
theorem linked_default_and_named :
    Code.render .standard 0
        (({ defaultName := some "Pet", names := ["Kind"] } : Export).steps .cjs) =
      "exports.Kind = Kind;\nmodule.exports = Pet;\n" ∧
    Code.render .standard 0
        (({ file := "./pet", defaultName := some "Pet", names := ["Kind"] } : Import).steps .cjs) =
      "const Pet = require(\"./pet\");\nconst \x7b Kind \x7d = Pet;\n" ∧
    (petFile.linked? "./pet" "exports.Kind = Kind;\nmodule.exports = Pet;\n"
        "const Pet = require(\"./pet\");\nconst \x7b Kind \x7d = Pet;\n").map
          (fun scope => (scope "Pet", scope "Kind")) =
      some (some (.object (petFile.object "Pet")), some .undefined) ∧
    (petFile.linked? "./pet" "export \x7b Kind \x7d;\nexport default Pet;\n"
        "import Pet, \x7b Kind \x7d from \"./pet\";\n").map
          (fun scope => (scope "Pet", scope "Kind")) =
      some (some (.object (petFile.object "Pet")), some (.object (petFile.object "Kind"))) := by
  decide +kernel

end Modelsmith.Linking
