import QueryShape.Proofs.Generation.Keys
import QueryShape.Proofs.Generation.Narrow

/-!
# What is read for a type of objects

The paths of a class are for some of the object types that its values can have. For each type they
read what an executor of the query language would collect on it, and they allow for a missing key
where a directive may leave the field out.

* `mem_collected_of_path`, `path_of_mem_collected`: the keys that are read for a type are those that
  are collected on it.
* `readsByGet_iff`: a key is allowed to be missing exactly if a directive on the field or on a
  fragment around it may leave it out.
* `agrees_with_collected`: the two for a whole selection set.
-/

namespace QueryShape

namespace Code

/-! ## Accesses -/

/-- The expressions by which a decoder gets at its value: those that its guards test, and the one
that its list or its conversion takes. -/
def Decoder.accesses : Decoder → List Expr
  | .convert _ access? => access?.toList
  | .guard subject _ body => subject :: body.accesses
  | .each source _ _ => [source]

/-- A decoder gets at its value in one way only. -/
theorem Decoder.eq_of_mem_accesses_build {template access e : Expr} {layers : List Layer}
    {arrays : Int} (h : e ∈ (Decoder.build template layers access arrays 0).accesses) :
    e = access := by
  induction layers with
  | nil => exact List.mem_singleton.mp h
  | cons layer rest ih =>
    cases layer with
    | array => exact List.mem_singleton.mp h
    | nilable =>
      rcases List.mem_cons.mp h with first | later
      · exact first
      · exact ih later

/-- What accessors read: the response object as it has come. -/
def rawResult : Expr := .member (.name "self") "raw_result"

end Code

namespace Record

open Code

/-- The path gets at the key by `get`, and gives nothing at once if that finds nothing. -/
structure Path.ReadsByGet (path : Path) (key : String) : Prop where
  guarded : ∃ body, path.decoder = .guard (.entryOrNothing rawResult key) false body
  only : ∀ access ∈ path.decoder.accesses, access = .entryOrNothing rawResult key

/-- The path gets at the key by indexing. -/
structure Path.ReadsByIndex (path : Path) (key : String) : Prop where
  starts : path.decoder.start? = some (.entry rawResult key)
  only : ∀ access ∈ path.decoder.accesses, access = .entry rawResult key

/-- No path does both. -/
theorem Path.ReadsByGet.not_readsByIndex {path : Path} {key key' : String}
    (h : path.ReadsByGet key) : ¬ path.ReadsByIndex key' := by
  intro index
  obtain ⟨body, eq⟩ := h.guarded
  have starts := index.starts
  rw [eq] at starts
  cases starts

end Record

namespace Generation

open Code Document Record

/-! ## Where a field stands -/

/-- The place of the selection set of a class, for values of a type. -/
def classPlace (s : Schema) (className : String) (owner : TypeDefinition) : Place where
  className
  owner
  typenames := .ofList (s.possibleTypes owner)

/-- The class of an operation is one for the values of its root type. -/
theorem operationPlace_eq_classPlace {s : Schema} {root : TypeDefinition}
    (isObject : root.kind = .object) (name : String) :
    operationPlace name root = classPlace s name root := by
  unfold operationPlace classPlace Schema.possibleTypes
  simp [isObject]

/-- The selection set selects a field at a place, inside fragments with the directives given,
outermost first. -/
inductive Stands (s : Schema) (fragments : List Fragment) :
    Place → List Selection → List (List Directive) → Place → Field → Prop
  | field {p : Place} {selections inner : List Selection} {f : Field}
      (mem : .field f inner ∈ selections) (asks : f.isPlainTypename = false) :
      Stands s fragments p selections [] p f
  | inline {p q r : Place} {selections under : List Selection} {f : Field}
      {condition? : Option String} {directives : List Directive} {around : List (List Directive)}
      (mem : .inline condition? directives under ∈ selections)
      (place : inlinePlace s p condition? directives = .ok q)
      (next : Stands s fragments q under around r f) :
      Stands s fragments p selections (directives :: around) r f
  | spread {p q r : Place} {selections : List Selection} {f : Field} {name : String}
      {directives : List Directive} {around : List (List Directive)} {fragment : Fragment}
      (mem : .spread name directives ∈ selections)
      (named : fragmentNamed? fragments name = some fragment)
      (place : spreadPlace s p fragment directives = .ok q)
      (next : Stands s fragments q fragment.selections around r f) :
      Stands s fragments p selections (directives :: around) r f

variable {s : Schema} {fragments : List Fragment} {p q : Place} {selections : List Selection}
  {f : Field} {around : List (List Directive)}

theorem Stands.selects (h : Stands s fragments p selections around q f) :
    ∃ inner, Selects s fragments p selections q f inner := by
  induction h with
  | field mem asks => exact ⟨_, .field mem asks⟩
  | inline mem place _ ih =>
    obtain ⟨inner, selected⟩ := ih
    exact ⟨inner, .inline mem place selected⟩
  | spread mem named place _ ih =>
    obtain ⟨inner, selected⟩ := ih
    exact ⟨inner, .spread mem named place selected⟩

theorem Selects.exists_stands {inner : List Selection}
    (h : Selects s fragments p selections q f inner) :
    ∃ around, Stands s fragments p selections around q f := by
  induction h with
  | field mem asks => exact ⟨_, .field mem asks⟩
  | inline mem place _ ih =>
    obtain ⟨around, stands⟩ := ih
    exact ⟨_, .inline mem place stands⟩
  | spread mem named place _ ih =>
    obtain ⟨around, stands⟩ := ih
    exact ⟨_, .spread mem named place stands⟩

/-- A place is conditional if a fragment on the way there is. -/
theorem Stands.isConditional (h : Stands s fragments p selections around q f) :
    q.isConditional = (p.isConditional || around.any mayLeaveOut) := by
  induction h with
  | field => simp
  | inline _ place _ ih =>
    obtain ⟨t, -, -, inside⟩ := inside_inlinePlace place
    rw [ih, inside.isConditional, List.any_cons, Bool.or_assoc]
  | spread _ _ place _ ih =>
    obtain ⟨t, -, inside⟩ := inside_spreadPlace place
    rw [ih, inside.isConditional, List.any_cons, Bool.or_assoc]

/-- One of the directives may leave out what they stand on. -/
def CarriesCondition (directives : List Directive) : Prop :=
  ∃ d ∈ directives, d.name = "include" ∨ d.name = "skip"

theorem mayLeaveOut_iff {directives : List Directive} :
    mayLeaveOut directives = true ↔ CarriesCondition directives := by
  unfold mayLeaveOut CarriesCondition conditionalDirectives
  simp

/-! ## How a key is read -/

variable {g : Setting} {r : Reading}

/-- The path of a field that may be left out. -/
theorem readsByGet_path (may : (p.isConditional || mayLeaveOut f.directives) = true) :
    (r.path p f).ReadsByGet f.responseKey where
  guarded := by
    obtain ⟨rest, eq⟩ := exists_layersOf r.definition.type
    unfold Reading.path pathOf
    simp only [may, eq]
    exact ⟨_, rfl⟩
  only := by
    intro access mem
    unfold Reading.path pathOf at mem
    rw [may] at mem
    exact Decoder.eq_of_mem_accesses_build mem

/-- The path of a field that has to come back. -/
theorem readsByIndex_path (always : (p.isConditional || mayLeaveOut f.directives) = false) :
    (r.path p f).ReadsByIndex f.responseKey where
  starts := by
    unfold Reading.path pathOf
    rw [always, Decoder.start?_build]
    rfl
  only := by
    intro access mem
    unfold Reading.path pathOf at mem
    rw [always] at mem
    exact Decoder.eq_of_mem_accesses_build mem

/-- **A key may be missing exactly if a directive on the field or on a fragment around may leave it
out**; every other key is read by indexing. -/
theorem readsByGet_iff (h : Stands s fragments p selections around q f)
    (always : p.isConditional = false) :
    ((r.path q f).ReadsByGet f.responseKey ↔
      CarriesCondition f.directives ∨ ∃ directives ∈ around, CarriesCondition directives) ∧
    ((r.path q f).ReadsByIndex f.responseKey ↔
      ¬ (CarriesCondition f.directives ∨ ∃ directives ∈ around, CarriesCondition directives)) := by
  have carries : (q.isConditional || mayLeaveOut f.directives) = true ↔
      CarriesCondition f.directives ∨ ∃ directives ∈ around, CarriesCondition directives := by
    rw [h.isConditional, always, Bool.false_or, Bool.or_eq_true, List.any_eq_true, or_comm]
    simp only [mayLeaveOut_iff]
  rw [← carries]
  by_cases may : (q.isConditional || mayLeaveOut f.directives) = true
  · have byGet := readsByGet_path (r := r) may
    exact ⟨iff_of_true byGet may,
      iff_of_false byGet.not_readsByIndex (not_not_intro may)⟩
  · have byIndex := readsByIndex_path (r := r) (by simpa using may)
    exact ⟨iff_of_false (fun byGet => byGet.not_readsByIndex byIndex) may,
      iff_of_true byIndex may⟩

/-! ## Which keys are read -/

/-- A key that only asks for the type name gives no accessor. -/
theorem responseKey_ne_typenameField (h : readingOf g p f = .ok r) :
    f.responseKey ≠ typenameField := by
  intro same
  have reserved : Naming.accessorName? typenameField = .error "typename" := by decide +kernel
  have name := accessorName?_of_readingOf h
  rw [same, reserved] at name
  cases name

theorem isPlainTypename_of_responseKey (h : f.responseKey ≠ typenameField) :
    f.isPlainTypename = false := by
  unfold Field.isPlainTypename
  unfold Field.responseKey at h
  cases renamed : f.alias? with
  | some name => rfl
  | none =>
    rw [renamed] at h
    simpa using h

variable {object : TypeDefinition} {members : Members} {key : String}

/-- What is read for a type of objects is collected on it. -/
theorem mem_collected_of_path (distinct : (g.schema.types.map (·.name)).Nodup)
    (gives : Gives g fragments p selections members) (isType : object ∈ g.schema.types)
    {a : Accessor} (ha : a ∈ members.accessors) {path : Path} (hp : path ∈ a.paths)
    (isFor : object.name ∈ path.typenames) (isKey : path.responseKey? = some key) :
    key ≠ typenameField ∧
      key ∈ (collectedWhere g.schema fragments (fun _ => true) object selections).map (·.1) := by
  obtain ⟨q, f, inner, r, selected, hr, -, rfl⟩ := (gives.accessors _ _).mp ⟨a, ha, rfl, hp⟩
  rw [responseKey?_path] at isKey
  cases isKey
  have executes : Executes g.schema fragments (fun _ => true) object selections f inner :=
    executes_of_selects distinct isType selected isFor fun _ _ => rfl
  obtain ⟨group, mem, -⟩ := mem_collected_iff.mpr ⟨rfl, executes⟩
  exact ⟨responseKey_ne_typenameField hr, List.mem_map.mpr ⟨_, mem, rfl⟩⟩

/-- What is collected on a type of objects is read for it, unless it just asks for the type
name. -/
theorem path_of_mem_collected (distinct : (g.schema.types.map (·.name)).Nodup)
    (gives : Gives g fragments p selections members)
    (sound : ∀ x ∈ survey g.schema fragments p selections, ∃ y, x = .ok y)
    (isType : object ∈ g.schema.types) (isObject : object.kind = .object)
    (isFor : p.IsFor g.schema object) (asks : key ≠ typenameField)
    (mem : key ∈ (collectedWhere g.schema fragments (fun _ => true) object selections).map (·.1)) :
    ∃ a ∈ members.accessors, ∃ path ∈ a.paths,
      object.name ∈ path.typenames ∧ path.responseKey? = some key := by
  obtain ⟨⟨_, group⟩, collected, rfl⟩ := List.mem_map.mp mem
  obtain ⟨some, all⟩ := groups_collected _ _ _ _ _ _ _ collected
  obtain ⟨⟨f, inner⟩, hf⟩ := List.exists_mem_of_ne_nil group some
  obtain ⟨rfl, executes⟩ := all _ hf
  obtain ⟨q, selected, isFor'⟩ := selects_of_executes distinct isType isObject executes
    (isPlainTypename_of_responseKey asks) (.refl fragments) sound isFor
  obtain ⟨r, hr⟩ := gives.read q f inner selected
  obtain ⟨a, ha, -, hp⟩ := (gives.accessors r.accessor (r.path q f)).mpr
    ⟨q, f, inner, r, selected, hr, rfl, rfl⟩
  exact ⟨a, ha, _, hp, isFor'.1, responseKey?_path r q f⟩

/-- The path under the accessor is that of the field at the place. -/
def IsPathOf (g : Setting) (q : Place) (f : Field) (accessor : String) (path : Path) : Prop :=
  ∃ r, readingOf g q f = .ok r ∧ r.accessor = accessor ∧ r.path q f = path

/-- What a class reads agrees with what an executor collects from its selection set. -/
structure AgreesWithCollected (g : Setting) (fragments : List Fragment) (className : String)
    (owner : TypeDefinition) (selections : List Selection) (members : Members) : Prop where
  /-- The keys that paths for a type of objects read are those that are collected on it if all
  directives leave in what they stand on, apart from that of the type name. -/
  keys : ∀ object ∈ g.schema.types, object.kind = .object →
    object.name ∈ g.schema.possibleTypes owner → ∀ key,
      (∃ a ∈ members.accessors, ∃ path ∈ a.paths,
        object.name ∈ path.typenames ∧ path.responseKey? = some key) ↔
      key ≠ typenameField ∧
        key ∈ (collectedWhere g.schema fragments (fun _ => true) object selections).map (·.1)
  /-- Every path is that of a field that is selected. -/
  origin : ∀ a ∈ members.accessors, ∀ path ∈ a.paths, ∃ around q f,
    Stands g.schema fragments (classPlace g.schema className owner) selections around q f ∧
      IsPathOf g q f a.name path
  /-- Every field that is selected has its path. -/
  recorded : ∀ around q f,
    Stands g.schema fragments (classPlace g.schema className owner) selections around q f →
      ∃ a ∈ members.accessors, ∃ path ∈ a.paths, IsPathOf g q f a.name path
  /-- The path of a field allows for a missing key exactly if a directive on the field, or on a
  fragment around it in the selection set, may leave it out. -/
  access : ∀ around q f accessor path,
    Stands g.schema fragments (classPlace g.schema className owner) selections around q f →
    IsPathOf g q f accessor path →
      (path.ReadsByGet f.responseKey ↔
        CarriesCondition f.directives ∨ ∃ directives ∈ around, CarriesCondition directives) ∧
      (path.ReadsByIndex f.responseKey ↔
        ¬ (CarriesCondition f.directives ∨ ∃ directives ∈ around, CarriesCondition directives))

/-- **For each type of objects, a class reads the keys that are collected on it**, by `get` where a
directive may leave them out in its selection set and by indexing elsewhere. -/
theorem agrees_with_collected (distinct : (g.schema.types.map (·.name)).Nodup) {className : String}
    {owner : TypeDefinition} (composite : owner.kind.isComposite = true)
    (ok : (select g fragments (classPlace g.schema className owner) selections {}).result =
      .ok members) :
    AgreesWithCollected g fragments className owner selections members := by
  have gives := gives_of_select (.refl fragments) ok
  have sound : ∀ x ∈ survey g.schema fragments (classPlace g.schema className owner) selections,
      ∃ y, x = .ok y := by
    intro x hx
    obtain ⟨y, -, eq, -⟩ := (gathered_of_select ok).read x hx
    exact ⟨y, eq⟩
  constructor
  case keys =>
    intro object isType isObject possible key
    constructor
    · rintro ⟨a, ha, path, hp, isFor, isKey⟩
      exact mem_collected_of_path distinct gives isType ha hp isFor isKey
    · rintro ⟨asks, mem⟩
      have isFor : (classPlace g.schema className owner).IsFor g.schema object :=
        ⟨NameSet.mem_ofList.mpr possible, _, if_pos composite, possible⟩
      exact path_of_mem_collected distinct gives sound isType isObject isFor asks mem
  case origin =>
    intro a ha path hp
    obtain ⟨q, f, inner, r, selected, isPath⟩ := (gives.accessors _ _).mp ⟨a, ha, rfl, hp⟩
    obtain ⟨around, stands⟩ := selected.exists_stands
    exact ⟨around, q, f, stands, r, isPath⟩
  case recorded =>
    intro around q f stands
    obtain ⟨inner, selected⟩ := stands.selects
    obtain ⟨r, hr⟩ := gives.read q f inner selected
    obtain ⟨a, ha, name, hp⟩ := (gives.accessors r.accessor (r.path q f)).mpr
      ⟨q, f, inner, r, selected, hr, rfl, rfl⟩
    exact ⟨a, ha, _, hp, r, hr, name.symm, rfl⟩
  case access =>
    rintro around q f accessor path stands ⟨r, hr, -, rfl⟩
    exact readsByGet_iff stands rfl

/-! ## An interface -/

/-- An interface, which `narrowing` selects on. -/
def node : TypeDefinition where
  name := "Node"
  body := .interface [] [{ name := "id", type := .named "ID" }]

/-- A schema with two types of objects behind the interface. -/
def nodes : Schema where
  types :=
    [node,
     { name := "A"
       body := .object ["Node"] [{ name := "id", type := .named "ID" },
         { name := "a", type := .named "ID" }] },
     { name := "B"
       body := .object ["Node"] [{ name := "id", type := .named "ID" },
         { name := "b", type := .named "ID" }] },
     { name := "ID", body := .scalar }]

/-- Selections for each of the types, of which those for `A` may be left out. -/
def narrowing : List Selection :=
  [.field { name := "id" } [],
   .inline (some "A") [{ name := "include"
                         arguments := [{ name := "if", value := .variable "x" }] }]
     [.field { name := "a" } []],
   .spread "OnB" []]

/-- The fragment for `B`. -/
def onB : Fragment where
  name := "OnB"
  condition := "B"
  selections := [.field { name := "b" } []]

theorem select_narrowing : ∃ members,
    (select { schema := nodes } [onB] (classPlace nodes "Qa__Node" node) narrowing {}).result =
      .ok members := by
  have succeeds : (select { schema := nodes } [onB] (classPlace nodes "Qa__Node" node) narrowing
      {}).result.toBool = true := by
    cbv
  cases eq : (select { schema := nodes } [onB] (classPlace nodes "Qa__Node" node) narrowing
      {}).result with
  | error e =>
    rw [eq] at succeeds
    cases succeeds
  | ok members => exact ⟨members, rfl⟩

theorem agrees_with_collected_narrowing :
    (nodes.types.map (·.name)).Nodup ∧ node.kind.isComposite = true ∧ ∃ members,
      (select { schema := nodes } [onB] (classPlace nodes "Qa__Node" node) narrowing {}).result =
        .ok members ∧
      AgreesWithCollected { schema := nodes } [onB] "Qa__Node" node narrowing members := by
  obtain ⟨members, ok⟩ := select_narrowing
  have distinct : (nodes.types.map (·.name)).Nodup := by decide
  exact ⟨distinct, rfl, members, ok,
    agrees_with_collected (g := { schema := nodes }) distinct rfl ok⟩

end Generation

end QueryShape
