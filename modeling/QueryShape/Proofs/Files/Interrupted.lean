import QueryShape.Proofs.Files.Package
import QueryShape.Proofs.Module.Package
import QueryShape.Proofs.Program.Usable

/-!
# Packages that are left unfinished

Everything that is written as one module has a text before a file is touched, and so have the
classes of a package. The module of a package is given its text last, when the others have been
written, so they stay there if it has none.

* `writeModule_of_error`: no file is touched where one module cannot be written.
* `outcome_writePackage_eq_error_iff`: where an error of generation stops a package.
* `allOrNothing_iff`: when a package is written as a whole or not at all, and what is left if not.
* `unfinished_package`: an operation whose name leaves a package unfinished.
-/

namespace QueryShape.Files

open Generation Program
open Grammar (Importable)

variable {hooks : Hooks} {folder : String} {w w' : Written}

/-! ## What stops writing -/

theorem Writing.outcome_bind_error {x : Writing α} {e : WriteFault}
    (h : x.outcome w = (.error e, w')) (next : α → Writing β) :
    (x >>= next).outcome w = (.error e, w') := by
  have step : (x >>= next).outcome w =
      (ExceptT.bindCont next (x.outcome w).1).run (x.outcome w).2 := rfl
  rw [step, h]
  rfl

/-- The place of a file is taken by a folder, or the file is written. -/
theorem outcome_writeFile_taken {name : String} (h : IsPlain name)
    (taken : w.tree.isFolder (w.tree.routeOf folder ++ [name]) = true) (text : String) :
    (writeFile hooks (packagePath folder name) text).outcome w =
      (.error (.file .isFolder), w) := by
  have refused : w.tree.write (w.tree.routeOf (packagePath folder name))
      (hooks.runAfter (lastName (packagePath folder name)) text) = .error .isFolder := by
    rw [routeOf_packagePath _ h, Tree.write, if_pos taken]
  refine (Writing.outcome_bind (Writing.outcome_get w) _).trans ?_
  simp only [refused]
  rfl

/-- No error of generation comes of a file that has a text. -/
theorem outcome_writeFile_ne (path text : String) {e : GenerationError} :
    (writeFile hooks path text).outcome w ≠ (.error (.generation e), w') := by
  have step : (writeFile hooks path text).outcome w = Writing.outcome (do
      let tree ← ofResult .file
        (w.tree.write (w.tree.routeOf path) (hooks.runAfter (lastName path) text))
      modify fun w => { w with tree, paths := w.paths ++ [path] }) w :=
    Writing.outcome_bind (Writing.outcome_get w) _
  rw [step]
  cases w.tree.write (w.tree.routeOf path) (hooks.runAfter (lastName path) text) with
  | error fault => nofun
  | ok tree => nofun

/-- **No file is touched where one module cannot be written.** -/
theorem writeModule_of_error {s : Session} {t : Module.Templates} {output : String}
    {e : GenerationError}
    (stopped : (writeModule s t hooks output).outcome w = (.error (.generation e), w')) :
    s.contents t = .error e ∧ w'.paths = w.paths ∧ w'.tree.files = w.tree.files := by
  have step := Writing.outcome_bind (Writing.outcome_get w) fun v => do
    makeFolder (v.tree.routeOf (plainPath output)).dropLast
    writeFile hooks (plainPath output) (← ofResult .generation (s.contents t))
  change (writeModule s t hooks output).outcome w = _ at step
  rw [step] at stopped
  rcases outcome_makeFolder (w.tree.routeOf (plainPath output)).dropLast w with
    ⟨w₀, made, kept⟩ | ⟨_, failed⟩
  · rw [Writing.outcome_bind made] at stopped
    cases text : s.contents t with
    | error e' =>
      rw [text] at stopped
      cases stopped
      exact ⟨rfl, kept⟩
    | ok module =>
      have given :
          (ofResult WriteFault.generation (s.contents t)).outcome w₀ = (.ok module, w₀) := by
        rw [text]
        rfl
      rw [Writing.outcome_bind given] at stopped
      exact absurd stopped (outcome_writeFile_ne (plainPath output) module)
  · rw [Writing.outcome_bind_error failed] at stopped
    cases stopped

/-- No folder is in the place of a file of a class. -/
def Free (w : Written) (folder : String) (files : List ClassFile) : Prop :=
  ∀ f ∈ files, w.tree.isFolder (w.tree.routeOf folder ++ [fileOf f.className]) = false

/-- Where the files of classes are not all written, the fault is with a folder. -/
theorem outcome_writeFiles_of_not_free (hooks : Hooks) {files : List ClassFile}
    (taken : ¬ Free w folder files) (plain : ∀ f ∈ files, IsPlain (fileOf f.className)) :
    ∃ w', Writing.outcome (forIn files PUnit.unit fun f _ => do
      writeFile hooks (packagePath folder (fileOf f.className)) f.code
      pure (ForInStep.yield PUnit.unit)) w = (.error (.file .isFolder), w') := by
  induction files generalizing w with
  | nil => exact absurd (fun _ h => absurd h List.not_mem_nil) taken
  | cons f rest ih =>
    obtain ⟨hf, hrest⟩ := List.forall_mem_cons.mp plain
    rw [List.forIn_cons]
    cases here : w.tree.isFolder (w.tree.routeOf folder ++ [fileOf f.className]) with
    | true =>
      have refused : Writing.outcome (do
          writeFile hooks (packagePath folder (fileOf f.className)) f.code
          pure (ForInStep.yield PUnit.unit)) w = (.error (.file .isFolder), w) :=
        Writing.outcome_bind_error (outcome_writeFile_taken hf here f.code) _
      exact ⟨w, Writing.outcome_bind_error refused _⟩
    | false =>
      have written : Writing.outcome (do
          writeFile hooks (packagePath folder (fileOf f.className)) f.code
          pure (ForInStep.yield PUnit.unit)) w =
          (.ok (ForInStep.yield PUnit.unit), w.put hooks folder (fileOf f.className) f.code) :=
        Writing.outcome_bind (outcome_writeFile hf here f.code) _
      have later : ¬ Free (w.put hooks folder (fileOf f.className) f.code) folder rest := by
        refine fun free => taken (List.forall_mem_cons.mpr ⟨here, fun g hg => ?_⟩)
        rw [← isFolder_put]
        exact free g hg
      obtain ⟨w', stopped⟩ := ih later hrest
      exact ⟨w', (Writing.outcome_bind written _).trans stopped⟩

/-- The folder of a package can be made, and no folder is in the place of a file of a class. -/
structure Takes (w : Written) (folder : String) (files : List ClassFile) (w' : Written) :
    Prop where
  made : (makeFolder (w.tree.routeOf folder)).outcome w = (.ok (), w')
  free : Free w' folder files

variable {s : Session} {t : Module.Templates} {output : String} {e : GenerationError}

theorem plain_of_classFiles {files : List ClassFile} (given : s.classFiles t = .ok files)
    (words : ∀ name ∈ s.registry.names, Naming.IsWord name.toList) :
    ∀ f ∈ files, IsPlain (fileOf f.className) := fun f hf =>
  isPlain_fileOf (words _ ((of_classFiles given).1.mem_iff.mp (List.mem_map.mpr ⟨f, hf, rfl⟩)))

/-! ## What writing a package comes to -/

section
variable {files : List ClassFile} {w₀ : Written}

theorem outcome_writePackage_of_error (refused : s.classFiles t = .error e)
    (made : (makeFolder (w.tree.routeOf (plainPath output))).outcome w = (.ok (), w₀)) :
    (writePackage s t hooks output).outcome w = (.error (.generation e), w₀) := by
  refine (Writing.outcome_bind (Writing.outcome_get w) _).trans ?_
  refine (Writing.outcome_bind made _).trans ?_
  rw [refused]
  rfl

theorem outcome_writePackage_of_not_free (hooks : Hooks) (given : s.classFiles t = .ok files)
    (words : ∀ name ∈ s.registry.names, Naming.IsWord name.toList)
    (made : (makeFolder (w.tree.routeOf (plainPath output))).outcome w = (.ok (), w₀))
    (taken : ¬ Free w₀ (plainPath output) files) :
    ∃ w', (writePackage s t hooks output).outcome w = (.error (.file .isFolder), w') := by
  obtain ⟨w', failed⟩ := outcome_writeFiles_of_not_free hooks taken
    (plain_of_classFiles given words)
  refine ⟨w', (Writing.outcome_bind (Writing.outcome_get w) _).trans ?_⟩
  refine (Writing.outcome_bind made _).trans ?_
  rw [given]
  exact Writing.outcome_bind_error failed _

theorem outcome_writePackage_of_takes (given : s.classFiles t = .ok files)
    (words : ∀ name ∈ s.registry.names, Naming.IsWord name.toList)
    (takes : Takes w (plainPath output) files w₀) :
    let classes := w₀.putAll hooks (plainPath output) (filesOf files)
    (writePackage s t hooks output).outcome w = match s.package t with
      | .ok text =>
        (writeFile hooks (packagePath (plainPath output) packageFile) text).outcome classes
      | .error e => (.error (.generation e), classes) := by
  refine (Writing.outcome_bind (Writing.outcome_get w) _).trans ?_
  refine (Writing.outcome_bind takes.made _).trans ?_
  rw [given]
  refine (Writing.outcome_bind (outcome_writeFiles takes.free (plain_of_classFiles given words))
    _).trans ?_
  cases s.package t with
  | error e => rfl
  | ok text => exact Writing.outcome_bind rfl _

end

/-- **Where an error of generation stops a package**: before any file, as the class files have no
text, or after all class files, as the package has none. -/
theorem outcome_writePackage_eq_error_iff
    (words : ∀ name ∈ s.registry.names, Naming.IsWord name.toList) :
    (writePackage s t hooks output).outcome w = (.error (.generation e), w') ↔
      (s.classFiles t = .error e ∧
        (makeFolder (w.tree.routeOf (plainPath output))).outcome w = (.ok (), w')) ∨
      ∃ files w₀, s.classFiles t = .ok files ∧ Takes w (plainPath output) files w₀ ∧
        s.package t = .error e ∧ w' = w₀.putAll hooks (plainPath output) (filesOf files) := by
  constructor
  · intro stopped
    rcases outcome_makeFolder (w.tree.routeOf (plainPath output)) w with ⟨w₀, made, -⟩ | ⟨_, failed⟩
    · cases given : s.classFiles t with
      | error e' =>
        rw [outcome_writePackage_of_error given made] at stopped
        cases stopped
        exact Or.inl ⟨rfl, made⟩
      | ok files =>
        by_cases free : Free w₀ (plainPath output) files
        · rw [outcome_writePackage_of_takes given words ⟨made, free⟩] at stopped
          cases package : s.package t with
          | error e' =>
            rw [package] at stopped
            cases stopped
            exact Or.inr ⟨files, w₀, rfl, ⟨made, free⟩, rfl, rfl⟩
          | ok text =>
            rw [package] at stopped
            exact absurd stopped (outcome_writeFile_ne _ text)
        · obtain ⟨_, failed⟩ :=
            outcome_writePackage_of_not_free hooks given words made free
          rw [failed] at stopped
          cases stopped
    · have refused : (writePackage s t hooks output).outcome w = _ :=
        (Writing.outcome_bind (Writing.outcome_get w) _).trans (Writing.outcome_bind_error failed _)
      rw [refused] at stopped
      cases stopped
  · rintro (⟨refused, made⟩ | ⟨files, w₀, given, takes, refused, rfl⟩)
    · exact outcome_writePackage_of_error refused made
    · rw [outcome_writePackage_of_takes given words takes, refused]

/-! ## When the module of a package has a text -/

/-- The module of a package is one: the text of the template is, if there is one, or all classes can
be imported. -/
def PackageFits (t : Module.Templates) (classNames : List String) : Prop :=
  match t.package? with
  | some text => Grammar.isModule text = true
  | none => ∀ name ∈ classNames, Importable name

theorem isModule_iff_packageFits {classNames : List String}
    (words : ∀ name ∈ classNames, Naming.IsWord name.toList ∧ Naming.IsLed name.toList) :
    Grammar.isModule (Module.packageText t classNames) = true ↔ PackageFits t classNames := by
  unfold PackageFits
  cases given : t.package? with
  | some text => rw [Module.packageText, given, Option.getD_some]
  | none =>
    exact Module.isModule_packageText_iff given (fun name mem => (words name mem).1)
      fun name mem => (words name mem).2

theorem packageFits_of_perm {names others : List String} (perm : names.Perm others) :
    PackageFits t names ↔ PackageFits t others := by
  unfold PackageFits
  cases t.package? with
  | some text => rfl
  | none => exact forall_congr' fun name => imp_congr_left perm.mem_iff

/-- The module of the package of a run whose class files have a text. -/
theorem package_of_classFiles {files : List ClassFile} (given : s.classFiles t = .ok files)
    (words : ∀ name ∈ s.registry.names, Naming.IsWord name.toList ∧ Naming.IsLed name.toList) :
    (PackageFits t s.registry.names ∧ ∃ text, s.package t = .ok text) ∨
    (¬ PackageFits t s.registry.names ∧ s.package t = .error (.invalidModule packageFile)) := by
  obtain ⟨sorted, order, -⟩ := except_bind_eq_ok_iff.mp given
  have perm : (sorted.map Record.name).Perm s.registry.names :=
    (Record.of_sort_eq_ok s.registry.distinct order).2.map _
  have fits := isModule_iff_packageFits (t := t) fun name mem => words name (perm.mem_iff.mp mem)
  have package :
      s.package t = checked packageFile (Module.packageText t (sorted.map Record.name)) := by
    unfold Session.package
    rw [order]
    rfl
  rw [package, ← packageFits_of_perm perm, ← fits, checked]
  split
  · next isModule => exact Or.inl ⟨isModule, _, rfl⟩
  · next noModule => exact Or.inr ⟨noModule, rfl⟩

theorem of_package_eq_error {files : List ClassFile} (given : s.classFiles t = .ok files)
    (words : ∀ name ∈ s.registry.names, Naming.IsWord name.toList ∧ Naming.IsLed name.toList)
    (refused : s.package t = .error e) :
    ¬ PackageFits t s.registry.names ∧ e = .invalidModule packageFile := by
  rcases package_of_classFiles given words with ⟨-, text, package⟩ | ⟨unfit, invalid⟩
  · rw [package] at refused
    cases refused
  · exact ⟨unfit, Except.error.inj (refused.symm.trans invalid)⟩

/-- Where not all classes can be imported, the package is stopped after its classes. -/
theorem outcome_writePackage_of_not_fits (hooks : Hooks) {files : List ClassFile} {w₀ : Written}
    (given : s.classFiles t = .ok files)
    (words : ∀ name ∈ s.registry.names, Naming.IsWord name.toList ∧ Naming.IsLed name.toList)
    (takes : Takes w (plainPath output) files w₀) (unfit : ¬ PackageFits t s.registry.names) :
    (writePackage s t hooks output).outcome w = (.error (.generation (.invalidModule packageFile)),
      w₀.putAll hooks (plainPath output) (filesOf files)) := by
  have refused := (package_of_classFiles given words).resolve_left fun fits => unfit fits.1
  rw [outcome_writePackage_of_takes given (fun name mem => (words name mem).1) takes, refused.2]

/-! ## What is left -/

/-- Where an error of generation comes of writing a package, no file has been touched. -/
def AllOrNothing (s : Session) (t : Module.Templates) (hooks : Hooks) (output : String)
    (tree : Tree) : Prop :=
  ∀ e w, (writePackage s t hooks output).outcome { tree } = (.error (.generation e), w) →
    w.paths = [] ∧ w.tree.files = tree.files

/-- All classes have been written, and nothing else has. -/
structure Unfinished (tree : Tree) (hooks : Hooks) (folder : String) (files : List ClassFile)
    (w : Written) : Prop where
  paths : w.paths = files.map fun f => packagePath folder (fileOf f.className)
  /-- In the place of the file of a class is that of a class with this module name. -/
  classes : ∀ f ∈ files, ∃ g ∈ files, fileOf g.className = fileOf f.className ∧
    w.Leads hooks folder g
  others : ∀ route, route ∉ files.map (fun f => w.tree.routeOf folder ++ [fileOf f.className]) →
    w.tree.file? route = tree.file? route

theorem file?_putAll_of_not_mem {files : List (String × String)} {route : Route}
    (other : route ∉ files.map fun f => w.tree.routeOf folder ++ [f.1]) :
    (w.putAll hooks folder files).tree.file? route = w.tree.file? route := by
  induction files generalizing w with
  | nil => rfl
  | cons f rest ih =>
    rw [List.map_cons, List.mem_cons, not_or] at other
    have later : route ∉ rest.map fun g =>
        (w.put hooks folder f.1 f.2).tree.routeOf folder ++ [g.1] := by
      simpa only [routeOf_put] using other.2
    refine (ih (w := w.put hooks folder f.1 f.2) later).trans ?_
    exact (Tree.file?_put _ _ _ _).trans (if_neg other.1)

/-- What is written last under a name is one of the files of that name. -/
theorem exists_leads_putAll {files : List ClassFile} {f : ClassFile} (mem : f ∈ files) :
    ∃ g ∈ files, fileOf g.className = fileOf f.className ∧
      (w.putAll hooks folder (filesOf files)).Leads hooks folder g := by
  have last := @file?_putAll hooks folder w (filesOf files) (fileOf f.className)
  cases found : (filesOf files).reverse.lookup (fileOf f.className) with
  | none =>
    have listed : (fileOf f.className, f.code) ∈ (filesOf files).reverse :=
      List.mem_reverse.mpr (List.mem_map.mpr ⟨f, mem, rfl⟩)
    have none := List.lookup_eq_none_iff.mp found _ listed
    simp at none
  | some text =>
    obtain ⟨before, after, split, -⟩ := List.lookup_eq_some_iff.mp found
    have listed : (fileOf f.className, text) ∈ (filesOf files).reverse := by
      rw [split]
      exact List.mem_append_right _ List.mem_cons_self
    obtain ⟨g, hg, same⟩ := List.mem_map.mp (List.mem_reverse.mp listed)
    obtain ⟨name, rfl⟩ := Prod.mk.inj same
    refine ⟨g, hg, name, ?_⟩
    rw [Written.Leads, routeOf_putAll, name, last, found]

theorem unfinished_putAll (hooks : Hooks) {tree : Tree} (files : List ClassFile)
    (made : (makeFolder (tree.routeOf folder)).outcome { tree } = (.ok (), w)) :
    Unfinished tree hooks folder files (w.putAll hooks folder (filesOf files)) := by
  obtain ⟨paths, same⟩ := of_outcome_makeFolder made
  refine ⟨?_, fun f mem => exists_leads_putAll mem, fun route other => ?_⟩
  · rw [paths_putAll, paths]
    simp [filesOf]
  · rw [routeOf_putAll] at other
    refine (file?_putAll_of_not_mem (by simpa [filesOf] using other)).trans ?_
    rw [Tree.file?, same]
    rfl

/-- The classes of a session have names that are words, which no digit leads. -/
theorem words_after {calls : List (Generator × Declaration)}
    (named : ∀ g d, (g, d) ∈ calls → SchemaNamed g.schema) :
    ∀ name ∈ (after {} calls).registry.names,
      Naming.IsWord name.toList ∧ Naming.IsLed name.toList := by
  intro name mem
  obtain ⟨x, hx, rfl⟩ := List.mem_map.mp mem
  exact word_of_namedFrom named (traced_after calls x hx).named

/-- **When a package is written as a whole or not at all**: where classes that have a text can be
written, all of them must be importable, or the template of the package a module. Otherwise the
classes are left without the module of the package. -/
theorem allOrNothing_iff {calls : List (Generator × Declaration)}
    (named : ∀ g d, (g, d) ∈ calls → SchemaNamed g.schema) (t : Module.Templates) (hooks : Hooks)
    (output : String) (tree : Tree) :
    (AllOrNothing (after {} calls) t hooks output tree ↔
      ∀ files w, (after {} calls).classFiles t = .ok files →
        Takes { tree } (plainPath output) files w →
        files = [] ∨ PackageFits t (after {} calls).registry.names) ∧
    ∀ e w, (writePackage (after {} calls) t hooks output).outcome { tree } =
        (.error (.generation e), w) →
      (∀ files, (after {} calls).classFiles t = .ok files →
        e = .invalidModule packageFile ∧ Unfinished tree hooks (plainPath output) files w) ∧
      (∀ e', (after {} calls).classFiles t = .error e' →
        e' = e ∧ w.paths = [] ∧ w.tree.files = tree.files) := by
  have words := words_after named
  generalize after {} calls = s at words ⊢
  have stops (e : GenerationError) (w : Written) :
      (writePackage s t hooks output).outcome { tree } = (.error (.generation e), w) ↔ _ :=
    outcome_writePackage_eq_error_iff fun name mem => (words name mem).1
  constructor
  · constructor
    · intro whole files w given takes
      by_contra neither
      obtain ⟨some, unfit⟩ := not_or.mp neither
      have stopped := outcome_writePackage_of_not_fits hooks given words takes unfit
      have paths := (unfinished_putAll hooks files takes.made).paths
      rw [(whole _ _ stopped).1] at paths
      exact some (List.map_eq_nil_iff.mp paths.symm)
    · intro fits e w stopped
      rcases (stops e w).mp stopped with ⟨-, made⟩ | ⟨files, w₀, given, takes, refused, rfl⟩
      · exact of_outcome_makeFolder made
      · rcases fits files w₀ given takes with rfl | fits
        · exact of_outcome_makeFolder takes.made
        · exact absurd fits (of_package_eq_error given words refused).1
  · intro e w stopped
    rcases (stops e w).mp stopped with ⟨refused, made⟩ | ⟨files, w₀, given, takes, refused, rfl⟩
    · refine ⟨fun files given => ?_, fun e' refused' => ?_⟩
      · rw [given] at refused
        cases refused
      · rw [refused'] at refused
        exact ⟨Except.error.inj refused, of_outcome_makeFolder made⟩
    · refine ⟨fun files' given' => ?_, fun e' refused' => ?_⟩
      · cases Except.ok.inj (given.symm.trans given')
        have invalid := (of_package_eq_error given words refused).2
        exact ⟨invalid, unfinished_putAll hooks files takes.made⟩
      · rw [given] at refused'
        cases refused'

/-- Empty files for the classes. -/
def emptyModules : Module.Templates := { module? := some "" }

theorem schemaNamed_sample : SchemaNamed sample where
  types := by
    have query : Document.IsName "Query" := ⟨'Q', _, rfl, rfl, rfl⟩
    have u : Document.IsName "U" := ⟨'U', _, rfl, rfl, rfl⟩
    have string : Document.IsName "String" := ⟨'S', _, rfl, rfl, rfl⟩
    intro t ht
    fin_cases ht
    · exact query
    · exact u
    · exact string
  fields := by
    intro t ht field declared
    fin_cases ht
    all_goals cases declared

/-- All class files have a text, and a new folder takes them. -/
theorem exists_takes_out (calls : List (Generator × Declaration)) :
    ∃ files w, (after {} calls).classFiles emptyModules = .ok files ∧
      Takes { tree := {} } (plainPath "out") files w := by
  obtain ⟨sorted, order, -⟩ :=
    (sound_after closed_true calls fun _ _ _ _ _ => trivial).registry.exists_sorted
  obtain ⟨files, given⟩ := exists_classFiles (t := emptyModules) rfl order
  obtain ⟨w, ready⟩ := ready_out
  rw [plainPath_out]
  exact ⟨files, w, given, ready.made, fun f _ => ready.flat _⟩

/-- The package of a small document, which can be written, is written as a whole or not at all. -/
theorem allOrNothing_spreading :
    (∀ g d, (g, d) ∈ [(sampleGenerator, spreading)] → SchemaNamed g.schema) ∧
    (∃ files w, (after {} [(sampleGenerator, spreading)]).classFiles emptyModules = .ok files ∧
      Takes { tree := {} } (plainPath "out") files w) ∧
    AllOrNothing (after {} [(sampleGenerator, spreading)]) emptyModules {} "out" {} := by
  obtain ⟨query, asked⟩ := asks_spreading
  have names : (after {} [(sampleGenerator, spreading)]).registry.names = ["Qa__U", "Qa"] := by
    rw [after_singleton, outcome_generate asked]
    cbv
  have named : ∀ g d, (g, d) ∈ [(sampleGenerator, spreading)] → SchemaNamed g.schema := by
    intro g d call
    cases List.mem_singleton.mp call
    exact schemaNamed_sample
  have modules : Naming.moduleName "Qa__U" = "qa__u" ∧ Naming.moduleName "Qa" = "qa" := by
    constructor <;> cbv
  have selection : Importable "Qa__U" := ⟨by rw [modules.1]; decide, by decide⟩
  have operation : Importable "Qa" := ⟨by rw [modules.2]; decide, by decide⟩
  refine ⟨named, exists_takes_out _, ?_⟩
  refine (allOrNothing_iff named emptyModules {} "out" {}).1.mpr fun files w _ _ => Or.inr ?_
  rw [names]
  exact List.forall_mem_cons.mpr ⟨selection, List.forall_mem_singleton.mpr operation⟩

/-- An operation with a name that is a reserved word in small letters. -/
def conditional : Declaration := { text := "query If{a}" }

theorem asks_conditional : ∃ text, sampleGenerator.asks conditional = .ok
    { operations := [("If", { kind := .query, name? := some "If"
                              selections := [.field { name := "a" } []] })]
      fragments := [], queryText := text } := by
  have read : readDocument (sampleGenerator.hooks.runBefore conditional) = .ok
      [.operation
        { kind := .query, name? := some "If", selections := [.field { name := "a" } []] }] := by
    cbv
  unfold Generator.asks Generator.request
  rw [read]
  exact ⟨_, rfl⟩

theorem names_conditional : AllSucceed [(sampleGenerator, conditional)] ∧
    (after {} [(sampleGenerator, conditional)]).registry.names = ["If"] := by
  obtain ⟨query, asked⟩ := asks_conditional
  constructor
  · refine allSucceed_singleton ?_
    unfold Succeeds
    rw [outcome_generate asked]
    cbv
  · rw [after_singleton, outcome_generate asked]
    cbv

/-- **A package can be left unfinished**: an operation `If` is accepted, and its class is written to
`if.py`, which the module of the package cannot import from. -/
theorem unfinished_package : AllSucceed [(sampleGenerator, conditional)] ∧
    (∃ w text,
      (writePackage (after {} [(sampleGenerator, conditional)]) emptyModules {} "out").outcome
        { tree := {} } = (.error (.generation (.invalidModule "__init__.py")), w) ∧
      w.paths = ["out/if.py"] ∧
      w.tree.file? (w.tree.routeOf "out" ++ ["if.py"]) = some (.text text)) ∧
    ¬ AllOrNothing (after {} [(sampleGenerator, conditional)]) emptyModules {} "out" {} := by
  obtain ⟨succeeds, names⟩ := names_conditional
  obtain ⟨files, w, given, takes⟩ := exists_takes_out [(sampleGenerator, conditional)]
  generalize after {} [(sampleGenerator, conditional)] = s at *
  have module : Naming.moduleName "If" = "if" := by cbv
  obtain ⟨f, rfl, className⟩ : ∃ f, files = [f] ∧ f.className = "If" := by
    have perm := (of_classFiles given).1
    rw [names, List.perm_singleton] at perm
    obtain ⟨f, rfl⟩ := List.length_eq_one_iff.mp (by simpa using congrArg List.length perm)
    exact ⟨f, rfl, by simpa using perm⟩
  have file : fileOf f.className = "if.py" := by
    rw [className, fileOf, module]
    rfl
  have words : ∀ name ∈ s.registry.names, Naming.IsWord name.toList ∧ Naming.IsLed name.toList := by
    rw [names, List.forall_mem_singleton]
    exact ⟨by decide, 'I', _, rfl, rfl⟩
  have unfit : ¬ PackageFits emptyModules s.registry.names := by
    rw [names]
    intro fits
    have free : Importable "If" := fits "If" List.mem_cons_self
    exact free.1 (by rw [module]; decide)
  have stopped := outcome_writePackage_of_not_fits {} given words takes unfit
  have unfinished := unfinished_putAll {} [f] takes.made
  rw [plainPath_out] at stopped unfinished
  have paths : (w.putAll {} "out" (filesOf [f])).paths = ["out/if.py"] := by
    have path : packagePath "out" "if.py" = "out/if.py" := by cbv
    rw [unfinished.paths, List.map_singleton, file, path]
  obtain ⟨g, hg, -, leads⟩ := unfinished.classes f List.mem_cons_self
  cases List.mem_singleton.mp hg
  rw [Written.Leads, file] at leads
  refine ⟨succeeds, ⟨_, _, stopped, paths, leads⟩, fun whole => ?_⟩
  rw [(whole _ _ stopped).1] at paths
  cases paths

end QueryShape.Files
