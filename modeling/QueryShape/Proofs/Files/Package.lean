import Mathlib
import QueryShape.Files.Write
import QueryShape.Proofs.Files.Tree
import QueryShape.Proofs.Generation.Keys
import QueryShape.Proofs.Naming.Module
import QueryShape.Proofs.Registry.Sorting

/-!
# Classes in files of their own

A package has a file for each class and one for itself. A file takes the place of one of its name
without a word, so each class has its own exactly if no two modules have one name and none has that
of the package.

* `outcome_writePackage`: what writing a package comes to, whatever the names are.
* `isPackage_iff`: when every class has a file of its own and every import leads to it.
* `one_file_for_two`: two operations whose classes go into one file.
-/

namespace QueryShape.Files

open Generation

/-! ## Writing files beside each other -/

/-- What writing ends with: its result, and what has been written. -/
def Writing.outcome (x : Writing α) (w : Written) : Except WriteFault α × Written := x.run.run w

theorem Writing.outcome_bind {x : Writing α} {w w' : Written} {a : α}
    (h : x.outcome w = (.ok a, w')) (next : α → Writing β) :
    (x >>= next).outcome w = (next a).outcome w' := by
  have step : (x >>= next).outcome w =
      (ExceptT.bindCont next (x.outcome w).1).run (x.outcome w).2 := rfl
  rw [step, h]
  rfl

theorem Writing.outcome_get (w : Written) : (get : Writing Written).outcome w = (.ok w, w) := rfl

/-- The path of a file of a package. -/
def packagePath (folder name : String) : String := if folder = "." then name else join folder name

/-- What has been written after a file of a package, with the text that the hooks leave it. -/
def Written.put (w : Written) (hooks : Hooks) (folder name text : String) : Written where
  tree := w.tree.put (w.tree.routeOf folder ++ [name]) (hooks.runAfter name text)
  paths := w.paths ++ [packagePath folder name]

/-- What has been written after files of a package, one after the other. -/
def Written.putAll (w : Written) (hooks : Hooks) (folder : String)
    (files : List (String × String)) :
    Written :=
  files.foldl (fun w f => w.put hooks folder f.1 f.2) w

variable {hooks : Hooks} {folder : String} {w : Written}

theorem routeOf_packagePath (t : Tree) {name : String} (h : IsPlain name) :
    t.routeOf (packagePath folder name) = t.routeOf folder ++ [name] := by
  unfold packagePath
  split
  · next here =>
    rw [here, Tree.routeOf_of_plain h, Tree.routeOf_eq, names_of_whole (by decide),
      Tree.not_isAbsolute_of_whole (by decide)]
    rfl
  · exact Tree.routeOf_join h

theorem lastName_packagePath {name : String} (h : IsPlain name) :
    lastName (packagePath folder name) = name := by
  unfold packagePath
  split
  · rw [lastName, names_of_whole h.whole]
    rfl
  · exact Tree.lastName_join h

theorem outcome_writeFile {name : String} (h : IsPlain name)
    (free : w.tree.isFolder (w.tree.routeOf folder ++ [name]) = false) (text : String) :
    (writeFile hooks (packagePath folder name) text).outcome w =
      (.ok (), w.put hooks folder name text) := by
  have written : w.tree.write (w.tree.routeOf (packagePath folder name))
      (hooks.runAfter (lastName (packagePath folder name)) text) =
      .ok (w.tree.put (w.tree.routeOf folder ++ [name]) (hooks.runAfter name text)) := by
    rw [routeOf_packagePath _ h, lastName_packagePath h, Tree.write_eq_ok free]
  refine (Writing.outcome_bind (Writing.outcome_get w) _).trans ?_
  simp only [written]
  rfl

theorem routeOf_put (name text path : String) :
    (w.put hooks folder name text).tree.routeOf path = w.tree.routeOf path :=
  Tree.routeOf_congr rfl path

theorem routeOf_putAll (files : List (String × String)) (path : String) :
    (w.putAll hooks folder files).tree.routeOf path = w.tree.routeOf path := by
  induction files generalizing w with
  | nil => rfl
  | cons f rest ih => exact (ih (w := w.put hooks folder f.1 f.2)).trans (routeOf_put f.1 f.2 path)

theorem putAll_append (files more : List (String × String)) :
    w.putAll hooks folder (files ++ more) =
      (w.putAll hooks folder files).putAll hooks folder more :=
  List.foldl_append

theorem paths_putAll (files : List (String × String)) :
    (w.putAll hooks folder files).paths =
      w.paths ++ (files.map (·.1)).map (packagePath folder) := by
  induction files generalizing w with
  | nil => exact (List.append_nil _).symm
  | cons f rest ih =>
    refine (ih (w := w.put hooks folder f.1 f.2)).trans ?_
    rw [List.map_cons, List.map_cons, Written.put, List.append_assoc]
    rfl

theorem isFolder_put (name text other : String) :
    (w.put hooks folder name text).tree.isFolder
      ((w.put hooks folder name text).tree.routeOf folder ++ [other]) =
      w.tree.isFolder (w.tree.routeOf folder ++ [other]) := by
  rw [routeOf_put]
  exact Tree.isFolder_put _ _ _ _ _

/-- There is no folder among the files. -/
def Flat (t : Tree) (folder : String) : Prop :=
  ∀ name, t.isFolder (t.routeOf folder ++ [name]) = false

theorem Flat.put (h : Flat w.tree folder) (hooks : Hooks) (name text : String) :
    Flat (w.put hooks folder name text).tree folder := by
  intro other
  rw [isFolder_put]
  exact h other

theorem Flat.putAll (h : Flat w.tree folder) (hooks : Hooks) (files : List (String × String)) :
    Flat (w.putAll hooks folder files).tree folder := by
  induction files generalizing w with
  | nil => exact h
  | cons f rest ih => exact ih (h.put hooks f.1 f.2)

/-- **The last file of a name is the one that stays.** -/
theorem file?_putAll (files : List (String × String)) (name : String) :
    (w.putAll hooks folder files).tree.file? (w.tree.routeOf folder ++ [name]) =
      match files.reverse.lookup name with
      | some text => some (.text (hooks.runAfter name text))
      | none => w.tree.file? (w.tree.routeOf folder ++ [name]) := by
  induction files using List.reverseRecOn with
  | nil => rfl
  | append_singleton files f ih =>
    obtain ⟨other, text⟩ := f
    rw [putAll_append, List.reverse_append, List.reverse_singleton, List.singleton_append,
      List.lookup_cons]
    change Tree.file? (Tree.put _ _ _) _ = _
    rw [Tree.file?_put, routeOf_putAll, ih]
    by_cases same : name = other
    · simp [same]
    · simp [same, beq_false_of_ne same]

/-- The names and texts of the files of classes. -/
def filesOf (files : List ClassFile) : List (String × String) :=
  files.map fun f => (fileOf f.className, f.code)

theorem outcome_writeFiles {files : List ClassFile}
    (free : ∀ f ∈ files, w.tree.isFolder (w.tree.routeOf folder ++ [fileOf f.className]) = false)
    (plain : ∀ f ∈ files, IsPlain (fileOf f.className)) :
    Writing.outcome (forIn files PUnit.unit fun f _ => do
      writeFile hooks (packagePath folder (fileOf f.className)) f.code
      pure (ForInStep.yield PUnit.unit)) w =
        (.ok PUnit.unit, w.putAll hooks folder (filesOf files)) := by
  induction files generalizing w with
  | nil => rfl
  | cons f rest ih =>
    obtain ⟨hf, hrest⟩ := List.forall_mem_cons.mp plain
    obtain ⟨here, others⟩ := List.forall_mem_cons.mp free
    rw [List.forIn_cons]
    have written : Writing.outcome (do
        writeFile hooks (packagePath folder (fileOf f.className)) f.code
        pure (ForInStep.yield PUnit.unit)) w =
        (.ok (ForInStep.yield PUnit.unit), w.put hooks folder (fileOf f.className) f.code) :=
      Writing.outcome_bind (outcome_writeFile hf here f.code) _
    refine (Writing.outcome_bind written _).trans (ih (fun g hg => ?_) hrest)
    rw [isFolder_put]
    exact others g hg

/-- A folder that is made changes no file. -/
theorem outcome_makeFolder (route : Route) (w : Written) :
    (∃ w', (makeFolder route).outcome w = (.ok (), w') ∧ w'.paths = w.paths ∧
      w'.tree.files = w.tree.files) ∨
    ∃ fault, (makeFolder route).outcome w = (.error (.file fault), w) := by
  unfold makeFolder
  rw [Writing.outcome_bind (Writing.outcome_get w)]
  dsimp only
  split
  · unfold Tree.makeFolder
    split
    · exact Or.inr ⟨.taken, rfl⟩
    · split
      · exact Or.inr ⟨.notFolder, rfl⟩
      · exact Or.inl ⟨_, rfl, rfl, rfl⟩
  · exact Or.inl ⟨w, rfl, rfl, rfl⟩

theorem of_outcome_makeFolder {route : Route} {w' : Written}
    (made : (makeFolder route).outcome w = (.ok (), w')) :
    w'.paths = w.paths ∧ w'.tree.files = w.tree.files := by
  rcases outcome_makeFolder route w with ⟨_, same, kept⟩ | ⟨_, failed⟩
  · rw [same] at made
    cases made
    exact kept
  · rw [failed] at made
    cases made

/-- The folder of a package is there, and holds no folders. -/
structure Ready (w : Written) (folder : String) (w' : Written) : Prop where
  made : (makeFolder (w.tree.routeOf folder)).outcome w = (.ok (), w')
  flat : Flat w'.tree folder

theorem Ready.paths_eq {w' : Written} (h : Ready w folder w') : w'.paths = w.paths :=
  (of_outcome_makeFolder h.made).1

theorem isPlain_fileOf {name : String} (h : Naming.IsWord name.toList) : IsPlain (fileOf name) := by
  have ending : ".py".toList = ['.', 'p', 'y'] := rfl
  have long (short : String) (h : short.length < 3) : fileOf name ≠ short := by
    rintro rfl
    have : (fileOf name).length = (Naming.moduleName name).length + 3 := String.length_append ..
    omega
  refine ⟨fun slash => ?_, ?_⟩
  · rw [fileOf, String.toList_append, List.mem_append, ending] at slash
    rcases slash with slash | slash
    · exact absurd (Naming.isWord_moduleName h _ slash) (by decide)
    · exact absurd slash (by decide)
  · exact ⟨fun e => e.elim (long _ (by decide)) (long _ (by decide)), long _ (by decide)⟩

theorem isPlain_packageFile : IsPlain packageFile := ⟨by decide, by decide⟩

/-- **What writing a package comes to**, where its classes have a text: all class files are written
first, and the module of the package only if it has a text as well. -/
theorem outcome_writePackage {s : Session} {t : Module.Templates} {output : String} {w' : Written}
    {files : List ClassFile} (given : s.classFiles t = .ok files)
    (plain : ∀ f ∈ files, IsPlain (fileOf f.className)) (ready : Ready w (plainPath output) w') :
    (writePackage s t hooks output).outcome w =
      let classes := w'.putAll hooks (plainPath output) (filesOf files)
      match s.package t with
      | .ok text => (.ok (), classes.put hooks (plainPath output) packageFile text)
      | .error e => (.error (.generation e), classes) := by
  refine (Writing.outcome_bind (Writing.outcome_get w) _).trans ?_
  refine (Writing.outcome_bind ready.made _).trans ?_
  rw [given]
  refine (Writing.outcome_bind (outcome_writeFiles (fun f _ => ready.flat _) plain) _).trans ?_
  cases s.package t with
  | error e => rfl
  | ok text =>
    have free := ready.flat.putAll hooks (filesOf files) packageFile
    exact (Writing.outcome_bind rfl _).trans (outcome_writeFile isPlain_packageFile free text)

/-! ## The files of classes -/

section
variable {s : Session} {t : Module.Templates} {files : List ClassFile}

theorem of_classFile {r : Record} {f : ClassFile} (h : s.classFile t r = .ok f) :
    f.className = r.name ∧ f.dependencies = r.dependencies := by
  obtain ⟨code, -, rest⟩ := except_bind_eq_ok_iff.mp h
  cases rest
  exact ⟨rfl, rfl⟩

/-- **Every class has one file**, and depends on classes with files. -/
theorem of_classFiles (given : s.classFiles t = .ok files) :
    (files.map ClassFile.className).Perm s.registry.names ∧
      ∀ f ∈ files, ∀ d ∈ f.dependencies, d ∈ s.registry.names := by
  obtain ⟨sorted, order, each⟩ := except_bind_eq_ok_iff.mp given
  obtain ⟨known, perm⟩ := Record.of_sort_eq_ok s.registry.distinct order
  have names : files.map ClassFile.className = sorted.map Record.name :=
    map_eq_of_mapM each fun _ _ h => (of_classFile h).1
  refine ⟨names ▸ perm.map _, fun f hf d hd => ?_⟩
  obtain ⟨r, hr, made⟩ := mem_of_mapM each hf
  rw [(of_classFile made).2] at hd
  exact known r (perm.mem_iff.mp hr) d hd

end

/-! ## When every class has a file of its own -/

/-- No two classes have one module name, and none has that of the package. -/
def Apart (classNames : List String) : Prop :=
  (classNames.map fileOf).Nodup ∧ packageFile ∉ classNames.map fileOf

/-- The file that an import of a class leads to holds the class. -/
def Written.Leads (w : Written) (hooks : Hooks) (folder : String) (f : ClassFile) : Prop :=
  w.tree.file? (w.tree.routeOf folder ++ [fileOf f.className]) =
    some (.text (hooks.runAfter (fileOf f.className) f.code))

/-- Each class has a file of its own, as has the package, and all imports lead to what they name. -/
structure IsPackage (w : Written) (hooks : Hooks) (folder : String) (files : List ClassFile)
    (text : String) : Prop where
  own : w.paths.Nodup
  /-- The imports of the package, which are of all classes. -/
  classes : ∀ f ∈ files, w.Leads hooks folder f
  /-- The imports of a class, which are of those it depends on. -/
  dependencies : ∀ f ∈ files, ∀ d ∈ f.dependencies,
    ∃ needed ∈ files, needed.className = d ∧ w.Leads hooks folder needed
  package : w.tree.file? (w.tree.routeOf folder ++ [packageFile]) =
    some (.text (hooks.runAfter packageFile text))

theorem packagePath_injective : Function.Injective (packagePath folder) := by
  intro a b h
  unfold packagePath join at h
  split at h
  · exact h
  · split at h
    · exact h
    · split at h <;> exact String.append_right_inj _ |>.mp h

theorem apart_iff {classNames : List String} :
    Apart classNames ↔ (classNames.map fileOf ++ [packageFile]).Nodup := by
  unfold Apart
  rw [List.nodup_append]
  simp only [List.nodup_singleton, List.mem_singleton, forall_eq, true_and]
  refine and_congr_right fun _ => ⟨fun h a ha e => h (e ▸ ha), fun h ha => h _ ha rfl⟩

theorem lookup_reverse_of_nodup {files : List (String × String)}
    (distinct : (files.map (·.1)).Nodup)
    {name text : String} (h : (name, text) ∈ files) : files.reverse.lookup name = some text := by
  obtain ⟨before, after, rfl⟩ := List.append_of_mem h
  refine List.lookup_eq_some_iff.mpr ⟨after.reverse, before.reverse, by simp, fun f hf => ?_⟩
  rw [List.map_append, List.map_cons, List.nodup_append, List.nodup_cons] at distinct
  have other : f.1 ≠ name := by
    rintro rfl
    exact distinct.2.1.1 (List.mem_map.mpr ⟨f, List.mem_reverse.mp hf, rfl⟩)
  simpa using Ne.symm other

/-- Where the names of the files are different, each file holds what was written to it. -/
theorem file?_putAll_of_nodup {files : List (String × String)} (distinct : (files.map (·.1)).Nodup)
    {name text : String} (h : (name, text) ∈ files) :
    (w.putAll hooks folder files).tree.file? ((w.putAll hooks folder files).tree.routeOf folder ++
      [name]) = some (.text (hooks.runAfter name text)) := by
  rw [routeOf_putAll, file?_putAll, lookup_reverse_of_nodup distinct h]

theorem fileOf_injective_iff {a b : String} :
    fileOf a = fileOf b ↔ Naming.moduleName a = Naming.moduleName b :=
  String.append_left_inj _

/-- Classes are apart if their names are different, underscores and capitals aside. -/
theorem apart_of_letters {classNames : List String}
    (words : ∀ name ∈ classNames, Naming.IsWord name.toList)
    (different : classNames.Pairwise fun a b => Naming.letters a.toList ≠ Naming.letters b.toList)
    (noInit : ∀ name ∈ classNames, Naming.letters name.toList ≠ ['i', 'n', 'i', 't']) :
    Apart classNames := by
  constructor
  · refine List.pairwise_map.mpr (different.imp_of_mem fun ha hb apart same => apart ?_)
    rw [← Naming.letters_moduleName (words _ ha), ← Naming.letters_moduleName (words _ hb),
      fileOf_injective_iff.mp same]
  · intro h
    obtain ⟨name, hname, same⟩ := List.mem_map.mp h
    have module : Naming.moduleName name = "__init__" := String.append_left_inj ".py" |>.mp same
    refine noInit name hname ?_
    rw [← Naming.letters_moduleName (words name hname), module]
    decide

/-- The files of a package have different names exactly if its classes are apart. -/
theorem nodup_iff_apart {files : List ClassFile} {text : String} :
    ((filesOf files ++ [(packageFile, text)]).map (·.1)).Nodup ↔
      Apart (files.map ClassFile.className) := by
  have names : (filesOf files ++ [(packageFile, text)]).map (·.1) =
      (files.map ClassFile.className).map fileOf ++ [packageFile] := by
    simp [filesOf]
  rw [names, apart_iff]

/-- Files of classes that are apart make a package. -/
theorem isPackage_of_apart {files : List ClassFile} {text : String}
    (known : ∀ f ∈ files, ∀ d ∈ f.dependencies, d ∈ files.map ClassFile.className)
    (apart : Apart (files.map ClassFile.className)) (new : w.paths = []) :
    IsPackage (w.putAll hooks folder (filesOf files ++ [(packageFile, text)])) hooks folder files
      text := by
  have distinct : ((filesOf files ++ [(packageFile, text)]).map (·.1)).Nodup :=
    nodup_iff_apart.mpr apart
  have classes : ∀ f ∈ files,
      (w.putAll hooks folder (filesOf files ++ [(packageFile, text)])).Leads hooks folder f :=
    fun f hf => file?_putAll_of_nodup distinct
      (List.mem_append_left _ (List.mem_map.mpr ⟨f, hf, rfl⟩))
  refine ⟨?_, classes, fun f hf d hd => ?_, ?_⟩
  · rw [paths_putAll, new, List.nil_append]
    exact distinct.map packagePath_injective
  · obtain ⟨needed, hn, rfl⟩ := List.mem_map.mp (known f hf d hd)
    exact ⟨needed, hn, rfl, classes needed hn⟩
  · exact file?_putAll_of_nodup distinct (List.mem_append_right _ List.mem_cons_self)

/-- **When a package is right**: it can be written so that every class has a file of its own, and
every import leads to the class that it names, exactly if the module of the package has a text, no
two classes have one module name and none has that of the package. That is the case where the names
of classes are different, underscores and capitals aside, and none is `init`. -/
theorem isPackage_iff {s : Session} {t : Module.Templates} {output : String} {tree : Tree}
    {w₀ : Written} {files : List ClassFile} (given : s.classFiles t = .ok files)
    (words : ∀ name ∈ s.registry.names, Naming.IsWord name.toList)
    (ready : Ready { tree } (plainPath output) w₀) (hooks : Hooks) :
    ((∃ w text, (writePackage s t hooks output).outcome { tree } = (.ok (), w) ∧
        s.package t = .ok text ∧ IsPackage w hooks (plainPath output) files text) ↔
      (∃ text, s.package t = .ok text) ∧ Apart s.registry.names) ∧
    ((s.registry.names.Pairwise fun a b => Naming.letters a.toList ≠ Naming.letters b.toList) →
      (∀ name ∈ s.registry.names, Naming.letters name.toList ≠ ['i', 'n', 'i', 't']) →
      Apart s.registry.names) := by
  obtain ⟨perm, known⟩ := of_classFiles given
  have plain : ∀ f ∈ files, IsPlain (fileOf f.className) := fun f hf =>
    isPlain_fileOf (words _ (perm.mem_iff.mp (List.mem_map.mpr ⟨f, hf, rfl⟩)))
  have same : Apart (files.map ClassFile.className) ↔ Apart s.registry.names := by
    rw [apart_iff, apart_iff]
    exact ((perm.map fileOf).append_right _).nodup_iff
  have outcome (text : String) (package : s.package t = .ok text) :
      (writePackage s t hooks output).outcome { tree } = (.ok (), w₀.putAll hooks (plainPath output)
        (filesOf files ++ [(packageFile, text)])) := by
    rw [outcome_writePackage given plain ready, package, putAll_append]
    rfl
  refine ⟨⟨?_, ?_⟩, apart_of_letters words⟩
  · rintro ⟨w, text, written, package, right⟩
    rw [outcome text package] at written
    cases written
    have own := right.own
    rw [paths_putAll, ready.paths_eq] at own
    exact ⟨⟨text, package⟩, same.mp (nodup_iff_apart.mp (List.Nodup.of_map _ own))⟩
  · rintro ⟨⟨text, package⟩, apart⟩
    refine ⟨_, text, outcome text package, package, ?_⟩
    exact isPackage_of_apart (fun f hf d hd => perm.mem_iff.mpr (known f hf d hd)) (same.mpr apart)
      ready.paths_eq

/-- Texts in the place of what is generated otherwise. -/
def emptyTexts : Module.Templates := { module? := some "", package? := some "" }

theorem checked_empty (file : String) : checked file "" = .ok "" := by
  have : Grammar.isModule "" = true := by cbv
  rw [checked, if_pos this]

/-- Classes that can be sorted can be put into empty files. -/
theorem exists_classFiles {s : Session} {t : Module.Templates} (empty : t.module? = some "")
    {sorted : List Record} (h : s.registry.sorted = .ok sorted) :
    ∃ files, s.classFiles t = .ok files := by
  unfold Session.classFiles
  rw [h]
  refine exists_mapM fun r _ => ?_
  unfold Session.classFile Module.moduleText
  rw [empty]
  exact ⟨_, except_bind_eq_ok_iff.mpr ⟨_, checked_empty _, rfl⟩⟩

theorem package_emptyTexts {s : Session} {sorted : List Record}
    (h : s.registry.sorted = .ok sorted) : s.package emptyTexts = .ok "" := by
  unfold Session.package
  rw [h]
  exact checked_empty packageFile

theorem plainPath_out : plainPath "out" = "out" := by cbv

theorem ready_out : ∃ w, Ready { tree := {} } "out" w := by
  refine ⟨{ tree := { folders := [["out"]] } }, by cbv, fun name => ?_⟩
  have route : Tree.routeOf { folders := [["out"]] } "out" = ["out"] := by cbv
  rw [route]
  rfl

/-- The package of a small document is right. -/
theorem isPackage_iff_spreading : ∃ files w text,
    (after {} [(sampleGenerator, spreading)]).classFiles emptyTexts = .ok files ∧
    (writePackage (after {} [(sampleGenerator, spreading)]) emptyTexts {} "out").outcome
      { tree := {} } = (.ok (), w) ∧
    IsPackage w {} "out" files text := by
  obtain ⟨query, asked⟩ := asks_spreading
  obtain ⟨w, ready⟩ := ready_out
  have names : (after {} [(sampleGenerator, spreading)]).registry.names = ["Qa__U", "Qa"] := by
    change ((sampleGenerator.generate spreading).outcome {}).2.registry.names = _
    rw [outcome_generate asked]
    cbv
  obtain ⟨sorted, order, -⟩ := (sound_after closed_true [(sampleGenerator, spreading)]
    fun _ _ _ _ _ => trivial).registry.exists_sorted
  obtain ⟨files, given⟩ := exists_classFiles (t := emptyTexts) rfl order
  have words : ∀ name ∈ ["Qa__U", "Qa"], Naming.IsWord name.toList := by decide
  have apart : Apart ["Qa__U", "Qa"] := apart_of_letters words (by decide) (by decide)
  have right := isPackage_iff given (names ▸ words) (plainPath_out.symm ▸ ready) {}
  obtain ⟨written, text, done, -, holds⟩ :=
    right.1.mpr ⟨⟨"", package_emptyTexts order⟩, names ▸ apart⟩
  exact ⟨files, written, text, given, done, plainPath_out ▸ holds⟩

/-! ## Classes that share a file -/

/-- Two operations whose names differ in capitals only. -/
def userIds : Declaration := { text := "query UserID{a}query UserId{a}" }

theorem asks_userIds : ∃ text, sampleGenerator.asks userIds = .ok
    { operations := [("UserID", { kind := .query, name? := some "UserID"
                                  selections := [.field { name := "a" } []] }),
                     ("UserId", { kind := .query, name? := some "UserId"
                                  selections := [.field { name := "a" } []] })]
      fragments := [], queryText := text } := by
  have read : readDocument (sampleGenerator.hooks.runBefore userIds) = .ok
      [.operation
        { kind := .query, name? := some "UserID", selections := [.field { name := "a" } []] },
       .operation { kind := .query, name? := some "UserId"
                    selections := [.field { name := "a" } []] }] := by
    cbv
  unfold Generator.asks Generator.request
  rw [read]
  exact ⟨_, rfl⟩

/-- **Two classes can share a file**, of which the second takes the place of the first: everything
is generated and written, and no file holds the class `UserID`, which the package imports. -/
theorem one_file_for_two : AllSucceed [(sampleGenerator, userIds)] ∧
    ∃ files text, (after {} [(sampleGenerator, userIds)]).classFiles emptyTexts = .ok files ∧
      (after {} [(sampleGenerator, userIds)]).package emptyTexts = .ok text ∧
      "UserID" ∈ (after {} [(sampleGenerator, userIds)]).registry.names ∧
      "UserId" ∈ (after {} [(sampleGenerator, userIds)]).registry.names ∧
      fileOf "UserID" = fileOf "UserId" := by
  obtain ⟨query, asked⟩ := asks_userIds
  have names : (after {} [(sampleGenerator, userIds)]).registry.names = ["UserID", "UserId"] := by
    change ((sampleGenerator.generate userIds).outcome {}).2.registry.names = _
    rw [outcome_generate asked]
    cbv
  obtain ⟨sorted, order, -⟩ := (sound_after closed_true [(sampleGenerator, userIds)]
    fun _ _ _ _ _ => trivial).registry.exists_sorted
  obtain ⟨files, given⟩ := exists_classFiles (t := emptyTexts) rfl order
  refine ⟨allSucceed_singleton ?_, files, "", given, package_emptyTexts order, ?_, ?_, by cbv⟩
  · unfold Succeeds
    rw [outcome_generate asked]
    cbv
  · rw [names]
    decide
  · rw [names]
    decide

end QueryShape.Files
