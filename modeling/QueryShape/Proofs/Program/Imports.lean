import QueryShape.Proofs.Program.Load

/-!
# What the names of a module stand for

The names of a module are bound one after the other: those that every module imports, those that the
lines of imports bind, and those of the classes. The last to bind a name has it.

* `thing?_eq_some_iff`: what a name stands for in the end.
* `base_of_run`: what a class is made on.
-/

namespace QueryShape.Program

open Generation

variable {modules : Converter.Modules} {lines : List String} {classes : List Record}
  {start bindings : Bindings} {name : String} {t : Thing}

/-! ## Imports -/

/-- The module that the last of the lines to import a name imports it from. -/
def lastModule? (lines : List String) (name : String) : Option String :=
  ((lines.filterMap importOfLine?).reverse.find? (·.2 == name)).map (·.1)

/-- What the lines of imports leave a name to stand for. -/
def importedAs? (modules : Converter.Modules) (lines : List String) (name : String) :
    Option Thing :=
  match lastModule? lines name with
  | some module => (imported modules module name).toOption
  | none => Bindings.thing? supporting name

theorem lastModule?_append_singleton (lines : List String) (line name : String) :
    lastModule? (lines ++ [line]) name =
      match importOfLine? line with
      | some (module, bound) => if bound = name then some module else lastModule? lines name
      | none => lastModule? lines name := by
  unfold lastModule?
  rw [List.filterMap_append, List.reverse_append]
  cases eq : importOfLine? line with
  | none => simp [eq]
  | some entry =>
    obtain ⟨module, bound⟩ := entry
    by_cases same : bound = name
    · simp [eq, same]
    · simp [eq, same]

theorem thing?_cons (bindings : Bindings) (bound name : String) (t : Thing) :
    Bindings.thing? ((bound, t) :: bindings) name =
      if bound = name then some t else bindings.thing? name := by
  unfold Bindings.thing?
  rw [List.lookup_cons]
  by_cases same : bound = name
  · rw [if_pos same, same, beq_self_eq_true]
    rfl
  · rw [if_neg same, beq_eq_false_iff_ne.mpr (Ne.symm same)]

/-- **The last line to import a name has it**, and without one it stands for what it stands for in
every module. -/
theorem thing?_of_imports (h : lines.foldlM (afterImport modules) supporting = .ok bindings)
    (name : String) : bindings.thing? name = importedAs? modules lines name := by
  induction lines using List.reverseRecOn generalizing bindings with
  | nil =>
    cases h
    rfl
  | append_singleton lines line ih =>
    rw [List.foldlM_append] at h
    obtain ⟨before, done, last⟩ := except_bind_eq_ok_iff.mp h
    rw [List.foldlM_cons] at last
    obtain ⟨after, one, last⟩ := except_bind_eq_ok_iff.mp last
    cases last
    unfold afterImport at one
    split at one
    · next module bound isImport =>
      obtain ⟨t, isThing, one⟩ := except_bind_eq_ok_iff.mp one
      cases one
      unfold importedAs?
      rw [thing?_cons, lastModule?_append_singleton, isImport]
      dsimp only
      by_cases same : bound = name
      · rw [if_pos same, if_pos same, ← same]
        dsimp only
        rw [isThing]
        rfl
      · rw [if_neg same, if_neg same]
        exact ih done
    · cases one

/-- All lines of a module are imports of something. -/
theorem exists_import_of_imports (h : lines.foldlM (afterImport modules) start = .ok bindings)
    {line : String} (mem : line ∈ lines) : ∃ module bound t,
      importOfLine? line = some (module, bound) ∧ imported modules module bound = .ok t := by
  induction lines generalizing start with
  | nil => cases mem
  | cons first rest ih =>
    rw [List.foldlM_cons] at h
    obtain ⟨next, one, h⟩ := except_bind_eq_ok_iff.mp h
    rcases List.mem_cons.mp mem with rfl | mem
    · unfold afterImport at one
      split at one
      · next module bound isImport =>
        obtain ⟨t, isThing, -⟩ := except_bind_eq_ok_iff.mp one
        exact ⟨module, bound, t, isImport, isThing⟩
      · cases one
    · exact ih h mem

/-! ## Classes -/

/-- A name that is no class's stands for the same after the classes. -/
theorem thing?_of_classes (h : classes.foldlM afterClass start = .ok bindings)
    (free : ∀ x ∈ classes, x.name ≠ name) : bindings.thing? name = start.thing? name := by
  induction classes generalizing start with
  | nil =>
    cases h
    rfl
  | cons first rest ih =>
    rw [List.foldlM_cons] at h
    obtain ⟨next, one, h⟩ := except_bind_eq_ok_iff.mp h
    obtain ⟨base, -, rfl⟩ := eq_of_afterClass one
    obtain ⟨other, others⟩ := List.forall_mem_cons.mp free
    rw [ih h others, thing?_cons, if_neg other]

/-- A name that is that of a class stands for one after the classes. -/
theorem generated_of_classes (h : classes.foldlM afterClass start = .ok bindings) {x : Record}
    (mem : x ∈ classes) : ∃ y base, bindings.thing? x.name = some (.generated y base) := by
  induction classes generalizing start x with
  | nil => cases mem
  | cons first rest ih =>
    rw [List.foldlM_cons] at h
    obtain ⟨next, one, h⟩ := except_bind_eq_ok_iff.mp h
    obtain ⟨base, -, rfl⟩ := eq_of_afterClass one
    by_cases again : ∃ y ∈ rest, y.name = x.name
    · obtain ⟨y, hy, same⟩ := again
      exact same ▸ ih h hy
    · have free : ∀ y ∈ rest, y.name ≠ x.name := fun y hy same => again ⟨y, hy, same⟩
      have same : first.name = x.name := by
        rcases List.mem_cons.mp mem with rfl | mem
        · rfl
        · exact absurd rfl (free x mem)
      rw [thing?_of_classes h free, thing?_cons, if_pos same]
      exact ⟨first, base, rfl⟩

/-- The name is that of no class, and the imports leave it to stand for the thing. -/
structure Unclashed (modules : Converter.Modules) (lines : List String) (classes : List Record)
    (name : String) (t : Thing) : Prop where
  free : ∀ x ∈ classes, x.name ≠ name
  imports : importedAs? modules lines name = some t

/-- **A name stands for what is imported under it exactly if nothing else has it**: no class, and no
later line of imports. -/
theorem thing?_eq_some_iff (imports : lines.foldlM (afterImport modules) supporting = .ok start)
    (h : classes.foldlM afterClass start = .ok bindings) (plain : ∀ x base, t ≠ .generated x base) :
    bindings.thing? name = some t ↔ Unclashed modules lines classes name t := by
  constructor
  · intro found
    have free : ∀ x ∈ classes, x.name ≠ name := by
      rintro x hx rfl
      obtain ⟨y, base, generated⟩ := generated_of_classes h hx
      exact plain y base (Option.some.inj (found.symm.trans generated))
    rw [thing?_of_classes h free, thing?_of_imports imports] at found
    exact ⟨free, found⟩
  · rintro ⟨free, found⟩
    rw [thing?_of_classes h free, thing?_of_imports imports, found]

/-! ## Modules -/

theorem parts_of_run (h : run modules lines classes = .ok bindings) :
    ∃ start, lines.foldlM (afterImport modules) supporting = .ok start ∧
      classes.foldlM afterClass start = .ok bindings := by
  unfold run at h
  split at h
  · cases h
  · exact except_bind_eq_ok_iff.mp h

/-- **The name of a class stands for it**, made on what the name of its base stands for there: the
supporting class exactly if no class before it and no line of imports has that name. -/
theorem base_of_run (h : run modules lines classes = .ok bindings)
    (distinct : (classes.map (·.name)).Nodup) {before after : List Record} {x : Record}
    (eq : classes = before ++ x :: after) : ∃ base,
      bindings.thing? x.name = some (.generated x base) ∧
      ∀ tool, base = .tool tool ↔ Unclashed modules lines before (baseName x) (.tool tool) := by
  obtain ⟨start, imports, made⟩ := parts_of_run h
  subst eq
  rw [List.foldlM_append] at made
  obtain ⟨middle, first, made⟩ := except_bind_eq_ok_iff.mp made
  rw [List.foldlM_cons] at made
  obtain ⟨next, one, made⟩ := except_bind_eq_ok_iff.mp made
  obtain ⟨base, found, rfl⟩ := eq_of_afterClass one
  have later : ∀ y ∈ after, y.name ≠ x.name := by
    rw [List.map_append, List.map_cons, List.nodup_append, List.nodup_cons] at distinct
    exact fun y hy same => distinct.2.1.1 (same ▸ List.mem_map_of_mem hy)
  refine ⟨base, ?_, fun tool => ?_⟩
  · rw [thing?_of_classes made later, thing?_cons, if_pos rfl]
  · have plain : ∀ y other, Thing.tool tool ≠ .generated y other := nofun
    rw [← thing?_eq_some_iff imports first plain]
    unfold Bindings.find at found
    cases known : middle.thing? (baseName x) with
    | none =>
      rw [known] at found
      cases found
    | some t =>
      rw [known] at found
      cases found
      exact ⟨congrArg some, Option.some.inj⟩

end QueryShape.Program
