import QueryShape.Program.Load
import QueryShape.Proofs.Generation.Generate

/-!
# The names of a module that has been run

After a module has been run, the name of each of its classes stands for the class, made on what the
name of its base stood for.
-/

namespace QueryShape.Program

open Generation

/-- A class is put in front of the bindings, made on what the name of its base stands for. -/
theorem eq_of_afterClass {bindings after : Bindings} {x : Record}
    (h : afterClass bindings x = .ok after) : ∃ base, bindings.find (baseName x) = .ok base ∧
      after = (x.name, .generated x base) :: bindings := by
  unfold afterClass at h
  obtain ⟨base, found, h⟩ := except_bind_eq_ok_iff.mp h
  obtain ⟨_, -, h⟩ := except_bind_eq_ok_iff.mp h
  refine ⟨base, found, ?_⟩
  cases x with
  | root r =>
    dsimp only at h
    obtain ⟨_, -, h⟩ := except_bind_eq_ok_iff.mp h
    obtain ⟨_, -, h⟩ := except_bind_eq_ok_iff.mp h
    obtain ⟨_, -, h⟩ := except_bind_eq_ok_iff.mp h
    exact (Except.ok.inj h).symm
  | leaf l =>
    dsimp only at h
    obtain ⟨_, -, h⟩ := except_bind_eq_ok_iff.mp h
    exact (Except.ok.inj h).symm
  | enum e =>
    dsimp only at h
    obtain ⟨_, -, h⟩ := except_bind_eq_ok_iff.mp h
    exact (Except.ok.inj h).symm
  | input i => exact (Except.ok.inj h).symm

/-- The name of a class stands for it, made on a tool if the name of its base stands for one. -/
def Made (bindings : Bindings) (x : Record) : Prop :=
  ∃ base, bindings.lookup x.name = some (.generated x base) ∧
    ∀ tool, bindings.lookup (baseName x) = some (.tool tool) → base = .tool tool

/-- A class in front of the bindings is made, and those made before stay so. -/
theorem made_cons {bindings : Bindings} {x : Record} {base : Thing}
    (found : bindings.find (baseName x) = .ok base) :
    Made ((x.name, .generated x base) :: bindings) x := by
  refine ⟨base, List.lookup_cons_self, fun tool ht => ?_⟩
  rw [List.lookup_cons] at ht
  split at ht
  · cases ht
  · unfold Bindings.find Bindings.thing? at found
    rw [ht] at found
    cases found
    rfl

theorem Made.cons {bindings : Bindings} {x y : Record} {base : Thing} (made : Made bindings x)
    (other : x.name ≠ y.name) : Made ((y.name, .generated y base) :: bindings) x := by
  obtain ⟨base', lookup, tool⟩ := made
  refine ⟨base', ?_, fun t ht => tool t ?_⟩
  · rw [List.lookup_cons, beq_eq_false_iff_ne.mpr other]
    exact lookup
  · rw [List.lookup_cons] at ht
    split at ht
    · cases ht
    · exact ht

theorem made_of_foldlM {classes done : List Record} {start bindings : Bindings}
    (unique : ∀ x ∈ done ++ classes, ∀ y ∈ done ++ classes, x.name = y.name → x = y)
    (made : ∀ x ∈ done, Made start x) (h : classes.foldlM afterClass start = .ok bindings) :
    ∀ x ∈ done ++ classes, Made bindings x := by
  induction classes generalizing start done with
  | nil =>
    cases h
    simpa using made
  | cons first rest ih =>
    rw [List.foldlM_cons] at h
    obtain ⟨next, step, h⟩ := except_bind_eq_ok_iff.mp h
    obtain ⟨base, found, rfl⟩ := eq_of_afterClass step
    have isOne : first ∈ done ++ first :: rest := by simp
    have regroup : done ++ first :: rest = (done ++ [first]) ++ rest := by simp
    refine regroup ▸ ih (regroup ▸ unique) (fun x hx => ?_) h
    rcases List.mem_append.mp hx with hx | hx
    · by_cases same : x.name = first.name
      · rw [unique x (List.mem_append_left _ hx) first isOne same]
        exact made_cons found
      · exact (made x hx).cons same
    · cases List.mem_singleton.mp hx
      exact made_cons found

/-- **The names of all classes of a module stand for them.** -/
theorem made_of_run {modules : Converter.Modules} {imports : List String} {classes : List Record}
    {bindings : Bindings} (unique : ∀ x ∈ classes, ∀ y ∈ classes, x.name = y.name → x = y)
    (h : run modules imports classes = .ok bindings) : ∀ x ∈ classes, Made bindings x := by
  unfold run at h
  split at h
  · cases h
  · obtain ⟨start, -, h⟩ := except_bind_eq_ok_iff.mp h
    have all : ∀ x ∈ [] ++ classes, ∀ y ∈ [] ++ classes, x.name = y.name → x = y := unique
    exact made_of_foldlM all (fun x hx => absurd hx List.not_mem_nil) h

/-- A module that holds the classes that calls have registered has been run. -/
def Loaded (calls : List (Generator × Declaration)) (bindings : Bindings) : Prop :=
  ∃ modules classes, (after {} calls).registry.sorted = .ok classes ∧
    run modules (after {} calls).imports.toList classes = .ok bindings

variable {calls : List (Generator × Declaration)} {bindings : Bindings}

/-- The module has been run with the records as its classes. -/
theorem Loaded.exists_run (loaded : Loaded calls bindings) :
    ∃ modules classes, (∀ x, x ∈ classes ↔ x ∈ (after {} calls).registry.records) ∧
      run modules (after {} calls).imports.toList classes = .ok bindings := by
  obtain ⟨modules, classes, sorted, ran⟩ := loaded
  have sound := (sound_after closed_true calls fun _ _ _ _ _ => trivial).registry
  obtain ⟨_, eq, same⟩ := sound.exists_sorted
  cases sorted.symm.trans eq
  exact ⟨modules, classes, same, ran⟩

theorem Loaded.made (loaded : Loaded calls bindings) :
    ∀ x ∈ (after {} calls).registry.records, Made bindings x := by
  obtain ⟨modules, classes, same, ran⟩ := loaded.exists_run
  intro x hx
  refine made_of_run (fun y hy z hz => ?_) ran x ((same x).mpr hx)
  exact Registry.eq_of_name_eq ((same y).mp hy) ((same z).mp hz)

/-- No two parameters of a class have the same name. -/
theorem Loaded.distinct (loaded : Loaded calls bindings) :
    ∀ x ∈ (after {} calls).registry.records, ((parametersOf x).map (passedName x.name)).Nodup := by
  obtain ⟨modules, classes, same, ran⟩ := loaded.exists_run
  intro x hx
  unfold run at ran
  split at ran
  · cases ran
  · next written =>
    have written := List.all_eq_true.mp (by simpa using written) x ((same x).mpr hx)
    unfold canBeWritten at written
    simp only [Bool.and_eq_true, decide_eq_true_eq] at written
    exact written.1

/-! ## Imports -/

/-- What is bound in some bindings is in the others, to this or something else. -/
def Keeps (before after : Bindings) : Prop :=
  ∀ name, (before.lookup name).isSome = true → (after.lookup name).isSome = true

theorem keeps_cons (bindings : Bindings) (name : String) (t : Thing) :
    Keeps bindings ((name, t) :: bindings) := by
  intro other bound
  rw [List.lookup_cons]
  split
  · rfl
  · exact bound

theorem keeps_foldlM {step : Bindings → α → Except Fault Bindings} {items : List α}
    (keeps : ∀ before a after, step before a = .ok after → Keeps before after)
    {start bindings : Bindings} (h : items.foldlM step start = .ok bindings) :
    Keeps start bindings := by
  induction items generalizing start with
  | nil =>
    cases h
    exact fun _ bound => bound
  | cons first rest ih =>
    rw [List.foldlM_cons] at h
    obtain ⟨next, one, h⟩ := except_bind_eq_ok_iff.mp h
    exact fun name bound => ih h name (keeps start first next one name bound)

theorem keeps_afterImport {modules : Converter.Modules} {before after : Bindings} {line : String}
    (h : afterImport modules before line = .ok after) : Keeps before after := by
  unfold afterImport at h
  split at h
  · obtain ⟨t, -, h⟩ := except_bind_eq_ok_iff.mp h
    cases h
    exact keeps_cons before _ t
  · cases h

/-- **What every module imports stays bound.** -/
theorem keeps_of_run {modules : Converter.Modules} {imports : List String} {classes : List Record}
    {bindings : Bindings} (h : run modules imports classes = .ok bindings) :
    Keeps supporting bindings := by
  unfold run at h
  split at h
  · cases h
  · obtain ⟨start, imported, h⟩ := except_bind_eq_ok_iff.mp h
    intro name bound
    refine keeps_foldlM (fun before x after step => ?_) h name
      (keeps_foldlM (fun _ _ _ step => keeps_afterImport step) imported name bound)
    obtain ⟨base, -, rfl⟩ := eq_of_afterClass step
    exact keeps_cons before _ _

end QueryShape.Program
