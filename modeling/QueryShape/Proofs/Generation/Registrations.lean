import QueryShape.Proofs.Generation.Session

/-!
# One registration after the other

A class is registered under a name that is free, or merged into the class of its name. A run does
both in any order, whatever comes of each.

* `ends_registration`: all that one registration can do, where it is refused nothing.
* `names_registrations`: the names of a registry are those that were accepted, in the order in which
  each was accepted first.
* `registrations_last`: what is registered stays under its name, with its kind and type, and a
  selection only gets more accessors, paths and dependencies.
-/

namespace QueryShape.Generation

open Record Program.Thing Run Session

/-! ## Registrations -/

/-- What is asked of a registry. -/
inductive Registration
  /-- Register the class under a name that no other has. -/
  | add (record : Record)
  /-- Register the class, merging it into the one of its name. -/
  | merge (record : Record)

namespace Registration

/-- The class that is registered. -/
def record : Registration → Record
  | .add x | .merge x => x

/-- Register the class. -/
def run : Registration → Run Unit
  | .add x => register x
  | .merge x => registerOrMerge x

/-- The registry takes the class: its name is free, or it is merged, as a selection, into one of its
name and type. -/
def IsTakenBy (c : Registration) (r : Registry) : Prop :=
  c.record.name ∉ r.names ∨ ∃ old l, c = .merge (.leaf l) ∧ .leaf old ∈ r.records ∧
    old.name = l.name ∧ old.graphqlType = l.graphqlType

/-- No two accessors of the class have one name. -/
def IsDistinct (c : Registration) : Prop := (accessorNames (accessorsOf c.record)).Nodup

end Registration

/-- The session after registrations, whatever comes of each. -/
def registrations (s : Session) (calls : List Registration) : Session :=
  calls.foldl (fun s c => (c.run.outcome s).2) s

/-- The names under which registrations are accepted, one after the other. -/
def accepted : Session → List Registration → List String
  | _, [] => []
  | s, c :: rest =>
    match c.run.outcome s with
    | (.ok (), s') => c.record.name :: accepted s' rest
    | (.error _, s') => accepted s' rest

variable {s s' : Session} {c : Registration}

/-! ## One registration -/

/-- What a registration that is accepted does to a registry. -/
inductive Registers (c : Registration) (r r' : Registry) : Prop
  /-- The class is put last, under a free name. -/
  | append (free : c.record.name ∉ r.names) (records : r'.records = r.records ++ [c.record])
  /-- A selection is merged into the one of its name and type, which stays in its place. -/
  | replace {old l : Leaf} (eq : c = .merge (.leaf l)) (mem : .leaf old ∈ r.records)
      (name : old.name = l.name) (type : old.graphqlType = l.graphqlType)
      (registry : r' = r.replace (.leaf (Registry.mergedLeaf old l)))

theorem Registers.isTakenBy {r r' : Registry} (h : Registers c r r') : c.IsTakenBy r := by
  cases h with
  | append free => exact Or.inl free
  | replace eq mem name type => exact Or.inr ⟨_, _, eq, mem, name, type⟩

/-- A class that is not merged is registered under a free name only. -/
theorem ends_add (x : Record) : (register x).Ends s
    (fun _ s' => Registers (.add x) s.registry s'.registry)
    (fun s' => ¬ (Registration.add x).IsTakenBy s.registry ∧ s' = s) := by
  by_cases free : x.name ∈ s.registry.names
  · have refused : s.registry.add x = .error (.redefinition x.name .taken) := by
      simp [Registry.add, free]
    unfold register
    refine ends_bind (ends_get ?_)
    rw [refused]
    refine ends_throw ⟨?_, rfl⟩
    rintro (taken | ⟨old, l, eq, -⟩)
    · exact taken free
    · cases eq
  · refine (ends_register_of_free free).imp ?_ fun _ h => h.elim
    rintro - s' ⟨records, -⟩
    exact .append free records

/-- A class that is not taken is not merged into any. -/
theorem merge_of_not_isTakenBy {r : Registry} {x : Record}
    (h : ¬ (Registration.merge x).IsTakenBy r) : ∃ e, r.merge x = .error e := by
  unfold Registration.IsTakenBy at h
  obtain ⟨taken, other⟩ := not_or.mp h
  obtain ⟨existing, mem, name⟩ := Registry.mem_names.mp (not_not.mp taken)
  have found : r.get? x.name = some existing := Registry.get?_eq_some_iff.mpr ⟨mem, name⟩
  unfold Registry.merge
  rw [found]
  cases existing with
  | leaf old =>
    cases x with
    | leaf l =>
      have types : l.graphqlType ≠ old.graphqlType :=
        fun same => other ⟨old, l, rfl, mem, name, same.symm⟩
      exact ⟨.redefinition old.name (.types old.graphqlType l.graphqlType), by
        simp only [Record.merge, Leaf.merge, if_neg types]; rfl⟩
    | root _ | input _ | enum _ => exact ⟨_, rfl⟩
  | root _ | input _ | enum _ => exact ⟨_, rfl⟩

/-- Under a free name merging is registering. -/
theorem merge_eq_of_free {r : Registry} {x : Record} (free : x.name ∉ r.names) :
    ∃ r', r.merge x = .ok (r', x) ∧ r'.records = r.records ++ [x] := by
  have none : r.get? x.name = none := Registry.get?_eq_none_iff.mpr free
  obtain ⟨r', added⟩ := Registry.exists_add free
  refine ⟨r', ?_, (Registry.add_eq_ok_iff.mp added).2⟩
  unfold Registry.merge
  rw [none, added]
  rfl

theorem ends_merge (x : Record) : (registerOrMerge x).Ends s
    (fun _ s' => Registers (.merge x) s.registry s'.registry)
    (fun s' => ¬ (Registration.merge x).IsTakenBy s.registry ∧ s' = s) := by
  by_cases taken : (Registration.merge x).IsTakenBy s.registry
  · rcases taken with free | ⟨old, l, eq, mem, name, type⟩
    · obtain ⟨r', merged, records⟩ := merge_eq_of_free (x := x) free
      unfold registerOrMerge
      refine ends_bind (ends_get ?_)
      dsimp only
      rw [merged]
      exact ends_bind (ends_modify (ends_modify (.append free records)))
    · cases eq
      refine (ends_registerOrMerge_of_mem mem name type).imp ?_ fun _ h => h.elim
      rintro - s' ⟨registry, -⟩
      exact .replace rfl mem name type registry
  · obtain ⟨e, refused⟩ := merge_of_not_isTakenBy taken
    unfold registerOrMerge
    refine ends_bind (ends_get ?_)
    dsimp only
    rw [refused]
    exact ends_throw ⟨taken, rfl⟩

/-- **A registration is accepted where the registry takes the class, and changes nothing where it is
refused.** -/
theorem ends_registration (c : Registration) (s : Session) : c.run.Ends s
    (fun _ s' => Registers c s.registry s'.registry)
    (fun s' => ¬ c.IsTakenBy s.registry ∧ s' = s) := by
  cases c with
  | add x => exact ends_add x
  | merge x => exact ends_merge x

theorem registers_of_ok (h : c.run.outcome s = (.ok (), s')) :
    Registers c s.registry s'.registry := (ends_registration c s).of_ok h

theorem refused_of_error {e : GenerationError} (h : c.run.outcome s = (.error e, s')) :
    ¬ c.IsTakenBy s.registry ∧ s' = s := (ends_registration c s).of_error h

theorem isAccepted_iff : (∃ s', c.run.outcome s = (.ok (), s')) ↔ c.IsTakenBy s.registry := by
  constructor
  · rintro ⟨s', ok⟩
    exact (registers_of_ok ok).isTakenBy
  · intro taken
    rcases outcome : c.run.outcome s with ⟨e | ⟨⟩, s'⟩
    · exact absurd taken (refused_of_error outcome).1
    · exact ⟨s', rfl⟩

/-! ## The order of names -/

theorem eraseDups_of_nodup {names : List String} (distinct : names.Nodup) :
    names.eraseDups = names := by
  induction names with
  | nil => rfl
  | cons name rest ih =>
    obtain ⟨fresh, others⟩ := List.nodup_cons.mp distinct
    have kept : rest.filter (fun b => !b == name) = rest := by
      refine List.filter_eq_self.mpr fun b hb => ?_
      have : b ≠ name := fun same => fresh (same ▸ hb)
      simpa using this
    rw [List.eraseDups_cons, kept, ih others]

theorem eraseDups_append_cons_of_mem {names more : List String} {name : String}
    (mem : name ∈ names) :
    (names ++ name :: more).eraseDups = (names ++ more).eraseDups := by
  rw [List.eraseDups_append, List.eraseDups_append, List.cons_removeAll, if_neg]
  simpa using mem

/-- **The names of a registry are in the order in which each was accepted first.** -/
theorem names_registrations (s : Session) (calls : List Registration) :
    (registrations s calls).registry.names =
      (s.registry.names ++ accepted s calls).eraseDups := by
  induction calls generalizing s with
  | nil =>
    rw [accepted, List.append_nil]
    exact (eraseDups_of_nodup s.registry.distinct).symm
  | cons c rest ih =>
    unfold registrations at ih ⊢
    rw [List.foldl_cons, ih, accepted]
    rcases outcome : c.run.outcome s with ⟨e | ⟨⟩, s'⟩
    · rw [(refused_of_error outcome).2]
    · cases registers_of_ok outcome with
      | append free records =>
        rw [Registry.names_of_append records, List.append_assoc]
        rfl
      | @replace old l eq mem name type registry =>
        have known : c.record.name ∈ s.registry.names := by
          rw [eq]
          exact Registry.mem_names.mpr ⟨_, mem, name⟩
        rw [registry, Registry.names_replace, eraseDups_append_cons_of_mem known]

/-! ## What lasts -/

/-- No two accessors of a registered class have one name. -/
def AllDistinct (r : Registry) : Prop :=
  ∀ x ∈ r.records, (accessorNames (accessorsOf x)).Nodup

/-- A registration with distinct accessors lets a registry grow. -/
theorem Registers.grows {r r' : Registry} (h : Registers c r r') (all : AllDistinct r)
    (distinct : c.IsDistinct) : r.Grows r' ∧ AllDistinct r' := by
  cases h with
  | append free records =>
    refine ⟨Registry.grows_of_append records, fun x hx => ?_⟩
    rw [records, List.mem_append, List.mem_singleton] at hx
    rcases hx with hx | rfl
    · exact all x hx
    · exact distinct
  | @replace old l eq mem name type registry =>
    subst registry
    have grown := Registry.leaf_grows_mergedLeaf (all _ mem) l
    refine ⟨Registry.grows_replace mem (.leaf grown), fun x hx => ?_⟩
    obtain ⟨y, hy, rfl⟩ := List.mem_map.mp hx
    split
    · exact nodup_mergeAccessors (all _ mem) _
    · exact all y hy

theorem grows_registrations (all : AllDistinct s.registry) (calls : List Registration)
    (distinct : ∀ c ∈ calls, c.IsDistinct) :
    s.registry.Grows (registrations s calls).registry ∧
      AllDistinct (registrations s calls).registry := by
  induction calls generalizing s with
  | nil => exact ⟨.refl _, all⟩
  | cons c rest ih =>
    obtain ⟨here, later⟩ := List.forall_mem_cons.mp distinct
    have first : s.registry.Grows (c.run.outcome s).2.registry ∧
        AllDistinct (c.run.outcome s).2.registry := by
      rcases outcome : c.run.outcome s with ⟨e | ⟨⟩, s'⟩
      · rw [(refused_of_error outcome).2]
        exact ⟨.refl _, all⟩
      · exact (registers_of_ok outcome).grows all here
    obtain ⟨grows, allLater⟩ := ih first.2 later
    exact ⟨first.1.trans grows, allLater⟩

/-- The first of the paths that is good for objects of a type. -/
def firstPath? (type : String) (paths : List Path) : Option Path :=
  paths.find? (type ∈ ·.typenames)

/-- What becomes of a class: it keeps its name, kind and type, and unless it is that of a selection
it stays as it is. A selection keeps its dependencies and accessors, and these their paths in front
of new ones, so the first path for a type stays the first. -/
structure Lasts (x y : Record) : Prop where
  name : y.name = x.name
  kind : y.kind = x.kind
  graphqlType : y.graphqlType = x.graphqlType
  other : x.kind ≠ .leaf → y = x
  dependencies : ∀ d ∈ x.dependencies, d ∈ y.dependencies
  distinct : (accessorNames (accessorsOf y)).Nodup
  accessors : ∀ a ∈ accessorsOf x, ∃ b ∈ accessorsOf y, b.name = a.name ∧ a.paths <+: b.paths ∧
    ∀ type path, firstPath? type a.paths = some path → firstPath? type b.paths = some path

theorem lasts_of_grows {x y : Record} (h : x.Grows y)
    (distinct : (accessorNames (accessorsOf y)).Nodup) : Lasts x y where
  name := h.name_eq
  kind := h.kind_eq
  graphqlType := h.graphqlType_eq
  other := h.eq_of_kind_ne_leaf
  dependencies := h.dependencies_subset
  distinct := distinct
  accessors := by
    intro a ha
    obtain ⟨b, hb, name, front⟩ := h.accessors a ha
    exact ⟨b, hb, name, front, fun type path found => front.find?_eq_some found⟩

/-- **Registrations only add to a registry.** In the session that any of them lead to, one that is
refused changes nothing, and one is accepted exactly if the registry takes its class. Classes are
found by their own names, which stand in the order in which each was first accepted. And whatever
comes later, each class lasts under its name. -/
theorem registrations_last (before later : List Registration)
    (distinct : ∀ c ∈ before ++ later, c.IsDistinct) :
    (∀ (c : Registration) e s, c.run.outcome (registrations {} before) = (.error e, s) →
      s = registrations {} before) ∧
    (∀ (c : Registration), (∃ s, c.run.outcome (registrations {} before) = (.ok (), s)) ↔
      c.IsTakenBy (registrations {} before).registry) ∧
    (∀ name x, (registrations {} before).registry.get? name = some x → x.name = name) ∧
    (registrations {} before).registry.names = (accepted {} before).eraseDups ∧
    ∀ name x, (registrations {} before).registry.get? name = some x →
      ∃ y, (registrations {} (before ++ later)).registry.get? name = some y ∧ Lasts x y := by
  refine ⟨fun c e s refused => (refused_of_error refused).2, fun c => isAccepted_iff,
    fun name x found => (Registry.get?_eq_some_iff.mp found).2, names_registrations {} before, ?_⟩
  intro name x found
  obtain ⟨hx, rfl⟩ := Registry.get?_eq_some_iff.mp found
  obtain ⟨-, all⟩ := grows_registrations (s := {}) (fun _ h => absurd h List.not_mem_nil) before
    fun c hc => distinct c (List.mem_append_left _ hc)
  obtain ⟨grows, allLater⟩ := grows_registrations all later
    fun c hc => distinct c (List.mem_append_right _ hc)
  have split : registrations {} (before ++ later) =
      registrations (registrations {} before) later := List.foldl_append
  obtain ⟨y, hy, grown⟩ := grows.records x hx
  rw [split]
  exact ⟨y, Registry.get?_eq_some_iff.mpr ⟨hy, grown.name_eq⟩,
    lasts_of_grows grown (allLater y hy)⟩

/-- A selection of users with accessors that read the keys of their names. -/
def users (keys : List String) : Record :=
  .leaf {
    name := "User", graphqlType := "User", possibleTypes := ["User"],
    accessors := keys.map fun key => { name := key, paths := [{
      signature := .bare "str", decoder := .convert (.name key) none,
      typenames := .ofList ["User"] }] } }

/-- A selection is merged into the one before it, and an enum of its name is refused in between. -/
theorem registrations_last_merging :
    (∃ s, (Registration.add (.enum ⟨"User", "User", [], ∅⟩)).run.outcome
      (registrations {} [.add (users ["id"])]) = (.error (.redefinition "User" .taken), s) ∧
      s = registrations {} [.add (users ["id"])]) ∧
    ∃ y, (registrations {} ([.add (users ["id"])] ++ [.add (.enum ⟨"User", "User", [], ∅⟩),
      .merge (users ["id", "name"])])).registry.get? "User" = some y ∧
      Lasts (users ["id"]) y := by
  obtain ⟨atomic, -, -, -, lasts⟩ := registrations_last [.add (users ["id"])]
    [.add (.enum ⟨"User", "User", [], ∅⟩), .merge (users ["id", "name"])] (by
      simp [Registration.IsDistinct, Registration.record, users, accessorsOf, accessorNames])
  have refused : (Registration.add (.enum ⟨"User", "User", [], ∅⟩)).run.outcome
      (registrations {} [.add (users ["id"])]) = (.error (.redefinition "User" .taken),
        registrations {} [.add (users ["id"])]) := rfl
  exact ⟨⟨_, refused, atomic _ _ _ refused⟩, lasts "User" (users ["id"]) rfl⟩

end QueryShape.Generation
