import QueryShape.Proofs.Generation.Run
import QueryShape.Proofs.Generation.Steps
import QueryShape.Proofs.Registry.Sound

/-!
# What steps do to a session

`Session.Sound` is what every part of a run keeps, whether it succeeds or fails: the registry can be
emitted, and what the session remembers to have registered is registered.

* `ends_register`, `ends_registerOrMerge`: all that registering can do.
* `ends_steps`: going through the steps of a plan keeps the session sound, and what has been asked
  for is there.
-/

namespace QueryShape.Generation

open Document Record Program.Thing

namespace Session

/-! ## Sessions -/

/-- The enum type has its class. -/
def HasEnum (s : Session) (type : String) : Prop :=
  ∃ e, .enum e ∈ s.registry.records ∧ e.name = Naming.typeClassName type ∧ e.graphqlType = type

/-- The class of an input type is registered under the name. -/
def HasInput (s : Session) (name : String) : Prop :=
  ∃ i, .input i ∈ s.registry.records ∧ i.name = name

/-- A property of records that merging keeps, and that classes without accessors have. -/
structure Closed (P : Record → Prop) : Prop where
  enum : ∀ e, P (.enum e)
  input : ∀ i, P (.input i)
  merge : ∀ old l, (accessorNames old.accessors).Nodup → old.name = l.name →
    old.graphqlType = l.graphqlType → P (.leaf old) → P (.leaf l) →
    P (.leaf (Registry.mergedLeaf old l))

/-- The registry can be emitted, its records have a property, and what the session remembers is
registered. -/
structure Sound (P : Record → Prop) (s : Session) : Prop where
  registry : s.registry.Sound
  records : ∀ x ∈ s.registry.records, P x
  enums : ∀ type ∈ s.enums, s.HasEnum type
  inputs : ∀ name ∈ s.inputs, s.HasInput name

/-- What a session becomes in the course of a run. -/
structure Grows (before after : Session) : Prop where
  registry : before.registry.Grows after.registry
  imports : ∀ line ∈ before.imports, line ∈ after.imports

theorem Grows.refl (s : Session) : s.Grows s := ⟨.refl _, fun _ h => h⟩

theorem Grows.trans {a b c : Session} (hab : a.Grows b) (hbc : b.Grows c) : a.Grows c where
  registry := hab.registry.trans hbc.registry
  imports := fun line h => hbc.imports line (hab.imports line h)

theorem sound_empty (P : Record → Prop) : ({} : Session).Sound P where
  registry := Registry.sound_empty
  records := fun _ h => absurd h List.not_mem_nil
  enums := fun _ h => absurd h List.not_mem_nil
  inputs := fun _ h => absurd h List.not_mem_nil

theorem HasEnum.of_grows {s s' : Session} {type : String} (h : s.HasEnum type) (g : s.Grows s') :
    s'.HasEnum type := by
  obtain ⟨e, he, hn, ht⟩ := h
  obtain ⟨x, hx, grown⟩ := g.registry.records _ he
  rw [grown.eq_of_kind_ne_leaf nofun] at hx
  exact ⟨e, hx, hn, ht⟩

theorem HasInput.of_grows {s s' : Session} {name : String} (h : s.HasInput name)
    (g : s.Grows s') : s'.HasInput name := by
  obtain ⟨i, hi, hn⟩ := h
  obtain ⟨x, hx, grown⟩ := g.registry.records _ hi
  rw [grown.eq_of_kind_ne_leaf nofun] at hx
  exact ⟨i, hx, hn⟩

/-- The selection has its class, with all that it reads. -/
def HasLeaf (s : Session) (r : Leaf) : Prop :=
  ∃ l, .leaf l ∈ s.registry.records ∧ l.name = r.name ∧ l.graphqlType = r.graphqlType ∧
    (∀ name path, ReadsAlong r.accessors name path → ReadsAlong l.accessors name path) ∧
    ∀ d ∈ r.dependencies, d ∈ l.dependencies

theorem HasLeaf.of_grows {s s' : Session} {r : Leaf} (h : s.HasLeaf r) (g : s.Grows s') :
    s'.HasLeaf r := by
  obtain ⟨l, hl, hn, ht, reads, needs⟩ := h
  obtain ⟨x, hx, grown⟩ := g.registry.records _ hl
  cases grown with
  | same => exact ⟨l, hx, hn, ht, reads, needs⟩
  | @leaf _ l' grown =>
    refine ⟨l', hx, grown.name.trans hn, grown.graphqlType.trans ht, ?_, ?_⟩
    · exact fun name path h => grown.accessors.readsAlong (reads name path h)
    · exact fun d hd => grown.dependencies d (needs d hd)

/-- A step has been done. -/
def Did (s : Session) : Step → Prop
  | .enum t => s.HasEnum t.name
  | .converter _ _ imports => ∀ line ∈ imports, line ∈ s.imports
  | .leaf r => s.HasLeaf r

theorem Did.of_grows {s s' : Session} {step : Step} (h : s.Did step) (g : s.Grows s') :
    s'.Did step := by
  cases step with
  | enum t => exact HasEnum.of_grows h g
  | converter _ _ imports => exact fun line hl => g.imports line (h line hl)
  | leaf r => exact HasLeaf.of_grows h g

/-- The later session is sound, and the earlier grows to it. -/
structure Leads (P : Record → Prop) (before after : Session) : Prop where
  sound : after.Sound P
  grows : before.Grows after

variable {P : Record → Prop}

theorem Leads.refl {s : Session} (h : s.Sound P) : s.Leads P s := ⟨h, .refl s⟩

theorem Leads.trans {a b c : Session} (hab : a.Leads P b) (hbc : b.Leads P c) : a.Leads P c :=
  ⟨hbc.sound, hab.grows.trans hbc.grows⟩

/-- The sessions remember and import the same. -/
structure SameMemory (s s' : Session) : Prop where
  enums : s'.enums = s.enums
  inputs : s'.inputs = s.inputs
  imports : s'.imports = s.imports

/-- A session whose registry grows soundly leads on. -/
theorem Sound.leads {s s' : Session} (h : s.Sound P) (same : s.SameMemory s')
    (sound : s'.registry.Sound) (records : ∀ x ∈ s'.registry.records, P x)
    (grows : s.registry.Grows s'.registry) : s.Leads P s' := by
  have grown : s.Grows s' := ⟨grows, fun line h => same.imports ▸ h⟩
  refine ⟨⟨sound, records, fun type ht => ?_, fun name hn => ?_⟩, grown⟩
  · exact (h.enums type (same.enums ▸ ht)).of_grows grown
  · exact (h.inputs name (same.inputs ▸ hn)).of_grows grown

end Session

open Session Run

/-! ## Registering -/

variable {s : Session} {P : Record → Prop}

theorem ends_report (sound : s.Sound P) (event : Event) {failed : Session → Prop} :
    (report event).Ends s (fun _ s' => s.Leads P s') failed :=
  ends_modify (sound.leads ⟨rfl, rfl, rfl⟩ sound.registry sound.records (.refl _))

/-- A record is registered last, under a free name, or nothing changes. -/
theorem ends_register (x : Record) : (register x).Ends s
    (fun _ s' => x.name ∉ s.registry.names ∧ s'.registry.records = s.registry.records ++ [x] ∧
      s.SameMemory s') (· = s) := by
  unfold register
  refine ends_bind (ends_get ?_)
  cases h : s.registry.add x with
  | error e => exact ends_throw rfl
  | ok r =>
    obtain ⟨free, eq⟩ := Registry.add_eq_ok_iff.mp h
    exact ends_bind (ends_modify (ends_modify ⟨free, eq, rfl, rfl, rfl⟩))

/-- Under a free name a record is registered. -/
theorem ends_register_of_free {x : Record} (free : x.name ∉ s.registry.names) : (register x).Ends s
    (fun _ s' => s'.registry.records = s.registry.records ++ [x] ∧ s.SameMemory s')
    fun _ => False := by
  unfold register
  refine ends_bind (ends_get ?_)
  obtain ⟨r, hr⟩ := Registry.exists_add free
  rw [hr]
  exact ends_bind (ends_modify (ends_modify ⟨(Registry.add_eq_ok_iff.mp hr).2, rfl, rfl, rfl⟩))

/-- A record that depends on registered classes leads on. -/
theorem ends_register_leads (sound : s.Sound P) {x : Record} (hx : P x)
    (distinct : (accessorNames (accessorsOf x)).Nodup)
    (has : ∀ d ∈ x.dependencies, s.registry.Has x d) : (register x).Ends s
    (fun _ s' => s.Leads P s' ∧ s.SameMemory s' ∧ x ∈ s'.registry.records) (s.Leads P ·) := by
  refine (ends_register x).imp ?_ ?_
  · rintro - s' ⟨-, eq, same⟩
    refine ⟨sound.leads same (sound.registry.append eq distinct has) ?_
      (Registry.grows_of_append eq), same, ?_⟩
    · rw [eq]
      intro y hy
      rcases List.mem_append.mp hy with hy | hy
      · exact sound.records y hy
      · rwa [List.mem_singleton.mp hy]
    · rw [eq]
      exact List.mem_append_right _ List.mem_cons_self
  · rintro s' rfl
    exact .refl sound

/-- All that registering a selection can do: put it last under a free name, merge it into the one of
its name, or change nothing. -/
theorem ends_registerOrMerge (l : Leaf) : (registerOrMerge (.leaf l)).Ends s
    (fun _ s' => s.SameMemory s' ∧
      ((l.name ∉ s.registry.names ∧ s'.registry.records = s.registry.records ++ [.leaf l]) ∨
      ∃ old, .leaf old ∈ s.registry.records ∧ old.name = l.name ∧
        old.graphqlType = l.graphqlType ∧
        s'.registry = s.registry.replace (.leaf (Registry.mergedLeaf old l)))) (· = s) := by
  unfold registerOrMerge
  refine ends_bind (ends_get ?_)
  dsimp only
  rcases Registry.merge_leaf_cases s.registry l with
    ⟨r, eq, free, records⟩ | ⟨old, eq, hold, name, type⟩ | ⟨e, eq⟩
  · rw [eq]
    exact ends_bind (ends_modify (ends_modify ⟨⟨rfl, rfl, rfl⟩, Or.inl ⟨free, records⟩⟩))
  · rw [eq]
    exact ends_bind (ends_modify (ends_modify
      ⟨⟨rfl, rfl, rfl⟩, Or.inr ⟨old, hold, name, type, rfl⟩⟩))
  · rw [eq]
    exact ends_throw rfl

/-- Under a free name a selection is registered. -/
theorem ends_registerOrMerge_of_free {l : Leaf} (free : l.name ∉ s.registry.names) :
    (registerOrMerge (.leaf l)).Ends s
    (fun _ s' => s'.registry.records = s.registry.records ++ [.leaf l] ∧ s.SameMemory s')
    fun _ => False := by
  unfold registerOrMerge
  refine ends_bind (ends_get ?_)
  dsimp only
  obtain ⟨r, eq, records⟩ := Registry.merge_of_free free
  rw [eq]
  exact ends_bind (ends_modify (ends_modify ⟨records, rfl, rfl, rfl⟩))

/-- A selection is merged into that of its name and type. -/
theorem ends_registerOrMerge_of_mem {old l : Leaf} (hold : .leaf old ∈ s.registry.records)
    (name : old.name = l.name) (type : old.graphqlType = l.graphqlType) :
    (registerOrMerge (.leaf l)).Ends s
    (fun _ s' => s'.registry = s.registry.replace (.leaf (Registry.mergedLeaf old l)) ∧
      s.SameMemory s') fun _ => False := by
  unfold registerOrMerge
  refine ends_bind (ends_get ?_)
  dsimp only
  rw [Registry.merge_of_mem hold name type]
  exact ends_bind (ends_modify (ends_modify ⟨rfl, rfl, rfl, rfl⟩))

/-- A selection that depends on registered classes leads on, and has its class then. -/
theorem ends_registerOrMerge_leads (closed : Closed P) (sound : s.Sound P) {l : Leaf}
    (hl : P (.leaf l))
    (distinct : (accessorNames l.accessors).Nodup)
    (has : ∀ d ∈ l.dependencies, s.registry.Has (.leaf l) d) : (registerOrMerge (.leaf l)).Ends s
    (fun _ s' => s.Leads P s' ∧ s'.HasLeaf l) (s.Leads P ·) := by
  refine (ends_registerOrMerge l).imp ?_ ?_
  · rintro - s' ⟨same, ⟨-, eq⟩ | ⟨old, hold, name, type, eq⟩⟩
    · refine ⟨sound.leads same (sound.registry.append eq distinct has) ?_
        (Registry.grows_of_append eq), l, ?_, rfl, rfl, fun _ _ h => h, fun _ h => h⟩
      · rw [eq]
        intro y hy
        rcases List.mem_append.mp hy with hy | hy
        · exact sound.records y hy
        · rwa [List.mem_singleton.mp hy]
      · rw [eq]
        exact List.mem_append_right _ List.mem_cons_self
    · have grown := Registry.leaf_grows_mergedLeaf (sound.registry.distinct _ hold) l
      refine ⟨sound.leads same ?_ ?_ ?_, Registry.mergedLeaf old l, ?_, name, type, ?_, ?_⟩
      · rw [eq]
        exact sound.registry.replace hold name has
      · rw [eq]
        intro y hy
        obtain ⟨x, hx, rfl⟩ := List.mem_map.mp hy
        split
        · exact closed.merge old l (sound.registry.distinct _ hold) name type
            (sound.records _ hold) hl
        · exact sound.records x hx
      · rw [eq]
        exact Registry.grows_replace hold (.leaf grown)
      · rw [eq]
        exact List.mem_map.mpr ⟨_, hold, if_pos rfl⟩
      · exact fun _ _ h =>
          (readsAlong_mergeAccessors (sound.registry.distinct _ hold)).mpr (Or.inr h)
      · exact fun d hd => NameSet.mem_union.mpr (Or.inr hd)
  · rintro s' rfl
    exact .refl sound

/-- The class of an enum type is there afterwards. -/
theorem ends_registerEnum (closed : Closed P) (sound : s.Sound P) (t : TypeDefinition) :
    (registerEnum t).Ends s
    (fun _ s' => s.Leads P s' ∧ s'.HasEnum t.name) (s.Leads P ·) := by
  unfold registerEnum
  refine ends_bind (ends_get ?_)
  split
  · next known => exact ends_pure ⟨.refl sound, sound.enums t.name known⟩
  · refine ends_bind (ends_pure ?_)
    split
    · exact ends_throw (.refl sound)
    · refine ends_bind ((ends_register_leads sound (closed.enum _) ?_ ?_).imp ?_ fun _ h => h)
      · exact List.nodup_nil
      · exact fun d hd => absurd hd (NameSet.not_mem_empty d)
      · rintro - s' ⟨leads, same, mem⟩
        refine ends_modify ⟨⟨⟨leads.sound.registry, leads.sound.records, ?_,
          leads.sound.inputs⟩,
          leads.grows.registry, leads.grows.imports⟩, ?_⟩
        · intro type ht
          rcases List.mem_append.mp ht with ht | ht
          · exact leads.sound.enums type ht
          · rw [List.mem_singleton.mp ht]
            exact ⟨_, mem, rfl, rfl⟩
        · exact ⟨_, mem, rfl, rfl⟩

/-! ## Steps -/

/-- What a step needs is registered once the steps before it have been done. -/
theorem has_of_ready {before : List Step} (did : ∀ a ∈ before, s.Did a) {r : Leaf} {d : String}
    (ready : Ready before r.name d) : s.registry.Has (.leaf r) d := by
  rcases ready with ⟨t, ht, rfl⟩ | ⟨m, hm, rfl, longer⟩
  · obtain ⟨e, he, hn, -⟩ := did _ ht
    exact ⟨.enum e, he, hn, trivial⟩
  · obtain ⟨l, hl, hn, -⟩ := did _ hm
    refine ⟨.leaf l, hl, hn, ?_⟩
    have : r.name.length < l.name.length := hn ▸ longer
    exact this

theorem ends_step (closed : Closed P) (sound : s.Sound P) {a : Step}
    (leaf : ∀ r, a = .leaf r → P (.leaf r) ∧ (accessorNames r.accessors).Nodup)
    {before : List Step} (did : ∀ a ∈ before, s.Did a) (fits : Fits before a) : a.run.Ends s
    (fun _ s' => s.Leads P s' ∧ s'.Did a) (s.Leads P ·) := by
  cases a with
  | enum t => exact ends_registerEnum closed sound t
  | leaf r =>
    obtain ⟨hr, distinct⟩ := leaf r rfl
    exact ends_registerOrMerge_leads closed sound hr distinct
      fun d hd => has_of_ready did (fits d hd)
  | converter scalar path imports =>
    refine ends_bind (ends_modify (ends_modify
      ⟨⟨⟨sound.registry, sound.records, sound.enums, sound.inputs⟩, ?_⟩, ?_⟩))
    · exact ⟨.refl _, fun line h => NameSet.mem_union.mpr (Or.inl h)⟩
    · exact fun line h => NameSet.mem_union.mpr (Or.inr (NameSet.mem_ofList.mpr h))

/-- **Ordered steps keep the session sound**, and what they ask for is there afterwards. -/
theorem ends_steps (closed : Closed P) (sound : s.Sound P) {steps : List Step}
    (ordered : Ordered steps)
    (leaf : ∀ r, .leaf r ∈ steps → P (.leaf r) ∧ (accessorNames r.accessors).Nodup) :
    (steps.forM Step.run).Ends s (fun _ s' => s.Leads P s' ∧ ∀ a ∈ steps, s'.Did a)
      (s.Leads P ·) := by
  refine ends_forM (fun before s' => s.Leads P s' ∧ ∀ a ∈ before, s'.Did a)
    ⟨.refl sound, fun a ha => absurd ha List.not_mem_nil⟩ ?_
  rintro before a s' front ⟨leads, did⟩
  have fits : Fits before a := by simpa using ordered.fits front
  have mem : a ∈ steps := front.subset (by simp)
  refine (ends_step closed leads.sound (fun r h => leaf r (h ▸ mem)) did fits).imp ?_ ?_
  · rintro - s'' ⟨next, doneNow⟩
    refine ⟨leads.trans next, fun b hb => ?_⟩
    rcases List.mem_append.mp hb with hb | hb
    · exact (did b hb).of_grows next.grows
    · rw [List.mem_singleton.mp hb]
      exact doneNow
  · exact fun s'' next => leads.trans next

/-- **An ordered plan keeps the session sound.** If it has a result, all it asks for is there. -/
theorem ends_plan {α : Type} {p : Plan α} (closed : Closed P) (sound : s.Sound P)
    (ordered : Ordered p.steps)
    (leaf : ∀ r, .leaf r ∈ p.steps → P (.leaf r) ∧ (accessorNames r.accessors).Nodup) :
    p.run.Ends s
    (fun a s' => s.Leads P s' ∧ p.result = .ok a ∧ ∀ a ∈ p.steps, s'.Did a) (s.Leads P ·) := by
  unfold Plan.run
  refine ends_bind ((ends_steps closed sound ordered leaf).imp ?_ fun _ h => h)
  rintro - s' ⟨leads, did⟩
  cases h : p.result with
  | error e => exact ends_throw leads
  | ok a => exact ends_pure ⟨leads, rfl, did⟩

end QueryShape.Generation
