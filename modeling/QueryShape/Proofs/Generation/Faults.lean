import QueryShape.Proofs.Generation.Members
import QueryShape.Proofs.Generation.Run
import QueryShape.Proofs.Registry.Growth
import QueryShape.Proofs.Schema.Fields

/-!
# The errors of runs

`FailsOnly` says of a plan or a run which errors it can end in. The rules go along its parts.

Registering, converting and resolving inputs end in no error but those that depend on names,
converters and what has been registered, if the schema is sound: these are `Unforeseen`.
-/

namespace QueryShape.Generation

open Document Record Schema

variable {α β : Type} {allowed : GenerationError → Prop}

/-! ## Plans -/

/-- If the plan fails, it is with one of the errors. -/
def Plan.FailsOnly (allowed : GenerationError → Prop) (p : Plan α) : Prop :=
  ∀ e, p.result = .error e → allowed e

namespace Plan

theorem failsOnly_pure (a : α) : (Pure.pure a : Plan α).FailsOnly allowed := fun _ h => nomatch h

theorem failsOnly_step (s : Step) : (step s).FailsOnly allowed := fun _ h => nomatch h

theorem failsOnly_fail {e : GenerationError} (h : allowed e) :
    (fail e : Plan α).FailsOnly allowed := fun _ eq => Except.error.inj eq ▸ h

theorem failsOnly_ofExcept {x : Except GenerationError α} (h : ∀ e, x = .error e → allowed e) :
    (ofExcept x).FailsOnly allowed := h

theorem failsOnly_bind {p : Plan α} {next : α → Plan β} (h : p.FailsOnly allowed)
    (each : ∀ a, p.result = .ok a → (next a).FailsOnly allowed) :
    (p >>= next).FailsOnly allowed := by
  obtain ⟨steps, result⟩ := p
  cases result with
  | error e =>
    intro e' eq
    cases eq
    exact h e rfl
  | ok a => exact fun e' eq => each a rfl e' eq

theorem failsOnly_foldlM {f : β → α → Plan β} {items : List α}
    (each : ∀ a ∈ items, ∀ b, (f b a).FailsOnly allowed) (b : β) :
    (items.foldlM f b).FailsOnly allowed := by
  induction items generalizing b with
  | nil => exact failsOnly_pure b
  | cons a rest ih =>
    obtain ⟨here, later⟩ := List.forall_mem_cons.mp each
    rw [List.foldlM_cons]
    exact failsOnly_bind (here b) fun b' _ => ih later b'

end Plan

/-! ## Runs -/

/-- If the run fails, it is with one of the errors, whatever state it starts from. -/
def Run.FailsOnly (allowed : GenerationError → Prop) (x : Run α) : Prop :=
  ∀ s e s', x.outcome s = (.error e, s') → allowed e

namespace Run

theorem failsOnly_pure (a : α) : (pure a : Run α).FailsOnly allowed := fun _ _ _ h => nomatch h

theorem failsOnly_throw {e : GenerationError} (h : allowed e) :
    (throw e : Run α).FailsOnly allowed := by
  intro s e' s' eq
  cases eq
  exact h

/-- What comes after an error does not matter. -/
theorem failsOnly_throw_bind {e : GenerationError} (h : allowed e) (next : α → Run β) :
    (throw e >>= next).FailsOnly allowed := by
  intro s e' s' eq
  cases eq
  exact h

theorem failsOnly_pure_bind {a : α} {next : α → Run β} (h : (next a).FailsOnly allowed) :
    ((pure a : Run α) >>= next).FailsOnly allowed := h

theorem failsOnly_get : (get : Run Session).FailsOnly allowed := fun _ _ _ h => nomatch h

theorem failsOnly_modify (f : Session → Session) : (modify f : Run Unit).FailsOnly allowed :=
  fun _ _ _ h => nomatch h

theorem failsOnly_bind {x : Run α} {next : α → Run β} (h : x.FailsOnly allowed)
    (each : ∀ a, (next a).FailsOnly allowed) : (x >>= next).FailsOnly allowed := by
  intro s e s' eq
  rw [outcome_bind] at eq
  rcases hx : x.outcome s with ⟨_ | a, s₁⟩ <;> rw [hx] at eq
  · cases eq
    exact h s _ _ hx
  · exact each a s₁ e s' eq

theorem failsOnly_forM {f : α → Run Unit} {items : List α}
    (each : ∀ a ∈ items, (f a).FailsOnly allowed) : (items.forM f).FailsOnly allowed := by
  induction items with
  | nil => exact failsOnly_pure ()
  | cons a rest ih =>
    obtain ⟨here, later⟩ := List.forall_mem_cons.mp each
    exact failsOnly_bind here fun _ => ih later

theorem failsOnly_mapM {f : α → Run β} {items : List α}
    (each : ∀ a ∈ items, (f a).FailsOnly allowed) : (items.mapM f).FailsOnly allowed := by
  induction items with
  | nil => exact failsOnly_pure []
  | cons a rest ih =>
    obtain ⟨here, later⟩ := List.forall_mem_cons.mp each
    rw [List.mapM_cons]
    exact failsOnly_bind here fun b => failsOnly_bind (ih later) fun bs => failsOnly_pure _

end Run

open Run

/-! ## Errors that do not depend on the document alone -/

/-- An error that no check of a document against the schema rules out: names that clash, a converter
that cannot be used, a root type that the schema does not have. -/
def Unforeseen (s : Schema) : GenerationError → Prop
  | .reservedName .. | .redefinition .. | .unusableConverter .. => True
  | .missingRoot kind => s.root? kind = none
  | _ => False

variable {s : Schema}

/-- A name that is taken is all that keeps a record from being registered. -/
theorem redefinition_of_add {r : Registry} {x : Record} {e : GenerationError}
    (h : r.add x = .error e) : ∃ clash, e = .redefinition x.name clash := by
  unfold Registry.add at h
  split at h
  · cases h
    exact ⟨_, rfl⟩
  · cases h

/-- Two records that cannot be merged exclude each other. -/
theorem redefinition_of_recordMerge {old x : Record} {e : GenerationError}
    (h : old.merge x = .error e) : ∃ name clash, e = .redefinition name clash := by
  unfold Record.merge at h
  split at h
  · next existing incoming =>
    unfold Leaf.merge at h
    split at h
    · cases h
    · cases h
      exact ⟨_, _, rfl⟩
  · cases h
    exact ⟨_, _, rfl⟩

theorem redefinition_of_merge {r : Registry} {x : Record} {e : GenerationError}
    (h : r.merge x = .error e) : ∃ name clash, e = .redefinition name clash := by
  unfold Registry.merge at h
  split at h
  · cases added : r.add x with
    | ok r' =>
      rw [added] at h
      cases h
    | error e' =>
      rw [added] at h
      cases h
      exact ⟨_, redefinition_of_add added⟩
  · next old _ =>
    cases merged : old.merge x with
    | ok x' =>
      rw [merged] at h
      cases h
    | error e' =>
      rw [merged] at h
      cases h
      exact redefinition_of_recordMerge merged

theorem failsOnly_register (x : Record) : (register x).FailsOnly (Unforeseen s) := by
  refine failsOnly_bind failsOnly_get fun before => ?_
  split
  · exact failsOnly_bind (failsOnly_modify _) fun _ => failsOnly_modify _
  · next e eq =>
    obtain ⟨clash, rfl⟩ := redefinition_of_add eq
    exact failsOnly_throw trivial

theorem failsOnly_registerOrMerge (x : Record) :
    (registerOrMerge x).FailsOnly (Unforeseen s) := by
  refine failsOnly_bind failsOnly_get fun before => ?_
  dsimp only
  split
  · exact failsOnly_bind (failsOnly_modify _) fun _ => failsOnly_modify _
  · next e eq =>
    obtain ⟨name, clash, rfl⟩ := redefinition_of_merge eq
    exact failsOnly_throw trivial

theorem failsOnly_registerEnum (t : TypeDefinition) :
    (registerEnum t).FailsOnly (Unforeseen s) := by
  refine failsOnly_bind failsOnly_get fun before => ?_
  split
  · exact failsOnly_pure _
  · dsimp only
    split
    · exact failsOnly_throw trivial
    · exact failsOnly_bind (failsOnly_register _) fun _ => failsOnly_modify _

theorem failsOnly_step (step : Step) : step.run.FailsOnly (Unforeseen s) := by
  cases step with
  | enum t => exact failsOnly_registerEnum t
  | converter => exact failsOnly_bind (failsOnly_modify _) fun _ => failsOnly_modify _
  | leaf l => exact failsOnly_registerOrMerge _

/-- Doing the steps of a plan adds no other errors to those of the plan. -/
theorem failsOnly_plan {p : Plan α} (h : p.FailsOnly (Unforeseen s)) :
    p.run.FailsOnly (Unforeseen s) := by
  refine failsOnly_bind (failsOnly_forM fun step _ => failsOnly_step step) fun _ => ?_
  cases result : p.result with
  | ok a => exact failsOnly_pure a
  | error e => exact failsOnly_throw (h e result)

/-! ## Scalars and enums -/

variable {g : Setting}

theorem failsOnly_convertedBy (scalar : String) (c : Converter) (method : String) :
    (convertedBy scalar c method).FailsOnly (Unforeseen s) := by
  unfold convertedBy
  split
  · exact Plan.failsOnly_fail trivial
  · exact Plan.failsOnly_bind (Plan.failsOnly_step _) fun _ _ => Plan.failsOnly_pure _

theorem failsOnly_scalarInput (scalar : String) :
    (scalarInput g scalar).FailsOnly (Unforeseen s) := by
  unfold scalarInput
  split
  · exact failsOnly_convertedBy _ _ _
  · exact Plan.failsOnly_pure _

theorem failsOnly_enumClass (t : TypeDefinition) : (enumClass t).FailsOnly (Unforeseen s) :=
  Plan.failsOnly_bind (Plan.failsOnly_step _) fun _ _ => Plan.failsOnly_pure _

/-- Scalars and enums can be read, converters apart. -/
theorem failsOnly_outputOf {t : TypeDefinition} (isLeaf : t.kind.isLeaf = true) :
    (outputOf g t).FailsOnly (Unforeseen s) := by
  unfold outputOf
  split
  · unfold scalarOutput
    split
    · exact failsOnly_convertedBy _ _ _
    · exact Plan.failsOnly_pure _
  · exact Plan.failsOnly_bind (failsOnly_enumClass t) fun _ _ => Plan.failsOnly_pure _
  · next notScalar notEnum =>
    cases kind : t.kind <;> simp_all [Kind.isLeaf]

/-! ## Input types -/

mutual

/-- **The classes of input types are registered**, names and converters apart, if the schema is
sound. -/
theorem failsOnly_inputClass (sound : g.schema.isSound = true) (pending : List String)
    (t : TypeDefinition) (ht : t ∈ g.schema.types) :
    (inputClass g pending t ht).FailsOnly (Unforeseen g.schema) := by
  rw [inputClass]
  dsimp only
  split
  · exact failsOnly_pure _
  · next new =>
    refine failsOnly_bind failsOnly_get fun before => ?_
    split
    · exact failsOnly_pure _
    · have := unvisited_lt ht new
      refine failsOnly_bind (failsOnly_inputParametersOf sound _ _ _ fun field hf =>
        sound_of_mem_inputFields sound ht hf) fun parameters => ?_
      exact failsOnly_bind (failsOnly_register _) fun _ =>
        failsOnly_bind (failsOnly_modify _) fun _ => failsOnly_pure _
termination_by (unvisited g.schema pending, 0)
decreasing_by
  exact Prod.Lex.left _ _ this

theorem failsOnly_inputParametersOf (sound : g.schema.isSound = true) (pending : List String)
    (owner : String) (fields : List InputValue)
    (each : ∀ field ∈ fields, g.schema.bareKind Kind.isInput field.type = true) :
    (inputParametersOf g pending owner fields).FailsOnly (Unforeseen g.schema) := by
  cases fields with
  | nil =>
    rw [inputParametersOf]
    exact failsOnly_pure _
  | cons field rest =>
    rw [inputParametersOf]
    obtain ⟨here, later⟩ := List.forall_mem_cons.mp each
    refine failsOnly_bind (failsOnly_parameter sound _ _ _ _ _ here) fun parameter => ?_
    exact failsOnly_bind (failsOnly_inputParametersOf sound _ _ rest later) fun parameters =>
      failsOnly_pure _
termination_by (unvisited g.schema pending, fields.length + 2)

/-- A parameter of an input type has a way to be sent. -/
theorem failsOnly_parameter (sound : g.schema.isSound = true) (pending : List String)
    (owner : String) (reserved : List String) (graphqlName : String) (type : TypeRef)
    (isInput : g.schema.bareKind Kind.isInput type = true) :
    (parameter g pending owner reserved graphqlName type).FailsOnly (Unforeseen g.schema) := by
  rw [parameter]
  dsimp only
  obtain ⟨t, found, kind⟩ := exists_of_bareKind isInput
  split
  · exact failsOnly_throw_bind trivial _
  · split
    · next t' found' =>
      cases found.symm.trans found'
      exact failsOnly_bind (failsOnly_inputOf sound _ _ _ kind) fun _ => failsOnly_pure _
    · next none => exact absurd (found.symm.trans none) nofun
termination_by (unvisited g.schema pending, 2)

theorem failsOnly_inputOf (sound : g.schema.isSound = true) (pending : List String)
    (t : TypeDefinition) (ht : t ∈ g.schema.types) (isInput : t.kind.isInput = true) :
    (inputOf g pending t ht).FailsOnly (Unforeseen g.schema) := by
  rw [inputOf]
  split
  · exact failsOnly_plan (failsOnly_scalarInput t.name)
  · exact failsOnly_bind (failsOnly_plan (failsOnly_enumClass t)) fun _ => failsOnly_pure _
  · exact failsOnly_bind (failsOnly_inputClass sound pending t ht) fun _ => failsOnly_pure _
  · next notScalar notEnum notInput =>
    cases kind : t.kind <;> simp_all [Kind.isInput]
termination_by (unvisited g.schema pending, 1)

end

end QueryShape.Generation
