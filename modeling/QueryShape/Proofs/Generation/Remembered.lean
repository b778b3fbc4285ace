import QueryShape.Proofs.Generation.Abandoned

/-!
# What a session remembers

A session remembers the enum types and the classes of input types that have been registered,
whatever calls come to and for any schema: a call that fails leaves what has been registered on the
way, and that is remembered as well.

* `retains_inputClass` and the theorems next to it: resolving remembers what it registers, forgets
  nothing, and gives what `sentAs` and `parameterFor` give.
* `nodup_of_remembers`: so no type has two classes.
* `answers_reply`: and a call for a type that is remembered registers nothing.
-/

namespace QueryShape.Generation

open Document Record Run Session

variable {g : Setting} {s s' : Session} {pending : List String} {t : TypeDefinition}

/-! ## Memory -/

/-- The class is that of an enum or input type, which the session remembers. -/
inductive IsRemembered (g : Setting) (s : Session) : Record → Prop
  | enum {e : Enum} {t : TypeDefinition} (found : g.schema.type? e.graphqlType = some t)
      (kind : t.kind = .enum) (name : e.name = Naming.typeClassName e.graphqlType)
      (known : e.graphqlType ∈ s.enums) : IsRemembered g s (.enum e)
  | input {i : Input} {t : TypeDefinition} (found : g.schema.type? i.graphqlType = some t)
      (kind : t.kind = .input) (name : i.name = Naming.typeClassName i.graphqlType)
      (known : i.name ∈ s.inputs) : IsRemembered g s (.input i)

/-- All that is registered is remembered. -/
def Session.Remembers (g : Setting) (s : Session) : Prop :=
  ∀ x ∈ s.registry.records, IsRemembered g s x

/-- The session remembers the type if values of it are sent by a class, or its class is being gone
through. -/
structure Session.Knows (s : Session) (pending : List String) (t : TypeDefinition) : Prop where
  enum : t.kind = .enum → t.name ∈ s.enums
  input : t.kind = .input →
    Naming.typeClassName t.name ∈ s.inputs ∨ Naming.typeClassName t.name ∈ pending

/-- The later session remembers all that is registered in it, and all that the earlier does. -/
structure Retains (g : Setting) (s s' : Session) : Prop where
  remembers : s'.Remembers g
  enums : s.enums ⊆ s'.enums
  inputs : s.inputs ⊆ s'.inputs

theorem remembers_empty (g : Setting) : Remembers g {} := fun _ h => absurd h List.not_mem_nil

theorem IsRemembered.mono {x : Record} (h : IsRemembered g s x) (enums : s.enums ⊆ s'.enums)
    (inputs : s.inputs ⊆ s'.inputs) : IsRemembered g s' x := by
  cases h with
  | enum found kind name known => exact .enum found kind name (enums known)
  | input found kind name known => exact .input found kind name (inputs known)

theorem IsRemembered.name_eq {x : Record} (h : IsRemembered g s x) :
    x.name = Naming.typeClassName x.graphqlType := by
  cases h with
  | enum _ _ name _ | input _ _ name _ => exact name

theorem Session.Knows.of_retains (h : s.Knows pending t) (retains : Retains g s s') :
    s'.Knows pending t where
  enum := fun kind => retains.enums (h.enum kind)
  input := fun kind => (h.input kind).imp_left fun known => retains.inputs known

theorem Retains.refl (h : s.Remembers g) : Retains g s s :=
  ⟨h, List.Subset.refl _, List.Subset.refl _⟩

theorem Retains.of_eq (h : s.Remembers g) (eq : s' = s) : Retains g s s' :=
  eq.symm ▸ .refl h

theorem Retains.trans {a b c : Session} (hab : Retains g a b) (hbc : Retains g b c) :
    Retains g a c :=
  ⟨hbc.remembers, List.Subset.trans hab.enums hbc.enums, List.Subset.trans hab.inputs hbc.inputs⟩

theorem Retains.of_sameClasses (h : s.Remembers g) (same : s.SameClasses s') : Retains g s s' := by
  have enums : s.enums ⊆ s'.enums := same.enums ▸ List.Subset.refl _
  have inputs : s.inputs ⊆ s'.inputs := same.inputs ▸ List.Subset.refl _
  exact ⟨fun x hx => (h x (same.registry ▸ hx)).mono enums inputs, enums, inputs⟩

/-- A class that is remembered is put last. -/
theorem Retains.append (h : s.Remembers g) {x : Record}
    (records : s'.registry.records = s.registry.records ++ [x]) (enums : s.enums ⊆ s'.enums)
    (inputs : s.inputs ⊆ s'.inputs) (last : IsRemembered g s' x) : Retains g s s' := by
  refine ⟨fun y hy => ?_, enums, inputs⟩
  rcases List.mem_append.mp (records ▸ hy) with hy | hy
  · exact (h y hy).mono enums inputs
  · exact List.mem_singleton.mp hy ▸ last

/-- **No type has two classes**, if all that is registered is remembered. -/
theorem nodup_of_remembers (h : s.Remembers g) :
    (s.registry.records.map Record.graphqlType).Nodup := by
  have names : s.registry.records.map Record.name =
      (s.registry.records.map Record.graphqlType).map Naming.typeClassName := by
    rw [List.map_map]
    exact List.map_congr_left fun x hx => (h x hx).name_eq
  exact .of_map _ (names ▸ s.registry.distinct)

/-- A type that has its class registered is remembered. -/
theorem knows_of_hasClass (h : s.Remembers g) (found : g.schema.type? t.name = some t)
    (has : s.HasClass t) : s.Knows pending t := by
  obtain ⟨x, hx, name, type⟩ := has
  cases h x hx with
  | @enum e u foundE kind _ known =>
    have type : e.graphqlType = t.name := type
    rw [type] at foundE known
    cases found.symm.trans foundE
    exact ⟨fun _ => known, by simp [kind]⟩
  | @input i u foundI kind _ known =>
    have type : i.graphqlType = t.name := type
    have name : i.name = Naming.typeClassName t.name := name
    rw [type] at foundI
    cases found.symm.trans foundI
    exact ⟨by simp [kind], fun _ => Or.inl (name ▸ known)⟩

/-! ## Enums -/

/-- The class of an enum type is remembered with the type. -/
theorem retains_registerEnum (h : s.Remembers g) (found : g.schema.type? t.name = some t)
    (kind : t.kind = .enum) : (registerEnum t).Ends s
    (fun _ s' => Retains g s s' ∧ t.name ∈ s'.enums) (Retains g s ·) := by
  unfold registerEnum
  refine ends_bind (ends_get ?_)
  split
  · next known => exact ends_pure ⟨.refl h, known⟩
  · refine ends_bind (ends_pure ?_)
    split
    · exact ends_throw (.refl h)
    · refine ends_bind ((ends_register _).imp ?_ fun s₁ eq => .of_eq h eq)
      rintro - s₁ ⟨-, records, same⟩
      have last : t.name ∈ s₁.enums ++ [t.name] := List.mem_append_right _ List.mem_cons_self
      refine ends_modify ⟨.append h records ?_ ?_ (.enum found kind rfl last), last⟩
      · exact same.enums ▸ List.subset_append_left _ _
      · exact same.inputs ▸ List.Subset.refl _

/-! ## Input types -/

mutual

/-- **The class of an input type is remembered**, or being gone through. -/
theorem retains_inputClass {s : Session} {pending : List String} (h : s.Remembers g)
    {t : TypeDefinition} (ht : t ∈ g.schema.types) (found : g.schema.type? t.name = some t)
    (kind : t.kind = .input) : (inputClass g pending t ht).Ends s
    (fun name s' => Retains g s s' ∧ name = Naming.typeClassName t.name ∧
      (name ∈ s'.inputs ∨ name ∈ pending)) (Retains g s ·) := by
  rw [inputClass]
  dsimp only
  split
  · next waits => exact ends_pure ⟨.refl h, rfl, Or.inr waits⟩
  · next new =>
    refine ends_bind (ends_get ?_)
    split
    · next known => exact ends_pure ⟨.refl h, rfl, Or.inl known⟩
    · have := unvisited_lt ht new
      refine ends_bind ((retains_inputParametersOf h _ _).imp ?_ fun _ h => h)
      intro arguments s₁ first
      -- If the name of the class is taken, what its fields needed is registered all the same.
      refine ends_bind ((ends_register _).imp ?_ fun s₂ eq => eq ▸ first)
      rintro - s₂ ⟨-, records, same⟩
      have last : Naming.typeClassName t.name ∈ s₂.inputs ++ [Naming.typeClassName t.name] :=
        List.mem_append_right _ List.mem_cons_self
      refine ends_bind (ends_modify (ends_pure ⟨first.trans (.append first.remembers records ?_ ?_
        (.input found kind rfl last)), rfl, Or.inl last⟩))
      · exact same.enums ▸ List.Subset.refl _
      · exact same.inputs ▸ List.subset_append_left _ _
termination_by (unvisited g.schema pending, 0)
decreasing_by
  exact Prod.Lex.left _ _ this

theorem retains_inputParametersOf {s : Session} {pending : List String} (h : s.Remembers g)
    (owner : String) (fields : List InputValue) :
    (inputParametersOf g pending owner fields).Ends s (fun _ => Retains g s) (Retains g s ·) := by
  cases fields with
  | nil =>
    rw [inputParametersOf]
    exact ends_pure (.refl h)
  | cons field rest =>
    rw [inputParametersOf]
    refine ends_bind ((retains_parameter h _ _ _ _).imp ?_ fun _ h => h)
    rintro p s₁ ⟨first, -⟩
    refine ends_bind ((retains_inputParametersOf first.remembers _ rest).imp ?_ ?_)
    · exact fun ps s₂ next => ends_pure (first.trans next)
    · exact fun s₂ next => first.trans next
termination_by (unvisited g.schema pending, fields.length + 2)

/-- A parameter is that of its type, which is remembered then. -/
theorem retains_parameter {s : Session} {pending : List String} (h : s.Remembers g)
    (owner : String) (reserved : List String) (name : String) (type : TypeRef) :
    (parameter g pending owner reserved name type).Ends s
    (fun p s' => Retains g s s' ∧ parameterName name ∉ reserved ∧
      parameterFor g pending name type = .ok p ∧
      ∀ t, g.schema.type? type.bareName = some t → s'.Knows pending t) (Retains g s ·) := by
  rw [parameter]
  dsimp only
  split
  · exact ends_bind (ends_throw (.refl h))
  · next free =>
    split
    · next t found =>
      refine ends_bind ((retains_inputOf h _ (type?_name found)).imp ?_ fun _ h => h)
      rintro c s' ⟨retains, sent, knows⟩
      refine ends_pure ⟨retains, free, parameterFor_eq found sent, fun u found' => ?_⟩
      cases found.symm.trans found'
      exact knows
    · exact ends_throw (.refl h)
termination_by (unvisited g.schema pending, 2)

/-- Values of a type are sent by a class that is remembered then. -/
theorem retains_inputOf {s : Session} {pending : List String} (h : s.Remembers g)
    {t : TypeDefinition} (ht : t ∈ g.schema.types) (found : g.schema.type? t.name = some t) :
    (inputOf g pending t ht).Ends s
    (fun c s' => Retains g s s' ∧ sentAs g t = .ok c ∧ s'.Knows pending t) (Retains g s ·) := by
  rw [inputOf]
  split
  · next kind =>
    refine (ends_scalarInput_run g t.name).imp ?_ fun s' failed => .of_eq h failed.1
    rintro c s' ⟨sent, same⟩
    exact ⟨.of_sameClasses h same, by rw [sentAs_of_scalar kind, sent], by simp [kind],
      by simp [kind]⟩
  · next kind =>
    refine ends_bind (ends_enumClass_run ((retains_registerEnum h found kind).imp ?_ fun _ h => h))
    rintro - s' ⟨retains, known⟩
    exact ends_pure ⟨retains, sentAs_of_class (Or.inl kind), fun _ => known, by simp [kind]⟩
  · next kind =>
    refine ends_bind ((retains_inputClass h ht found kind).imp ?_ fun _ h => h)
    rintro name s' ⟨retains, rfl, known⟩
    exact ends_pure ⟨retains, sentAs_of_class (Or.inr kind), by simp [kind], fun _ => known⟩
  · exact ends_throw (.refl h)
termination_by (unvisited g.schema pending, 1)

end

/-! ## Calls -/

/-- What a call is answered. -/
inductive Reply
  | conversion (c : Conversion)
  | parameter (p : Parameter)

/-- Answer a call while classes are being gone through. -/
def Call.reply (g : Setting) (pending : List String) : Call → Run Reply
  | .output type => withType g.schema type fun t _ => do return .conversion (← (outputOf g t).run)
  | .input type => withType g.schema type fun t ht => do
    return .conversion (← inputOf g pending t ht)
  | .parameter owner reserved name type => do
    return .parameter (← Generation.parameter g pending owner reserved name type)

/-- The name of the type that a call is about. -/
def Call.typeName : Call → String
  | .output type | .input type => type
  | .parameter _ _ _ type => type.bareName

/-- The parameter of a variable or input field, if its name is not one of the given. -/
def freeParameter (g : Setting) (pending : List String) (owner : String) (reserved : List String)
    (name : String) (type : TypeRef) : Except GenerationError Parameter :=
  if parameterName name ∈ reserved then .error (.reservedName (parameterName name) owner)
  else parameterFor g pending name type

/-- The answer to a call, which does not depend on what is registered if the type is remembered. -/
def Call.replyOf (g : Setting) : Call → Except GenerationError Reply
  | .output type => do return .conversion (← (outputOf g (← typeNamed g.schema type)).result)
  | .input type => do return .conversion (← sentAs g (← typeNamed g.schema type))
  | .parameter owner reserved name type => do
    return .parameter (← freeParameter g [] owner reserved name type)

/-- A call registers the same whether its answer is used or not. -/
theorem outcome_run_call (g : Setting) (c : Call) (s : Session) :
    ((c.run g).outcome s).2 = ((c.reply g []).outcome s).2 := by
  cases c with
  | output type =>
    unfold Call.run Call.reply withType
    dsimp only
    split
    · rw [outcome_bind, outcome_bind]
      split <;> rfl
    · rfl
  | input type =>
    unfold Call.run Call.reply inputOfName withType
    dsimp only
    split
    · rw [outcome_bind, outcome_bind]
      split <;> rfl
    · rfl
  | parameter owner reserved name type =>
    unfold Call.run Call.reply
    rw [outcome_bind, outcome_bind]
    split <;> rfl

/-! ## Nothing is registered again -/

/-- From the session, the run has the result, and registers nothing. -/
def Run.Answers (x : Run α) (s : Session) (result : Except GenerationError α) : Prop :=
  ∃ s', x.outcome s = (result, s') ∧ s.SameClasses s'

section

variable {x : Run α} {result : Except GenerationError α}

theorem answers_of_eq (h : x.outcome s = (result, s)) : x.Answers s result :=
  ⟨s, h, rfl, rfl, rfl⟩

theorem Run.Answers.ends (h : x.Answers s result) :
    x.Ends s (fun a s' => result = .ok a ∧ s.SameClasses s') (s.SameClasses ·) := by
  obtain ⟨s', outcome, same⟩ := h
  unfold Ends
  rw [outcome]
  cases result with
  | error e => exact same
  | ok a => exact ⟨rfl, same⟩

theorem Run.Answers.map (h : x.Answers s result) (f : α → β) :
    (do return f (← x)).Answers s (do return f (← result)) := by
  obtain ⟨s', outcome, same⟩ := h
  refine ⟨s', ?_, same⟩
  rw [outcome_bind, outcome]
  cases result <;> rfl

end

/-- Doing the step registers nothing. -/
inductive Session.KnowsStep (s : Session) : Step → Prop
  | enum {t : TypeDefinition} (known : t.name ∈ s.enums) : KnowsStep s (.enum t)
  | converter {scalar path : String} {imports : List String} :
    KnowsStep s (.converter scalar path imports)

theorem answers_step {step : Step} (h : s.KnowsStep step) : step.run.Answers s (.ok ()) := by
  cases h with
  | @enum t known =>
    refine answers_of_eq ?_
    unfold Step.run registerEnum
    rw [outcome_bind, show (get : Run Session).outcome s = (.ok s, s) from rfl]
    dsimp only
    rw [if_pos known]
    rfl
  | converter => exact ⟨_, rfl, rfl, rfl, rfl⟩

theorem answers_steps {steps : List Step} (h : ∀ step ∈ steps, s.KnowsStep step) :
    (steps.forM Step.run).Answers s (.ok ()) := by
  induction steps generalizing s with
  | nil => exact answers_of_eq rfl
  | cons step rest ih =>
    obtain ⟨one, others⟩ := List.forall_mem_cons.mp h
    obtain ⟨s₁, outcome, same⟩ := answers_step one
    have known : ∀ next ∈ rest, s₁.KnowsStep next := by
      intro next mem
      cases others next mem with
      | enum known => exact .enum (same.enums ▸ known)
      | converter => exact .converter
    obtain ⟨s₂, outcome', same'⟩ := ih known
    refine ⟨s₂, ?_, same'.registry.trans same.registry, same'.enums.trans same.enums,
      same'.inputs.trans same.inputs⟩
    have both : (step.run >>= fun _ => rest.forM Step.run).outcome s = (.ok (), s₂) := by
      rw [outcome_bind, outcome]
      exact outcome'
    exact both

/-- A plan is done, with nothing registered, if its steps register nothing. -/
theorem answers_plan {p : Plan α} (h : ∀ step ∈ p.steps, s.KnowsStep step) :
    p.run.Answers s p.result := by
  obtain ⟨s', outcome, same⟩ := answers_steps h
  refine ⟨s', ?_, same⟩
  unfold Plan.run
  rw [outcome_bind, outcome]
  cases p.result <;> rfl

theorem answers_scalarInput (g : Setting) (scalar : String) (s : Session) :
    (scalarInput g scalar).run.Answers s (scalarInput g scalar).result := by
  refine answers_plan fun step mem => ?_
  unfold scalarInput convertedBy at mem
  split at mem
  · split at mem
    · cases mem
    · cases List.mem_singleton.mp mem
      exact .converter
  · cases mem

theorem answers_outputOf (known : t.kind = .enum → t.name ∈ s.enums) :
    (outputOf g t).run.Answers s (outputOf g t).result := by
  refine answers_plan fun step mem => ?_
  rcases mem_steps_outputOf mem with ⟨path, imports, rfl⟩ | ⟨kind, rfl⟩
  · exact .converter
  · exact .enum (known kind)

/-- The class of an input type is not registered again. -/
theorem answers_inputClass (known : Naming.typeClassName t.name ∈ s.inputs ∨
    Naming.typeClassName t.name ∈ pending) (ht : t ∈ g.schema.types) :
    (inputClass g pending t ht).Answers s (.ok (Naming.typeClassName t.name)) := by
  refine answers_of_eq ?_
  rw [inputClass]
  dsimp only
  split
  · rfl
  · next new =>
    rw [outcome_bind, show (get : Run Session).outcome s = (.ok s, s) from rfl]
    dsimp only
    rw [if_pos (known.resolve_right new)]
    rfl

theorem answers_inputOf (knows : s.Knows pending t) (ht : t ∈ g.schema.types) :
    (inputOf g pending t ht).Answers s (sentAs g t) := by
  rw [inputOf]
  unfold sentAs
  cases kind : t.kind with
  | scalar => exact answers_scalarInput g _ s
  | enum =>
    have done : (enumClass t).run.Answers s (enumClass t).result := answers_plan fun step mem => by
      cases List.mem_singleton.mp mem
      exact .enum (knows.enum kind)
    exact done.map sentByClass
  | input => exact (answers_inputClass (knows.input kind) ht).map sentByClass
  | object | interface | union => exact answers_of_eq rfl

/-- Something is done with the type of a name, if there is one. -/
theorem answers_withType {name : String} {use : (t : TypeDefinition) → t ∈ g.schema.types → Run α}
    {result : TypeDefinition → Except GenerationError α}
    (h : ∀ t ht, g.schema.type? name = some t → (use t ht).Answers s (result t)) :
    (withType g.schema name use).Answers s (do result (← typeNamed g.schema name)) := by
  unfold withType
  split
  · next t found =>
    rw [typeNamed_of_type? found]
    exact h t _ found
  · next none =>
    have unnamed : typeNamed g.schema name = .error (.unknownType name) := by
      unfold typeNamed
      rw [none]
    rw [unnamed]
    exact answers_of_eq rfl

theorem parameter_eq (g : Setting) (pending : List String) (owner : String)
    (reserved : List String) (name : String) (type : TypeRef) :
    parameter g pending owner reserved name type =
      if parameterName name ∈ reserved then throw (.reservedName (parameterName name) owner)
      else withType g.schema type.bareName fun t ht => do
        return parameterOf pending (parameterName name) name type (← inputOf g pending t ht) := by
  rw [parameter]
  rfl

theorem answers_parameter {type : TypeRef}
    (knows : ∀ t, g.schema.type? type.bareName = some t → s.Knows pending t) (owner : String)
    (reserved : List String) (name : String) :
    (parameter g pending owner reserved name type).Answers s
      (freeParameter g pending owner reserved name type) := by
  rw [parameter_eq]
  unfold freeParameter
  split
  · exact answers_of_eq rfl
  · exact answers_withType fun t ht found => (answers_inputOf (knows t found) ht).map _

/-- **A call for a type that is remembered registers nothing**, and is answered as if nothing had
been asked before. -/
theorem answers_reply (c : Call)
    (knows : ∀ t, g.schema.type? c.typeName = some t → s.Knows [] t) :
    (c.reply g []).Answers s (c.replyOf g) := by
  cases c with
  | output type =>
    exact answers_withType fun t ht found =>
      (answers_outputOf (knows t found).enum).map Reply.conversion
  | input type =>
    exact answers_withType fun t ht found =>
      (answers_inputOf (knows t found) ht).map Reply.conversion
  | parameter owner reserved name type =>
    exact (answers_parameter knows owner reserved name).map Reply.parameter

/-! ## After calls -/

theorem retains_outputOf (h : s.Remembers g) (found : g.schema.type? t.name = some t) :
    (outputOf g t).run.Ends s (fun c s' => Retains g s s' ∧ (outputOf g t).result = .ok c ∧
      s'.Knows [] t) (Retains g s ·) := by
  by_cases kind : t.kind = .enum
  · unfold outputOf
    rw [kind]
    refine ends_bind (ends_bind ((retains_registerEnum h found kind).imp ?_ fun _ h => h))
    rintro - s' ⟨retains, known⟩
    exact ends_pure ⟨retains, rfl, fun _ => known, by simp [kind]⟩
  · have answers : (outputOf g t).run.Answers s _ := answers_outputOf fun enum => absurd enum kind
    refine answers.ends.imp ?_ fun s' same => .of_sameClasses h same
    rintro c s' ⟨result, same⟩
    have scalar : t.kind = .scalar := by
      rcases outputOf_eq_ok result with ⟨scalar, -⟩ | ⟨enum, -⟩
      · exact scalar
      · exact absurd enum kind
    exact ⟨.of_sameClasses h same, result, by simp [scalar], by simp [scalar]⟩

theorem retains_withType (h : s.Remembers g) {name : String}
    {use : (t : TypeDefinition) → t ∈ g.schema.types → Run Conversion}
    {result : TypeDefinition → Except GenerationError Conversion}
    (each : ∀ t ht, g.schema.type? t.name = some t → (use t ht).Ends s
      (fun c s' => Retains g s s' ∧ result t = .ok c ∧ s'.Knows [] t) (Retains g s ·)) :
    (withType g.schema name fun t ht => do return Reply.conversion (← use t ht)).Ends s
    (fun a s' => Retains g s s' ∧
      (do return .conversion (← result (← typeNamed g.schema name))) = Except.ok a ∧
      ∀ t, g.schema.type? name = some t → s'.Knows [] t) (Retains g s ·) := by
  unfold withType
  split
  · next t found =>
    refine ends_bind ((each t _ (type?_name found)).imp ?_ fun _ h => h)
    rintro c s' ⟨retains, ok, knows⟩
    refine ends_pure ⟨retains, ?_, fun u found' => ?_⟩
    · exact except_bind_eq_ok_iff.mpr ⟨t, typeNamed_of_type? found,
        except_bind_eq_ok_iff.mpr ⟨c, ok, rfl⟩⟩
    · cases found.symm.trans found'
      exact knows
  · exact ends_throw (.refl h)

/-- **What a call has registered is remembered**, also if it fails. If it does not, it is answered
as if nothing had been asked before, and its type is remembered. -/
theorem retains_reply (h : s.Remembers g) (c : Call) : (c.reply g []).Ends s
    (fun a s' => Retains g s s' ∧ c.replyOf g = .ok a ∧
      ∀ t, g.schema.type? c.typeName = some t → s'.Knows [] t) (Retains g s ·) := by
  cases c with
  | output type => exact retains_withType h fun t ht found => retains_outputOf h found
  | input type => exact retains_withType h fun t ht found => retains_inputOf h ht found
  | parameter owner reserved name type =>
    refine ends_bind ((retains_parameter h owner reserved name type).imp ?_ fun _ h => h)
    rintro p s' ⟨retains, free, ok, knows⟩
    refine ends_pure ⟨retains, except_bind_eq_ok_iff.mpr ⟨p, ?_, rfl⟩, knows⟩
    unfold freeParameter
    rw [if_neg free]
    exact ok

theorem retains_calls (h : s.Remembers g) (calls : List Call) :
    Retains g s (calls.foldl (fun s c => ((c.run g).outcome s).2) s) := by
  induction calls generalizing s with
  | nil => exact .refl h
  | cons c rest ih =>
    have first : Retains g s ((c.run g).outcome s).2 := by
      rw [outcome_run_call]
      exact ((retains_reply h c).imp (fun _ _ done => done.1) fun _ failed => failed).state
    exact first.trans (ih first.remembers)

theorem remembers_answered (g : Setting) (calls : List Call) : (answered g calls).Remembers g :=
  (retains_calls (remembers_empty g) calls).remembers

/-- Nothing is forgotten by further calls. -/
theorem retains_answered (g : Setting) (calls more : List Call) :
    Retains g (answered g calls) (answered g (calls ++ more)) := by
  unfold answered
  rw [List.foldl_append]
  exact retains_calls (remembers_answered g calls) more

/-- The session after calls and one more. -/
theorem answered_concat (g : Setting) (calls : List Call) (c : Call) :
    answered g (calls ++ [c]) = ((c.reply g []).outcome (answered g calls)).2 := by
  unfold answered
  rw [List.foldl_concat, outcome_run_call]

end QueryShape.Generation
