import QueryShape.Proofs.Generation.Remembered

/-!
# Classes that are being gone through

A resolver knows what has been registered, and which classes of input types it is going through. A
class is one of those from before its fields are looked at until after that, also if a field fails,
and a field that leads back to one of them does not wait for it.

`Call.resolve` keeps that list as it goes on and does not look for an end of its own: it gives up
where more classes than the limit are inside each other.

* `endsAs_inputClassWithin` and the theorems next to it: with a limit of more than the number of
  types, it ends as `inputClass` does, and the list is what it was.
* `resolve_ends`: so each call ends, whatever input types refer to each other, no type gets two
  classes, and what has been resolved is not registered again.
-/

namespace QueryShape.Generation

open Document Record Run Session

variable {α β : Type} {g : Setting}

/-! ## Resolvers -/

/-- The state of a resolver. -/
structure Resolver where
  session : Session := {}
  /-- The classes of input types that are being gone through. -/
  pending : List String := []

/-- A computation on the state of a resolver that may fail, and may be given up. -/
abbrev Resolving := ExceptT GenerationError (StateT Resolver Option)

/-- What a computation ends with, if it is not given up. -/
def Resolving.outcome (x : Resolving α) (r : Resolver) :
    Option (Except GenerationError α × Resolver) := x.run.run r

/-- A run on the session. -/
def onSession (x : Run α) : Resolving α := .mk fun r =>
  some ((x.outcome r.session).1, { r with session := (x.outcome r.session).2 })

/-- Give up. -/
def giveUp : Resolving α := .mk fun _ => none

/-- Do something while a class is being gone through, which it no longer is after that, whatever
comes of it. -/
def goingThrough (name : String) (x : Resolving α) : Resolving α := .mk fun r =>
  (x.outcome { r with pending := name :: r.pending }).map fun (result, after) =>
    (result, { after with pending := after.pending.erase name })

/-- The type of a name. -/
def namedType (s : Schema) (name : String) : Resolving TypeDefinition :=
  match s.type? name with
  | some t => return t
  | none => throw (.unknownType name)

section

variable (classOf : TypeDefinition → Resolving String) (g : Setting)

/-- How the values of a type are sent, if classes are gone through as given. -/
def inputBy (t : TypeDefinition) : Resolving Conversion := do
  match t.kind with
  | .scalar => onSession (scalarInput g t.name).run
  | .enum => return sentByClass (← onSession (enumClass t).run)
  | .input => return sentByClass (← classOf t)
  | _ => throw (misplaced t "an input value")

/-- The parameter of a variable or input field. -/
def parameterBy (owner : String) (reserved : List String) (graphqlName : String) (type : TypeRef) :
    Resolving Parameter := do
  let name := parameterName graphqlName
  if name ∈ reserved then throw (.reservedName name owner)
  let t ← namedType g.schema type.bareName
  let c ← inputBy classOf g t
  return parameterOf (← get).pending name graphqlName type c

/-- Register the class of an input type, unless it is registered or being gone through. -/
def classBy (t : TypeDefinition) : Resolving String := do
  let name := Naming.typeClassName t.name
  let r ← get
  if name ∈ r.session.inputs ∨ name ∈ r.pending then return name
  let arguments ← goingThrough name <| t.inputFields.mapM fun field =>
    parameterBy classOf g name inputParameters field.name field.type
  onSession do
    register (.input
      { name, graphqlType := t.name, arguments
        dependencies := .ofList (arguments.filterMap (·.dependency?)) })
    modify fun s => { s with inputs := s.inputs ++ [name] }
  return name

end

/-- Register the class of an input type, if no more classes than the limit are inside each other. -/
def inputClassWithin (g : Setting) : (limit : Nat) → TypeDefinition → Resolving String
  | 0 => fun _ => giveUp
  | limit + 1 => classBy (inputClassWithin g limit) g

/-- Answer a call, if no more classes than the limit are inside each other. -/
def Call.resolve (g : Setting) (limit : Nat) : Call → Resolving Reply
  | .output type => do
    let t ← namedType g.schema type
    return .conversion (← onSession (outputOf g t).run)
  | .input type => do
    let t ← namedType g.schema type
    return .conversion (← inputBy (inputClassWithin g limit) g t)
  | .parameter owner reserved name type => do
    return .parameter (← parameterBy (inputClassWithin g limit) g owner reserved name type)

/-- The resolver after calls, whatever comes of each, if none is given up. -/
def resolved (g : Setting) (limit : Nat) (calls : List Call) : Option Resolver :=
  calls.foldlM (fun r c => ((c.resolve g limit).outcome r).map (·.2)) {}

/-! ## The way to the end -/

/-- From the resolver, the computation ends as the run does on the session, and the classes that are
being gone through are the same after it. -/
def EndsAs (x : Resolving α) (r : Resolver) (y : Run α) : Prop :=
  x.outcome r =
    some ((y.outcome r.session).1, { r with session := (y.outcome r.session).2 })

variable {r : Resolver}

theorem endsAs_pure (a : α) : EndsAs (pure a) r (pure a) := rfl

theorem endsAs_throw (e : GenerationError) : EndsAs (throw e : Resolving α) r (throw e) := rfl

theorem endsAs_throw_bind (e : GenerationError) (next : α → Resolving β) :
    EndsAs (throw e >>= next) r (throw e) := rfl

theorem endsAs_onSession (x : Run α) : EndsAs (onSession x) r x := rfl

theorem EndsAs.bind {x : Resolving α} {y : Run α} {next : α → Resolving β} {next' : α → Run β}
    (h : EndsAs x r y) (rest : ∀ a s, EndsAs (next a) { r with session := s } (next' a)) :
    EndsAs (x >>= next) r (y >>= next') := by
  have step : (x >>= next).outcome r =
      (x.outcome r).bind fun p => (ExceptT.bindCont next p.1).run p.2 := rfl
  unfold EndsAs at *
  rw [step, h, Run.outcome_bind]
  rcases y.outcome r.session with ⟨e | a, s⟩
  · rfl
  · exact rest a s

/-- Doing something for all items goes as doing it for each. -/
theorem endsAs_mapM {f : α → Resolving β} {f' : α → Run β}
    (h : ∀ a s, EndsAs (f a) { r with session := s } (f' a)) (items : List α) :
    EndsAs (items.mapM f) r (items.mapM f') := by
  induction items generalizing r with
  | nil => exact endsAs_pure []
  | cons a rest ih =>
    rw [List.mapM_cons, List.mapM_cons]
    refine (h a r.session).bind fun b s => ?_
    exact EndsAs.bind (r := { r with session := s }) (ih h) fun bs _ => endsAs_pure _

theorem endsAs_goingThrough {x : Resolving α} {y : Run α} (name : String)
    (h : EndsAs x { r with pending := name :: r.pending } y) :
    EndsAs (goingThrough name x) r y := by
  have step : (goingThrough name x).outcome r =
      (x.outcome { r with pending := name :: r.pending }).map fun p =>
        (p.1, { p.2 with pending := p.2.pending.erase name }) := rfl
  unfold EndsAs at *
  rw [step, h, Option.map_some, List.erase_cons_head]

theorem endsAs_get_left {next : Resolver → Resolving α} {y : Run α} (h : EndsAs (next r) r y) :
    EndsAs (get >>= next) r y := h

theorem endsAs_get_right {x : Resolving α} {next : Session → Run α}
    (h : EndsAs x r (next r.session)) : EndsAs x r (get >>= next) := h

section

variable {classOf : TypeDefinition → Resolving String}

theorem endsAs_withType {name : String} {use : TypeDefinition → Resolving α}
    {use' : (t : TypeDefinition) → t ∈ g.schema.types → Run α}
    (h : ∀ t ht, EndsAs (use t) r (use' t ht)) :
    EndsAs (namedType g.schema name >>= use) r (withType g.schema name use') := by
  unfold namedType withType
  split
  · next t found =>
    split
    · next t' found' =>
      cases found.symm.trans found'
      exact h t _
    · next none => cases found.symm.trans none
  · next none =>
    split
    · next t found => cases none.symm.trans found
    · exact endsAs_throw_bind _ _

/-- While the given classes are being gone through, others are as they are in a run. -/
def GoesAlong (classOf : TypeDefinition → Resolving String) (g : Setting) (pending : List String) :
    Prop :=
  ∀ t (ht : t ∈ g.schema.types) session,
    EndsAs (classOf t) { session, pending } (inputClass g pending t ht)

theorem endsAs_inputBy (h : GoesAlong classOf g r.pending) {t : TypeDefinition}
    (ht : t ∈ g.schema.types) : EndsAs (inputBy classOf g t) r (inputOf g r.pending t ht) := by
  have ofClass := h t ht r.session
  unfold inputBy
  rw [inputOf]
  cases t.kind with
  | scalar => exact endsAs_onSession _
  | enum => exact (endsAs_onSession _).bind fun name s => endsAs_pure _
  | input => exact ofClass.bind fun name s => endsAs_pure _
  | object | interface | union => exact endsAs_throw _

theorem endsAs_parameterBy (h : GoesAlong classOf g r.pending) (owner : String)
    (reserved : List String) (name : String) (type : TypeRef) :
    EndsAs (parameterBy classOf g owner reserved name type) r
      (parameter g r.pending owner reserved name type) := by
  unfold parameterBy
  rw [parameter_eq]
  dsimp only
  split
  · exact endsAs_throw_bind _ _
  · exact endsAs_withType fun t ht => (endsAs_inputBy h ht).bind fun c s => rfl

/-- The parameters of the fields of an input type are those of each field, in order. -/
theorem inputParametersOf_eq (g : Setting) (pending : List String) (owner : String)
    (fields : List InputValue) : inputParametersOf g pending owner fields =
      fields.mapM fun field => parameter g pending owner inputParameters field.name field.type := by
  induction fields with
  | nil => rw [inputParametersOf, List.mapM_nil]
  | cons field rest ih => rw [inputParametersOf, List.mapM_cons, ih]

theorem endsAs_classBy {t : TypeDefinition} (ht : t ∈ g.schema.types)
    (h : Naming.typeClassName t.name ∉ r.pending →
      GoesAlong classOf g (Naming.typeClassName t.name :: r.pending)) :
    EndsAs (classBy classOf g t) r (inputClass g r.pending t ht) := by
  unfold classBy
  rw [inputClass]
  dsimp only
  refine endsAs_get_left ?_
  -- The run asks first what is being gone through and then what is registered, with one answer to
  -- both.
  by_cases waits : Naming.typeClassName t.name ∈ r.pending
  · rw [if_pos (Or.inr waits), dif_pos waits]
    exact endsAs_pure _
  · rw [dif_neg waits]
    refine endsAs_get_right ?_
    by_cases known : Naming.typeClassName t.name ∈ r.session.inputs
    · rw [if_pos (Or.inl known), if_pos known]
      exact endsAs_pure _
    · rw [if_neg (not_or.mpr ⟨known, waits⟩), if_neg known, inputParametersOf_eq]
      refine EndsAs.bind (endsAs_goingThrough _ (endsAs_mapM (fun field session => ?_) _))
        fun arguments s => ?_
      · exact endsAs_parameterBy (h waits) _ _ _ _
      · rw [← bind_assoc]
        exact (endsAs_onSession _).bind fun _ _ => endsAs_pure _

end

/-- **Going through classes ends**, if the limit is more than the number of types whose classes are
not being gone through. -/
theorem endsAs_inputClassWithin {limit : Nat} {pending : List String}
    (few : unvisited g.schema pending < limit) :
    GoesAlong (inputClassWithin g limit) g pending := by
  induction limit generalizing pending with
  | zero => exact absurd few (Nat.not_lt_zero _)
  | succ limit ih =>
    intro t ht session
    refine endsAs_classBy (r := { session, pending }) ht fun new => ih ?_
    exact Nat.lt_of_lt_of_le (unvisited_lt ht new) (Nat.le_of_lt_succ few)

theorem endsAs_resolve {limit : Nat} (few : unvisited g.schema r.pending < limit) (c : Call) :
    EndsAs (c.resolve g limit) r (c.reply g r.pending) := by
  have along := endsAs_inputClassWithin few
  cases c with
  | output type =>
    exact endsAs_withType fun t ht => (endsAs_onSession _).bind fun _ _ => endsAs_pure _
  | input type =>
    exact endsAs_withType fun t ht => (endsAs_inputBy along ht).bind fun _ _ => endsAs_pure _
  | parameter owner reserved name type =>
    exact (endsAs_parameterBy along owner reserved name type).bind fun _ _ => endsAs_pure _

/-! ## Calls -/

/-- What a call comes to is what it comes to without a limit. -/
theorem outcome_resolve {limit : Nat} (enough : g.schema.types.length < limit) (c : Call)
    (r : Resolver) : (c.resolve g limit).outcome r =
      some (((c.reply g r.pending).outcome r.session).1,
        { r with session := ((c.reply g r.pending).outcome r.session).2 }) :=
  endsAs_resolve (Nat.lt_of_le_of_lt List.countP_le_length enough) c

/-- No call is given up, and none leaves a class being gone through. -/
theorem resolved_eq {limit : Nat} (enough : g.schema.types.length < limit) (calls : List Call) :
    resolved g limit calls = some { session := answered g calls } := by
  induction calls using List.reverseRecOn with
  | nil => rfl
  | append_singleton calls c ih =>
    unfold resolved at ih ⊢
    rw [List.foldlM_append, ih, answered_concat]
    exact congrArg (fun ended => (Option.map (·.2) ended).bind some)
      (outcome_resolve enough c { session := answered g calls })

/-- The call is given the answer, and registers nothing. -/
def IsAnswered (g : Setting) (limit : Nat) (s : Session) (c : Call)
    (answer : Except GenerationError Reply) : Prop :=
  ∃ s', (c.resolve g limit).outcome { session := s } = some (answer, { session := s' }) ∧
    s.SameClasses s'

theorem isAnswered_of_knows {limit : Nat} (enough : g.schema.types.length < limit) {s : Session}
    {c : Call} (knows : ∀ t, g.schema.type? c.typeName = some t → s.Knows [] t) :
    IsAnswered g limit s c (c.replyOf g) := by
  obtain ⟨s', outcome, same⟩ := answers_reply c knows
  refine ⟨s', ?_, same⟩
  rw [outcome_resolve enough, outcome]

/-- **Resolving ends, and registers no type twice.** With a limit of more than the number of types,
no call is given up, and each leaves the classes that are being gone through as they were. So after
any calls none is, also if some have failed; no type has two classes; and a call for a type that has
one, or a call that has been answered before, is given the same answer and registers nothing. -/
theorem resolve_ends (g : Setting) {limit : Nat} (enough : g.schema.types.length < limit) :
    (∀ (c : Call) (r : Resolver), ∃ answer session,
      (c.resolve g limit).outcome r = some (answer, { r with session })) ∧
    ∀ calls, resolved g limit calls = some { session := answered g calls } ∧
      ((answered g calls).registry.records.map Record.graphqlType).Nodup ∧
      (∀ (c : Call) t, g.schema.type? c.typeName = some t → (answered g calls).HasClass t →
        IsAnswered g limit (answered g calls) c (c.replyOf g)) ∧
      ∀ (c : Call) reply r more,
        (c.resolve g limit).outcome { session := answered g calls } = some (.ok reply, r) →
        c.replyOf g = .ok reply ∧
          IsAnswered g limit (answered g (calls ++ c :: more)) c (.ok reply) := by
  refine ⟨fun c r => ⟨_, _, outcome_resolve enough c r⟩, fun calls => ?_⟩
  have remembers := remembers_answered g calls
  refine ⟨resolved_eq enough calls, nodup_of_remembers remembers, fun c t found has => ?_,
    fun c reply r more first => ?_⟩
  · refine isAnswered_of_knows enough fun u found' => ?_
    cases found.symm.trans found'
    exact knows_of_hasClass remembers (type?_name found) has
  · rw [outcome_resolve enough] at first
    have ok : (c.reply g []).outcome (answered g calls) =
        (.ok reply, answered g (calls ++ [c])) := by
      rw [answered_concat]
      exact Prod.ext (congrArg (·.1) (Option.some.inj first)) rfl
    obtain ⟨-, same, knows⟩ := (retains_reply remembers c).of_ok ok
    have later := retains_answered g (calls ++ [c]) more
    rw [List.append_assoc] at later
    -- The type is remembered after the first answer, and is not forgotten by what comes between.
    exact ⟨same, same ▸ isAnswered_of_knows enough fun t found =>
      (knows t found).of_retains later⟩

/-- `A` fails on its way, `B` is registered, and is not registered again. -/
theorem resolve_ends_tangled : tangled.schema.types.length < 6 ∧
    resolved tangled 6 [.input "A"] = some { session := answered tangled [.input "A"] } ∧
    kindsAndTypes (answered tangled [.input "A"]) = [(.input, "B", "B")] ∧
    IsAnswered tangled 6 (answered tangled [.input "A"]) (.input "B")
      (.ok (.conversion (sentByClass "B"))) := by
  obtain ⟨-, calls⟩ := @resolve_ends tangled 6 (by decide)
  obtain ⟨eq, -, registered, -⟩ := calls [.input "A"]
  refine ⟨by decide, eq, kindsAndTypes_tangled, registered (.input "B") _ rfl ?_⟩
  exact hasClass_of_mem .input (by rw [kindsAndTypes_tangled]; decide)

end QueryShape.Generation
