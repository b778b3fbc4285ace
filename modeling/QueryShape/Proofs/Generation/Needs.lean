import QueryShape.Proofs.Generation.Session

/-!
# What inputs need

Whether values of a type can be sent, and how, does not depend on what has been registered. A
session is settled if all that its classes of inputs need can be sent and is registered, so that the
classes could be registered again.

* `sentAs`, `parameterFor`: how the values of a type are sent, and the parameter of a variable.
* `settles_inputClass` and the theorems next to it: resolving inputs keeps a session settled, adds
  classes of enum and input types only, and gives what `sentAs` and `parameterFor` give.
-/

namespace QueryShape

/-- The record is that of an operation or of what one selects. -/
def Record.isResult : Record → Bool
  | .root _ | .leaf _ => true
  | .input _ | .enum _ => false

namespace Generation

open Document Record Run Session

/-! ## Conversions -/

/-- How the values of a type are sent. -/
def sentAs (g : Setting) (t : TypeDefinition) : Except GenerationError Conversion :=
  match t.kind with
  | .scalar => (scalarInput g t.name).result
  | .enum | .input => .ok (sentByClass (Naming.typeClassName t.name))
  | _ => .error (misplaced t "an input value")

theorem sentAs_of_scalar {g : Setting} {t : TypeDefinition} (kind : t.kind = .scalar) :
    sentAs g t = (scalarInput g t.name).result := by
  unfold sentAs
  rw [kind]

theorem sentAs_of_class {g : Setting} {t : TypeDefinition}
    (kind : t.kind = .enum ∨ t.kind = .input) :
    sentAs g t = .ok (sentByClass (Naming.typeClassName t.name)) := by
  unfold sentAs
  rcases kind with kind | kind <;> rw [kind]

theorem kind_of_sentAs {g : Setting} {t : TypeDefinition} {c : Conversion}
    (h : sentAs g t = .ok c) : t.kind = .scalar ∨ t.kind = .enum ∨ t.kind = .input := by
  unfold sentAs at h
  split at h
  · next kind => exact Or.inl kind
  · next kind => exact Or.inr (Or.inl kind)
  · next kind => exact Or.inr (Or.inr kind)
  · cases h

/-- The parameter of a variable or input field. -/
def parameterFor (g : Setting) (pending : List String) (name : String) (type : TypeRef) :
    Except GenerationError Parameter := do
  let t ← typeNamed g.schema type.bareName
  return parameterOf pending (parameterName name) name type (← sentAs g t)

theorem parameterFor_eq {g : Setting} {pending : List String} {name : String} {type : TypeRef}
    {t : TypeDefinition} {c : Conversion} (found : g.schema.type? type.bareName = some t)
    (sent : sentAs g t = .ok c) : parameterFor g pending name type =
      .ok (parameterOf pending (parameterName name) name type c) := by
  unfold parameterFor typeNamed
  rw [found]
  exact except_bind_eq_ok_iff.mpr ⟨t, rfl, except_bind_eq_ok_iff.mpr ⟨c, sent, rfl⟩⟩

/-! ## Adding other classes -/

namespace Session

/-- The later session has the classes of enum and input types that the earlier has. -/
def KeepsOthers (s s' : Session) : Prop :=
  ∀ x ∈ s.registry.records, x.isResult = false → x ∈ s'.registry.records

/-- The later session has more classes of enum and input types, and no other classes. -/
def AddsOthers (s s' : Session) : Prop :=
  ∃ more, s'.registry.records = s.registry.records ++ more ∧ more.filter Record.isResult = []

variable {s s' : Session}

theorem AddsOthers.of_eq (h : s'.registry = s.registry) : s.AddsOthers s' :=
  ⟨[], by rw [h, List.append_nil], rfl⟩

theorem AddsOthers.of_append {x : Record} (h : s'.registry.records = s.registry.records ++ [x])
    (other : x.isResult = false) : s.AddsOthers s' :=
  ⟨[x], h, List.filter_cons_of_neg (by simp [other])⟩

theorem AddsOthers.trans {a b c : Session} (hab : a.AddsOthers b) (hbc : b.AddsOthers c) :
    a.AddsOthers c := by
  obtain ⟨first, eq, none⟩ := hab
  obtain ⟨second, eq', none'⟩ := hbc
  refine ⟨first ++ second, by rw [eq', eq, List.append_assoc], ?_⟩
  rw [List.filter_append, none, none']
  rfl

theorem AddsOthers.subset (h : s.AddsOthers s') : s.registry.records ⊆ s'.registry.records := by
  obtain ⟨more, eq, -⟩ := h
  exact eq ▸ List.subset_append_left _ _

theorem AddsOthers.keeps (h : s.AddsOthers s') : s.KeepsOthers s' := fun _ hx _ => h.subset hx

theorem HasEnum.of_keeps {type : String} (h : s.HasEnum type) (keeps : s.KeepsOthers s') :
    s'.HasEnum type := by
  obtain ⟨e, he, rest⟩ := h
  exact ⟨e, keeps _ he rfl, rest⟩

theorem HasInput.of_keeps {name : String} (h : s.HasInput name) (keeps : s.KeepsOthers s') :
    s'.HasInput name := by
  obtain ⟨i, hi, rest⟩ := h
  exact ⟨i, keeps _ hi rfl, rest⟩

/-- The class of the type is registered, or being gone through, if values are sent by one. -/
structure Sends (s : Session) (pending : List String) (t : TypeDefinition) : Prop where
  enum : t.kind = .enum → s.HasEnum t.name
  input : t.kind = .input →
    s.HasInput (Naming.typeClassName t.name) ∨ Naming.typeClassName t.name ∈ pending

theorem Sends.of_keeps {pending : List String} {t : TypeDefinition} (h : s.Sends pending t)
    (keeps : s.KeepsOthers s') : s'.Sends pending t :=
  ⟨fun kind => (h.enum kind).of_keeps keeps, fun kind => (h.input kind).imp_left (·.of_keeps keeps)⟩

end Session

/-! ## Settled sessions -/

/-- A variable or input field can be sent by what is registered. -/
structure Sendable (g : Setting) (s : Session) (pending reserved : List String) (name : String)
    (type : TypeRef) : Prop where
  free : parameterName name ∉ reserved
  sent : ∃ t c, g.schema.type? type.bareName = some t ∧ sentAs g t = .ok c ∧ s.Sends pending t

/-- What the session remembers is registered, and all that the classes of enum and input types need
is there, or being gone through. -/
structure Settled (g : Setting) (pending : List String) (s : Session) : Prop where
  knownEnums : ∀ type ∈ s.enums, s.HasEnum type
  knownInputs : ∀ name ∈ s.inputs, s.HasInput name
  enums : ∀ e, .enum e ∈ s.registry.records →
    ∃ t, g.schema.type? e.graphqlType = some t ∧ t.values.find? isReservedValue = none
  inputs : ∀ i, .input i ∈ s.registry.records →
    ∃ t, g.schema.type? i.graphqlType = some t ∧ t.kind = .input ∧
      i.name = Naming.typeClassName t.name ∧ ∀ field ∈ t.inputFields,
        Sendable g s pending inputParameters field.name field.type

variable {g : Setting} {s s' : Session} {pending : List String}

theorem settled_empty (g : Setting) : Settled g [] {} where
  knownEnums := fun _ h => absurd h List.not_mem_nil
  knownInputs := fun _ h => absurd h List.not_mem_nil
  enums := fun _ h => absurd h List.not_mem_nil
  inputs := fun _ h => absurd h List.not_mem_nil

theorem Sendable.imp {pending' reserved : List String} {name : String} {type : TypeRef}
    (h : Sendable g s pending reserved name type)
    (sends : ∀ t, s.Sends pending t → s'.Sends pending' t) :
    Sendable g s' pending' reserved name type where
  free := h.free
  sent := by
    obtain ⟨t, c, found, sent, here⟩ := h.sent
    exact ⟨t, c, found, sent, sends t here⟩

/-- A session with the same classes of enum and input types is settled as well. -/
theorem Settled.of_same (h : Settled g pending s) (keeps : s.KeepsOthers s')
    (same : s'.KeepsOthers s) (enums : s'.enums = s.enums) (inputs : s'.inputs = s.inputs) :
    Settled g pending s' where
  knownEnums := fun type ht => (h.knownEnums type (enums ▸ ht)).of_keeps keeps
  knownInputs := fun name hn => (h.knownInputs name (inputs ▸ hn)).of_keeps keeps
  enums := fun e he => h.enums e (same _ he rfl)
  inputs := fun i hi => by
    obtain ⟨t, found, kind, name, fields⟩ := h.inputs i (same _ hi rfl)
    exact ⟨t, found, kind, name, fun field hf => (fields field hf).imp fun _ => (·.of_keeps keeps)⟩

/-- A settled session stays so when the class of an input type is gone through. -/
theorem Settled.of_pending (h : Settled g pending s) (name : String) :
    Settled g (name :: pending) s where
  knownEnums := h.knownEnums
  knownInputs := h.knownInputs
  enums := h.enums
  inputs := fun i hi => by
    obtain ⟨t, found, kind, eq, fields⟩ := h.inputs i hi
    refine ⟨t, found, kind, eq, fun field hf => (fields field hf).imp fun _ sends =>
      ⟨sends.enum, fun kind => (sends.input kind).imp_right (List.mem_cons_of_mem _)⟩⟩

/-- A settled session stays so with a class that fits, whatever waits for that class. -/
theorem Settled.append {all : List String} {x : Record} (h : Settled g all s)
    (eq : s'.registry.records = s.registry.records ++ [x])
    (sends : ∀ t, s.Sends all t → s'.Sends pending t)
    (enums : ∀ type ∈ s'.enums, type ∈ s.enums ∨ s'.HasEnum type)
    (inputs : ∀ name ∈ s'.inputs, name ∈ s.inputs ∨ s'.HasInput name)
    (enum : ∀ e, x = .enum e →
      ∃ t, g.schema.type? e.graphqlType = some t ∧ t.values.find? isReservedValue = none)
    (input : ∀ i, x = .input i → ∃ t, g.schema.type? i.graphqlType = some t ∧ t.kind = .input ∧
      i.name = Naming.typeClassName t.name ∧ ∀ field ∈ t.inputFields,
        Sendable g s' pending inputParameters field.name field.type) :
    Settled g pending s' := by
  have keeps : s.KeepsOthers s' := fun y hy _ => eq ▸ List.mem_append_left _ hy
  refine ⟨fun type ht => ?_, fun name hn => ?_, fun e he => ?_, fun i hi => ?_⟩
  · exact (enums type ht).elim (fun old => (h.knownEnums type old).of_keeps keeps) id
  · exact (inputs name hn).elim (fun old => (h.knownInputs name old).of_keeps keeps) id
  · rcases List.mem_append.mp (eq ▸ he) with he | he
    · exact h.enums e he
    · exact enum e (List.mem_singleton.mp he).symm
  · rcases List.mem_append.mp (eq ▸ hi) with hi | hi
    · obtain ⟨t, found, kind, name, fields⟩ := h.inputs i hi
      exact ⟨t, found, kind, name, fun field hf => (fields field hf).imp sends⟩
    · exact input i (List.mem_singleton.mp hi).symm

/-- The later session is settled, with more classes of enum and input types. -/
structure Settles (g : Setting) (pending : List String) (s s' : Session) : Prop where
  settled : Settled g pending s'
  adds : s.AddsOthers s'

theorem Settles.refl (h : Settled g pending s) : Settles g pending s s := ⟨h, .of_eq rfl⟩

theorem Settles.trans {a b c : Session} (hab : Settles g pending a b)
    (hbc : Settles g pending b c) : Settles g pending a c := ⟨hbc.settled, hab.adds.trans hbc.adds⟩

/-! ## Scalars and enums -/

/-- The sessions have the same classes, and remember them. -/
structure Session.SameClasses (s s' : Session) : Prop where
  registry : s'.registry = s.registry
  enums : s'.enums = s.enums
  inputs : s'.inputs = s.inputs

theorem Settles.of_sameClasses (h : Settled g pending s) (same : s.SameClasses s') :
    Settles g pending s s' where
  settled := h.of_same (fun _ hx _ => same.registry ▸ hx) (fun _ hx _ => same.registry ▸ hx)
    same.enums same.inputs
  adds := .of_eq same.registry

/-- Noting a converter registers nothing. -/
theorem ends_converter (scalar path : String) (imports : List String) {failed : Session → Prop} :
    (Step.run (.converter scalar path imports)).Ends s (fun _ s' => s.SameClasses s') failed :=
  ends_bind (ends_modify (ends_modify ⟨rfl, rfl, rfl⟩))

/-- The conversion of a scalar is that of its plan, and registers nothing. -/
theorem ends_scalarInput_run (g : Setting) (scalar : String) : (scalarInput g scalar).run.Ends s
    (fun c s' => (scalarInput g scalar).result = .ok c ∧ s.SameClasses s')
    (fun s' => s' = s ∧ ∃ e, (scalarInput g scalar).result = .error e) := by
  unfold scalarInput
  split
  · unfold convertedBy
    split
    · exact ⟨rfl, _, rfl⟩
    · refine ends_bind (ends_bind ((ends_converter _ _ _).imp (fun _ s' same => ?_) fun _ h => h))
      exact ⟨rfl, same⟩
  · exact ⟨rfl, rfl, rfl, rfl⟩

theorem ends_enumClass_run {t : TypeDefinition} {done : String → Session → Prop}
    {failed : Session → Prop}
    (h : (registerEnum t).Ends s (fun _ => done (Naming.typeClassName t.name)) failed) :
    (enumClass t).run.Ends s done failed :=
  ends_bind (ends_bind h)

/-- The class of an enum type settles. -/
theorem settles_registerEnum (settled : Settled g pending s) {t : TypeDefinition}
    (found : g.schema.type? t.name = some t) : (registerEnum t).Ends s
    (fun _ s' => Settles g pending s s' ∧ s'.HasEnum t.name) fun _ => True := by
  unfold registerEnum
  refine ends_bind (ends_get ?_)
  split
  · next known => exact ends_pure ⟨.refl settled, settled.knownEnums _ known⟩
  · refine ends_bind (ends_pure ?_)
    split
    · exact ends_throw trivial
    · next free =>
      refine ends_bind ((ends_register _).imp ?_ fun _ _ => trivial)
      rintro - s₁ ⟨-, eq, same⟩
      have adds : s.AddsOthers s₁ := .of_append eq rfl
      have has : s₁.HasEnum t.name := ⟨_, eq ▸ List.mem_append_right _ List.mem_cons_self, rfl, rfl⟩
      refine ends_modify ⟨⟨settled.append eq (fun u here => ?_) ?_ ?_ ?_ ?_, adds⟩, has⟩
      · exact here.of_keeps adds.keeps
      · intro type ht
        rcases List.mem_append.mp ht with ht | ht
        · exact Or.inl (same.enums ▸ ht)
        · exact Or.inr (List.mem_singleton.mp ht ▸ has)
      · exact fun name hn => Or.inl (same.inputs ▸ hn)
      · rintro - ⟨⟩
        exact ⟨t, found, free⟩
      · rintro - ⟨⟩

/-! ## Input types -/

mutual

/-- **The class of an input type settles**, unless it is being gone through. -/
theorem settles_inputClass {s : Session} {pending : List String}
    (settled : Settled g pending s) {t : TypeDefinition} (ht : t ∈ g.schema.types)
    (found : g.schema.type? t.name = some t) (kind : t.kind = .input) :
    (inputClass g pending t ht).Ends s
    (fun name s' => Settles g pending s s' ∧ name = Naming.typeClassName t.name ∧
      (s'.HasInput name ∨ name ∈ pending)) fun _ => True := by
  rw [inputClass]
  dsimp only
  split
  · next isPending => exact ends_pure ⟨.refl settled, rfl, Or.inr isPending⟩
  · next new =>
    refine ends_bind (ends_get ?_)
    split
    · next known =>
      exact ends_pure ⟨.refl settled, rfl, Or.inl (settled.knownInputs _ known)⟩
    · have := unvisited_lt ht new
      refine ends_bind ((settles_inputParametersOf (settled.of_pending _) _ _).imp ?_
        fun _ h => h)
      rintro arguments s₁ ⟨⟨settled₁, adds₁⟩, sendable⟩
      refine ends_bind ((ends_register _).imp ?_ fun _ _ => trivial)
      rintro - s₂ ⟨-, eq, same⟩
      have adds : s₁.AddsOthers s₂ := .of_append eq rfl
      have has : s₂.HasInput (Naming.typeClassName t.name) :=
        ⟨_, eq ▸ List.mem_append_right _ List.mem_cons_self, rfl⟩
      -- The class is there now, so no field waits for it any more.
      have sends : ∀ u, s₁.Sends (Naming.typeClassName t.name :: pending) u →
          Sends { s₂ with inputs := s₂.inputs ++ [Naming.typeClassName t.name] } pending u := by
        intro u here
        refine ⟨fun isEnum => (here.enum isEnum).of_keeps adds.keeps, fun isInput => ?_⟩
        rcases here.input isInput with there | waits
        · exact Or.inl (there.of_keeps adds.keeps)
        · rcases List.mem_cons.mp waits with this | waits
          · exact Or.inl (this ▸ has)
          · exact Or.inr waits
      refine ends_bind (ends_modify (ends_pure ⟨⟨settled₁.append eq sends ?_ ?_ nofun ?_,
        adds₁.trans adds⟩, rfl, Or.inl has⟩))
      · exact fun type ht => Or.inl (same.enums ▸ ht)
      · intro name hn
        rcases List.mem_append.mp hn with hn | hn
        · exact Or.inl (same.inputs ▸ hn)
        · exact Or.inr (List.mem_singleton.mp hn ▸ has)
      · rintro - ⟨⟩
        exact ⟨t, found, kind, rfl, fun field hf => (sendable field hf).imp sends⟩
termination_by (unvisited g.schema pending, 0)
decreasing_by
  exact Prod.Lex.left _ _ this

/-- The parameters of the fields of an input type settle. -/
theorem settles_inputParametersOf {s : Session} {pending : List String}
    (settled : Settled g pending s) (owner : String) (fields : List InputValue) :
    (inputParametersOf g pending owner fields).Ends s
    (fun _ s' => Settles g pending s s' ∧ ∀ field ∈ fields,
      Sendable g s' pending inputParameters field.name field.type) fun _ => True := by
  cases fields with
  | nil =>
    rw [inputParametersOf]
    exact ends_pure ⟨.refl settled, fun _ h => absurd h List.not_mem_nil⟩
  | cons field rest =>
    rw [inputParametersOf]
    refine ends_bind ((settles_parameter settled _ _ _ _).imp ?_ fun _ h => h)
    rintro p s₁ ⟨first, -, sendable⟩
    refine ends_bind ((settles_inputParametersOf first.settled _ rest).imp ?_ fun _ h => h)
    rintro ps s₂ ⟨next, others⟩
    refine ends_pure ⟨first.trans next, List.forall_mem_cons.mpr ⟨?_, others⟩⟩
    exact sendable.imp fun _ => (·.of_keeps next.adds.keeps)
termination_by (unvisited g.schema pending, fields.length + 2)

/-- A parameter settles, and is the one for its type. -/
theorem settles_parameter {s : Session} {pending : List String}
    (settled : Settled g pending s) (owner : String) (reserved : List String) (name : String)
    (type : TypeRef) :
    (parameter g pending owner reserved name type).Ends s
    (fun p s' => Settles g pending s s' ∧ parameterFor g pending name type = .ok p ∧
      Sendable g s' pending reserved name type) fun _ => True := by
  rw [parameter]
  dsimp only
  split
  · exact ends_bind (ends_throw trivial)
  · next free =>
    split
    · next t found =>
      refine ends_bind ((settles_inputOf settled _ (type?_name found)).imp ?_ fun _ h => h)
      rintro c s' ⟨settles, sent, sends⟩
      exact ends_pure ⟨settles, parameterFor_eq found sent, free, t, c, found, sent, sends⟩
    · exact ends_throw trivial
termination_by (unvisited g.schema pending, 2)

/-- The class that the values of a type are sent by settles. -/
theorem settles_inputOf {s : Session} {pending : List String} (settled : Settled g pending s)
    {t : TypeDefinition} (ht : t ∈ g.schema.types) (found : g.schema.type? t.name = some t) :
    (inputOf g pending t ht).Ends s
    (fun c s' => Settles g pending s s' ∧ sentAs g t = .ok c ∧ s'.Sends pending t)
    fun _ => True := by
  rw [inputOf]
  split
  · next kind =>
    refine (ends_scalarInput_run g t.name).imp ?_ fun _ _ => trivial
    rintro c s' ⟨sent, same⟩
    exact ⟨.of_sameClasses settled same, by rw [sentAs_of_scalar kind, sent], by simp [kind],
      by simp [kind]⟩
  · next kind =>
    refine ends_bind (ends_enumClass_run ((settles_registerEnum settled found).imp ?_ fun _ h => h))
    rintro - s' ⟨settles, has⟩
    exact ends_pure ⟨settles, sentAs_of_class (Or.inl kind), fun _ => has, by simp [kind]⟩
  · next kind =>
    refine ends_bind ((settles_inputClass settled ht found kind).imp ?_ fun _ h => h)
    rintro name s' ⟨settles, rfl, has⟩
    exact ends_pure ⟨settles, sentAs_of_class (Or.inr kind), by simp [kind], fun _ => has⟩
  · exact ends_throw trivial
termination_by (unvisited g.schema pending, 1)

end

end Generation

end QueryShape
