import Mathlib.Logic.Relation
import QueryShape.Proofs.Generation.Changes
import QueryShape.Proofs.Generation.Fresh

/-!
# Abandoned classes

A call may fail while the class of an input type is gone through. That class is abandoned, but the
classes that were registered on the way stay, and those refer to it if their types do.

* `leaves_inputClass` and the theorems next to it: what a class refers to is registered, or being
  gone through, or reaches a type whose values cannot be sent; and a call that fails, fails at such
  a type.
* `namesRegistered_iff`: between calls, classes refer to registered classes only exactly if none of
  their types reaches a type whose values cannot be sent.
-/

namespace QueryShape.Generation

open Document Record Run Session

/-! ## Calls -/

/-- What is asked of a resolver. -/
inductive Call
  /-- How the values of a type are read. -/
  | output (type : String)
  /-- How the values of a type are sent. -/
  | input (type : String)
  /-- The parameter of a variable or input field, which is not to have one of the given names. -/
  | parameter (owner : String) (reserved : List String) (name : String) (type : TypeRef)

/-- Answer a call, for what it registers. -/
def Call.run (g : Setting) : Call → Run Unit
  | .output type => do
    let _ ← withType g.schema type fun t _ => (outputOf g t).run
  | .input type => do
    let _ ← inputOfName g type
  | .parameter owner reserved name type => do
    let _ ← Generation.parameter g [] owner reserved name type

/-- The session after calls, whatever comes of each. -/
def answered (g : Setting) (calls : List Call) : Session :=
  calls.foldl (fun s c => ((c.run g).outcome s).2) {}

/-! ## Types that hold others -/

/-- A field of the input type is of the other type, under its lists and marks. -/
def HoldsType (g : Setting) (t u : TypeDefinition) : Prop :=
  ∃ field ∈ t.inputFields, g.schema.type? field.type.bareName = some u

/-- The type is the other, or holds a type that reaches it. -/
abbrev Reaches (g : Setting) : TypeDefinition → TypeDefinition → Prop :=
  Relation.ReflTransGen (HoldsType g)

/-- Values of the type are sent by a class of its own. -/
def HasOwnClass (t : TypeDefinition) : Prop := t.kind = .enum ∨ t.kind = .input

/-- The class of the type is registered. -/
def Session.HasClass (s : Session) (t : TypeDefinition) : Prop :=
  ∃ x ∈ s.registry.records, x.name = Naming.typeClassName t.name ∧ x.graphqlType = t.name

/-- Values of the type cannot be sent, even if those of all types that it holds can. -/
inductive Fault (g : Setting) (s : Session) (t : TypeDefinition) : Prop
  /-- The type is not one of inputs, or its converter cannot be imported. -/
  | conversion {e : GenerationError} (failed : sentAs g t = .error e)
  /-- The enum has a value that no member can be named after. -/
  | value {name : String} (kind : t.kind = .enum)
      (found : t.values.find? isReservedValue = some name)
  /-- The input type has a field that no parameter can be named after. -/
  | field {field : InputValue} (mem : field ∈ t.inputFields)
      (reserved : parameterName field.name ∈ inputParameters)
  /-- The input type has a field of no type. -/
  | unknown {field : InputValue} (mem : field ∈ t.inputFields)
      (none : g.schema.type? field.type.bareName = none)
  /-- The name of the class is that of another. -/
  | taken {x : Record} (own : HasOwnClass t) (mem : x ∈ s.registry.records)
      (name : x.name = Naming.typeClassName t.name) (other : x.graphqlType ≠ t.name)

/-- The type reaches one whose values cannot be sent. -/
def Doomed (g : Setting) (s : Session) (t : TypeDefinition) : Prop :=
  ∃ u, Reaches g t u ∧ Fault g s u

variable {g : Setting} {s s' : Session} {pending : List String} {t u : TypeDefinition}

theorem kind_of_mem_inputFields {field : InputValue} (h : field ∈ t.inputFields) :
    t.kind = .input := by
  unfold TypeDefinition.inputFields at h
  split at h
  · next body =>
    unfold TypeDefinition.kind
    rw [body]
    rfl
  · cases h

theorem type?_of_holds (h : HoldsType g t u) : g.schema.type? u.name = some u := by
  obtain ⟨field, -, found⟩ := h
  exact type?_name found

theorem type?_of_reaches (reaches : Reaches g t u) (found : g.schema.type? t.name = some t) :
    g.schema.type? u.name = some u := by
  rcases reaches.cases_tail with rfl | ⟨v, -, holds⟩
  · exact found
  · exact type?_of_holds holds

theorem Session.HasClass.of_subset (h : s.HasClass t)
    (sub : s.registry.records ⊆ s'.registry.records) : s'.HasClass t := by
  obtain ⟨x, hx, named⟩ := h
  exact ⟨x, sub hx, named⟩

theorem Fault.of_subset (h : Fault g s t) (sub : s.registry.records ⊆ s'.registry.records) :
    Fault g s' t := by
  cases h with
  | conversion failed => exact .conversion failed
  | value kind found => exact .value kind found
  | field mem reserved => exact .field mem reserved
  | unknown mem none => exact .unknown mem none
  | taken own mem name other => exact .taken own (sub mem) name other

theorem Fault.doomed (h : Fault g s t) : Doomed g s t := ⟨t, .refl, h⟩

theorem Doomed.of_subset (h : Doomed g s t) (sub : s.registry.records ⊆ s'.registry.records) :
    Doomed g s' t := by
  obtain ⟨u, reaches, fault⟩ := h
  exact ⟨u, reaches, fault.of_subset sub⟩

theorem Doomed.of_holds (h : Doomed g s u) (holds : HoldsType g t u) : Doomed g s t := by
  obtain ⟨v, reaches, fault⟩ := h
  exact ⟨v, reaches.head holds, fault⟩

/-- A field of the input type stands in the way of its class. -/
def Blocked (g : Setting) (s : Session) (reserved : List String) (name : String)
    (type : TypeRef) : Prop :=
  parameterName name ∈ reserved ∨ g.schema.type? type.bareName = none ∨
    ∃ u, g.schema.type? type.bareName = some u ∧ Doomed g s u

theorem Blocked.doomed {field : InputValue} (mem : field ∈ t.inputFields)
    (h : Blocked g s inputParameters field.name field.type) : Doomed g s t := by
  rcases h with reserved | none | ⟨u, found, doomed⟩
  · exact (Fault.field mem reserved).doomed
  · exact (Fault.unknown mem none).doomed
  · exact doomed.of_holds ⟨field, mem, found⟩

/-! ## What is left behind -/

/-- The class of the type, if it has one, is registered or being gone through, or it will never
be. -/
def Accounted (g : Setting) (s : Session) (pending : List String) (t : TypeDefinition) : Prop :=
  HasOwnClass t → s.HasClass t ∨
    (t.kind = .input ∧ Naming.typeClassName t.name ∈ pending) ∨ Doomed g s t

theorem Accounted.of_subset (h : Accounted g s pending t)
    (sub : s.registry.records ⊆ s'.registry.records) : Accounted g s' pending t := fun own =>
  (h own).imp (·.of_subset sub) (·.imp_right (·.of_subset sub))

theorem Accounted.of_pending (h : Accounted g s pending t) (name : String) :
    Accounted g s (name :: pending) t := fun own =>
  (h own).imp_right (·.imp_left fun ⟨kind, waits⟩ => ⟨kind, List.mem_cons_of_mem _ waits⟩)

/-- What becomes of a class that is being gone through, becomes of it wherever it is waited for. -/
theorem Accounted.of_ended (apart : InputNamesApart g.schema)
    (h : Accounted g s (Naming.typeClassName t.name :: pending) u)
    (found : g.schema.type? t.name = some t) (known : g.schema.type? u.name = some u)
    (kind : t.kind = .input) (sub : s.registry.records ⊆ s'.registry.records)
    (ended : s'.HasClass t ∨ Doomed g s' t) : Accounted g s' pending u := by
  intro own
  rcases h own with has | ⟨isInput, waits⟩ | doomed
  · exact Or.inl (has.of_subset sub)
  · rcases List.mem_cons.mp waits with same | waits
    · have eq : u = t := by
        have := apart u (List.mem_of_find?_eq_some known) t (List.mem_of_find?_eq_some found)
          isInput kind same
        rw [this, found] at known
        exact (Option.some.inj known).symm
      exact eq ▸ ended.imp_right Or.inr
    · exact Or.inr (Or.inl ⟨isInput, waits⟩)
  · exact Or.inr (Or.inr (doomed.of_subset sub))

/-- The parameter is that of a field of an input type. -/
def IsParameterOfField (g : Setting) (field : InputValue) (p : Parameter) : Prop :=
  parameterName field.name ∉ inputParameters ∧
    ∃ waiting, parameterFor g waiting field.name field.type = .ok p

/-- The class is that of the input type, with a parameter for each field. -/
structure DescribesInput (g : Setting) (t : TypeDefinition) (i : Input) : Prop where
  found : g.schema.type? i.graphqlType = some t
  kind : t.kind = .input
  name : i.name = Naming.typeClassName t.name
  arguments : List.Forall₂ (IsParameterOfField g) t.inputFields i.arguments

/-- The classes are those of enum and input types, what they refer to is accounted for, and they are
remembered. -/
structure Left (g : Setting) (pending : List String) (s : Session) : Prop where
  others : ∀ x ∈ s.registry.records, x.isResult = false
  enum : ∀ e, .enum e ∈ s.registry.records → e.graphqlType ∈ s.enums ∧
    ∃ t, g.schema.type? e.graphqlType = some t ∧ t.kind = .enum ∧
      e.name = Naming.typeClassName t.name ∧ t.values.find? isReservedValue = none
  input : ∀ i, .input i ∈ s.registry.records → i.name ∈ s.inputs ∧
    ∃ t, DescribesInput g t i ∧ ∀ u, HoldsType g t u → Accounted g s pending u
  knownEnums : ∀ type ∈ s.enums, ∃ e, .enum e ∈ s.registry.records ∧ e.graphqlType = type
  knownInputs : ∀ name ∈ s.inputs, ∃ i, .input i ∈ s.registry.records ∧ i.name = name
  waiting : ∀ name ∈ pending, name ∉ s.inputs

theorem left_empty (g : Setting) : Left g [] {} where
  others := fun _ h => absurd h List.not_mem_nil
  enum := fun _ h => absurd h List.not_mem_nil
  input := fun _ h => absurd h List.not_mem_nil
  knownEnums := fun _ h => absurd h List.not_mem_nil
  knownInputs := fun _ h => absurd h List.not_mem_nil
  waiting := fun _ h => absurd h List.not_mem_nil

/-- What is left behind has more classes than before. -/
structure Leaves (g : Setting) (pending : List String) (s s' : Session) : Prop where
  left : Left g pending s'
  sub : s.registry.records ⊆ s'.registry.records

theorem Leaves.refl (h : Left g pending s) : Leaves g pending s s := ⟨h, List.Subset.refl _⟩

theorem Leaves.trans {a b c : Session} (hab : Leaves g pending a b) (hbc : Leaves g pending b c) :
    Leaves g pending a c := ⟨hbc.left, List.Subset.trans hab.sub hbc.sub⟩

theorem Leaves.of_sameClasses (h : Left g pending s) (same : s.SameClasses s') :
    Leaves g pending s s' := by
  obtain ⟨registry, enums, inputs⟩ := same
  have sub : s.registry.records ⊆ s'.registry.records := registry ▸ List.Subset.refl _
  refine ⟨⟨registry ▸ h.others, registry ▸ enums ▸ h.enum, fun i hi => ?_, ?_, ?_, ?_⟩, sub⟩
  · obtain ⟨known, t, describes, accounted⟩ := h.input i (registry ▸ hi)
    exact ⟨inputs ▸ known, t, describes, fun u holds => (accounted u holds).of_subset sub⟩
  · exact registry ▸ enums ▸ h.knownEnums
  · exact registry ▸ inputs ▸ h.knownInputs
  · exact inputs ▸ h.waiting

/-- The class of an input type is going to be gone through. -/
theorem Left.enter (h : Left g pending s) {name : String} (new : name ∉ s.inputs) :
    Left g (name :: pending) s where
  others := h.others
  enum := h.enum
  input := fun i hi => by
    obtain ⟨known, t, describes, accounted⟩ := h.input i hi
    exact ⟨known, t, describes, fun u holds => (accounted u holds).of_pending name⟩
  knownEnums := h.knownEnums
  knownInputs := h.knownInputs
  waiting := List.forall_mem_cons.mpr ⟨new, h.waiting⟩

/-- The class of an input type has been abandoned. -/
theorem Left.abandon (h : Left g (Naming.typeClassName t.name :: pending) s)
    (apart : InputNamesApart g.schema) (found : g.schema.type? t.name = some t)
    (kind : t.kind = .input) (doomed : Doomed g s t) : Left g pending s where
  others := h.others
  enum := h.enum
  input := fun i hi => by
    obtain ⟨known, v, describes, accounted⟩ := h.input i hi
    exact ⟨known, v, describes, fun u holds => (accounted u holds).of_ended apart found
      (type?_of_holds holds) kind (List.Subset.refl _) (Or.inr doomed)⟩
  knownEnums := h.knownEnums
  knownInputs := h.knownInputs
  waiting := fun name hn => h.waiting name (List.mem_cons_of_mem _ hn)

/-- The class of an enum type is put last. -/
theorem Left.addEnum (h : Left g pending s) {e : Enum}
    (found : g.schema.type? e.graphqlType = some t) (kind : t.kind = .enum)
    (name : e.name = Naming.typeClassName t.name)
    (free : t.values.find? isReservedValue = none)
    (records : s'.registry.records = s.registry.records ++ [.enum e])
    (enums : s'.enums = s.enums ++ [e.graphqlType]) (inputs : s'.inputs = s.inputs) :
    Left g pending s' := by
  have sub : s.registry.records ⊆ s'.registry.records := records ▸ List.subset_append_left _ _
  have last : .enum e ∈ s'.registry.records :=
    records ▸ List.mem_append_right _ List.mem_cons_self
  refine ⟨fun x hx => ?_, fun e' he => ?_, fun i hi => ?_, fun type ht => ?_, fun n hn => ?_,
    inputs ▸ h.waiting⟩
  · rcases List.mem_append.mp (records ▸ hx) with hx | hx
    · exact h.others x hx
    · rw [List.mem_singleton.mp hx]
      rfl
  · rw [enums]
    rcases List.mem_append.mp (records ▸ he) with he | he
    · obtain ⟨known, described⟩ := h.enum e' he
      exact ⟨List.mem_append_left _ known, described⟩
    · cases List.mem_singleton.mp he
      exact ⟨List.mem_append_right _ List.mem_cons_self, t, found, kind, name, free⟩
  · rcases List.mem_append.mp (records ▸ hi) with hi | hi
    · obtain ⟨known, v, describes, accounted⟩ := h.input i hi
      exact ⟨inputs ▸ known, v, describes, fun u holds => (accounted u holds).of_subset sub⟩
    · cases List.mem_singleton.mp hi
  · rcases List.mem_append.mp (enums ▸ ht) with ht | ht
    · obtain ⟨e', he, type⟩ := h.knownEnums type ht
      exact ⟨e', sub he, type⟩
    · exact ⟨e, last, (List.mem_singleton.mp ht).symm⟩
  · obtain ⟨i, hi, name⟩ := h.knownInputs n (inputs ▸ hn)
    exact ⟨i, sub hi, name⟩

/-- The class of an input type that has been gone through is put last. -/
theorem Left.addInput (h : Left g (Naming.typeClassName t.name :: pending) s)
    (apart : InputNamesApart g.schema) (new : Naming.typeClassName t.name ∉ pending) {i : Input}
    (type : i.graphqlType = t.name) (describes : DescribesInput g t i)
    (accounted : ∀ u, HoldsType g t u →
      Accounted g s (Naming.typeClassName t.name :: pending) u)
    (records : s'.registry.records = s.registry.records ++ [.input i])
    (enums : s'.enums = s.enums) (inputs : s'.inputs = s.inputs ++ [i.name]) :
    Left g pending s' := by
  have sub : s.registry.records ⊆ s'.registry.records := records ▸ List.subset_append_left _ _
  have last : .input i ∈ s'.registry.records :=
    records ▸ List.mem_append_right _ List.mem_cons_self
  have has : s'.HasClass t := ⟨_, last, describes.name, type⟩
  have ended : ∀ u, g.schema.type? u.name = some u →
      Accounted g s (Naming.typeClassName t.name :: pending) u → Accounted g s' pending u :=
    fun u known here => here.of_ended apart (type ▸ describes.found) known describes.kind sub
      (Or.inl has)
  refine ⟨fun x hx => ?_, fun e he => ?_, fun i' hi => ?_, fun type ht => ?_, fun n hn => ?_,
    fun n hn => ?_⟩
  · rcases List.mem_append.mp (records ▸ hx) with hx | hx
    · exact h.others x hx
    · rw [List.mem_singleton.mp hx]
      rfl
  · rw [enums]
    rcases List.mem_append.mp (records ▸ he) with he | he
    · exact h.enum e he
    · cases List.mem_singleton.mp he
  · rw [inputs]
    rcases List.mem_append.mp (records ▸ hi) with hi | hi
    · obtain ⟨known, v, described, others⟩ := h.input i' hi
      exact ⟨List.mem_append_left _ known, v, described, fun u holds =>
        ended u (type?_of_holds holds) (others u holds)⟩
    · cases List.mem_singleton.mp hi
      exact ⟨List.mem_append_right _ List.mem_cons_self, t, describes, fun u holds =>
        ended u (type?_of_holds holds) (accounted u holds)⟩
  · obtain ⟨e, he, same⟩ := h.knownEnums type (enums ▸ ht)
    exact ⟨e, sub he, same⟩
  · rcases List.mem_append.mp (inputs ▸ hn) with hn | hn
    · obtain ⟨i', hi, name⟩ := h.knownInputs n hn
      exact ⟨i', sub hi, name⟩
    · exact ⟨i, last, (List.mem_singleton.mp hn).symm⟩
  · rw [inputs, List.mem_append, List.mem_singleton, describes.name]
    refine not_or.mpr ⟨h.waiting n (List.mem_cons_of_mem _ hn), ?_⟩
    rintro rfl
    exact new hn

/-! ## Enums and converters -/

/-- A name that is taken, although no class of the type is remembered, is that of another class. -/
theorem Left.fault_of_taken (h : Left g pending s) (found : g.schema.type? t.name = some t)
    (own : HasOwnClass t) (enums : t.kind = .enum → t.name ∉ s.enums)
    (inputs : t.kind = .input → Naming.typeClassName t.name ∉ s.inputs)
    (taken : Naming.typeClassName t.name ∈ s.registry.names) : Fault g s t := by
  obtain ⟨x, hx, name⟩ := Registry.mem_names.mp taken
  refine .taken own hx name fun type => ?_
  have simple := h.others x hx
  cases x with
  | root _ | leaf _ => cases simple
  | enum e =>
    obtain ⟨known, v, foundE, kind, -⟩ := h.enum e hx
    have type : e.graphqlType = t.name := type
    rw [type, found] at foundE
    cases foundE
    exact enums kind (type ▸ known)
  | input i =>
    obtain ⟨known, v, describes, -⟩ := h.input i hx
    have foundI := describes.found
    rw [show i.graphqlType = t.name from type, found] at foundI
    cases foundI
    exact inputs describes.kind (describes.name ▸ known)

/-- The class of an enum type is registered, or its values cannot be sent. -/
theorem leaves_registerEnum (left : Left g pending s) (found : g.schema.type? t.name = some t)
    (kind : t.kind = .enum) : (registerEnum t).Ends s
    (fun _ s' => Leaves g pending s s' ∧ s'.HasClass t)
    (fun s' => Leaves g pending s s' ∧ Fault g s' t) := by
  unfold registerEnum
  refine ends_bind (ends_get ?_)
  split
  · next known =>
    obtain ⟨e, he, type⟩ := left.knownEnums _ known
    obtain ⟨-, v, foundE, -, name, -⟩ := left.enum e he
    rw [type, found] at foundE
    cases foundE
    exact ends_pure ⟨.refl left, _, he, name, type⟩
  · next new =>
    refine ends_bind (ends_pure ?_)
    split
    · next value reserved => exact ends_throw ⟨.refl left, .value kind reserved⟩
    · next free =>
      by_cases taken : Naming.typeClassName t.name ∈ s.registry.names
      · have fault : Fault g s t := left.fault_of_taken found (Or.inl kind) (fun _ => new)
          (by simp [kind]) taken
        refine ends_bind ((ends_register _).imp ?_ ?_)
        · rintro - s₁ ⟨free, -⟩
          exact absurd taken free
        · rintro s₁ rfl
          exact ⟨.refl left, fault⟩
      · refine ends_bind ((ends_register_of_free taken).imp ?_ fun _ h => h.elim)
        rintro - s₁ ⟨records, same⟩
        refine ends_modify ⟨⟨left.addEnum found kind rfl free records ?_ same.inputs, ?_⟩, ?_⟩
        · rw [same.enums]
        · exact records ▸ List.subset_append_left _ _
        · exact ⟨_, records ▸ List.mem_append_right _ List.mem_cons_self, rfl, rfl⟩

/-! ## Input types -/

mutual

/-- **The class of an input type is registered**, or being gone through, or the type reaches one
whose values cannot be sent. -/
theorem leaves_inputClass {s : Session} (apart : InputNamesApart g.schema) {pending : List String}
    (left : Left g pending s) {t : TypeDefinition} (ht : t ∈ g.schema.types)
    (found : g.schema.type? t.name = some t) (kind : t.kind = .input) :
    (inputClass g pending t ht).Ends s
    (fun name s' => Leaves g pending s s' ∧ name = Naming.typeClassName t.name ∧
      (s'.HasClass t ∨ name ∈ pending))
    (fun s' => Leaves g pending s s' ∧ Doomed g s' t) := by
  rw [inputClass]
  dsimp only
  split
  · next isPending => exact ends_pure ⟨.refl left, rfl, Or.inr isPending⟩
  · next new =>
    refine ends_bind (ends_get ?_)
    split
    · next known =>
      obtain ⟨i, hi, name⟩ := left.knownInputs _ known
      obtain ⟨-, v, describes, -⟩ := left.input i hi
      have same : v.name = t.name := apart v (List.mem_of_find?_eq_some describes.found) t ht
        describes.kind kind (describes.name.symm.trans name)
      have type : i.graphqlType = t.name := (name_of_type? describes.found).symm.trans same
      exact ends_pure ⟨.refl left, rfl, Or.inl ⟨_, hi, name, type⟩⟩
    · next unknown =>
      have := unvisited_lt ht new
      refine ends_bind ((leaves_inputParametersOf apart (left.enter unknown) _ _).imp ?_ ?_)
      · rintro arguments s₁ ⟨⟨left₁, sub₁⟩, described, accounted⟩
        have describes : DescribesInput g t
            { name := Naming.typeClassName t.name, graphqlType := t.name, arguments
              dependencies := .ofList (arguments.filterMap (·.dependency?)) } :=
          ⟨found, kind, rfl, described⟩
        have waits := left₁.waiting _ List.mem_cons_self
        by_cases taken : Naming.typeClassName t.name ∈ s₁.registry.names
        · have fault : Fault g s₁ t := left₁.fault_of_taken found (Or.inr kind)
            (by simp [kind]) (fun _ => waits) taken
          refine ends_bind ((ends_register _).imp ?_ ?_)
          · rintro - s₂ ⟨free, -⟩
            exact absurd taken free
          · rintro s₂ rfl
            exact ⟨⟨left₁.abandon apart found kind fault.doomed, sub₁⟩, fault.doomed⟩
        · refine ends_bind ((ends_register_of_free taken).imp ?_ fun _ h => h.elim)
          rintro - s₂ ⟨records, same⟩
          have sub₂ : s₁.registry.records ⊆ s₂.registry.records :=
            records ▸ List.subset_append_left _ _
          refine ends_bind (ends_modify (ends_pure ⟨⟨left₁.addInput apart new rfl describes
            (fun u ⟨field, mem, holds⟩ => accounted field mem u holds) records same.enums ?_,
            List.Subset.trans sub₁ sub₂⟩, rfl, Or.inl ?_⟩))
          · rw [same.inputs]
          · exact ⟨_, records ▸ List.mem_append_right _ List.mem_cons_self, rfl, rfl⟩
      · rintro s₁ ⟨⟨left₁, sub₁⟩, field, mem, blocked⟩
        have doomed : Doomed g s₁ t := blocked.doomed mem
        exact ⟨⟨left₁.abandon apart found kind doomed, sub₁⟩, doomed⟩
termination_by (unvisited g.schema pending, 0)
decreasing_by
  exact Prod.Lex.left _ _ this

/-- The parameters of fields are those of their types, or one of the fields stands in the way. -/
theorem leaves_inputParametersOf {s : Session} (apart : InputNamesApart g.schema)
    {pending : List String} (left : Left g pending s) (owner : String)
    (fields : List InputValue) : (inputParametersOf g pending owner fields).Ends s
    (fun ps s' => Leaves g pending s s' ∧ List.Forall₂ (IsParameterOfField g) fields ps ∧
      ∀ field ∈ fields, ∀ u, g.schema.type? field.type.bareName = some u →
        Accounted g s' pending u)
    (fun s' => Leaves g pending s s' ∧
      ∃ field ∈ fields, Blocked g s' inputParameters field.name field.type) := by
  cases fields with
  | nil =>
    rw [inputParametersOf]
    exact ends_pure ⟨.refl left, .nil, fun _ h => absurd h List.not_mem_nil⟩
  | cons field rest =>
    rw [inputParametersOf]
    refine ends_bind ((leaves_parameter apart left _ _ _ _).imp ?_ ?_)
    · rintro p s₁ ⟨first, free, parameter, accounted⟩
      refine ends_bind ((leaves_inputParametersOf apart first.left _ rest).imp ?_ ?_)
      · rintro ps s₂ ⟨next, described, others⟩
        refine ends_pure ⟨first.trans next, .cons ⟨free, _, parameter⟩ described,
          List.forall_mem_cons.mpr ⟨fun u found => ?_, others⟩⟩
        exact (accounted u found).of_subset next.sub
      · rintro s₂ ⟨next, field', mem, blocked⟩
        exact ⟨first.trans next, field', List.mem_cons_of_mem _ mem, blocked⟩
    · rintro s₁ ⟨leaves, blocked⟩
      exact ⟨leaves, field, List.mem_cons_self, blocked⟩
termination_by (unvisited g.schema pending, fields.length + 2)

/-- A parameter is that of its type, or its name or type stands in the way. -/
theorem leaves_parameter {s : Session} (apart : InputNamesApart g.schema) {pending : List String}
    (left : Left g pending s) (owner : String) (reserved : List String) (name : String)
    (type : TypeRef) :
    (parameter g pending owner reserved name type).Ends s
    (fun p s' => Leaves g pending s s' ∧ parameterName name ∉ reserved ∧
      parameterFor g pending name type = .ok p ∧
      ∀ u, g.schema.type? type.bareName = some u → Accounted g s' pending u)
    (fun s' => Leaves g pending s s' ∧ Blocked g s' reserved name type) := by
  rw [parameter]
  dsimp only
  split
  · next taken => exact ends_bind (ends_throw ⟨.refl left, Or.inl taken⟩)
  · next free =>
    split
    · next t found =>
      refine ends_bind ((leaves_inputOf apart left _ (type?_name found)).imp ?_ ?_)
      · rintro c s' ⟨leaves, sent, accounted⟩
        refine ends_pure ⟨leaves, free, parameterFor_eq found sent, fun u found' => ?_⟩
        cases found.symm.trans found'
        exact accounted
      · rintro s' ⟨leaves, doomed⟩
        exact ⟨leaves, Or.inr (Or.inr ⟨t, found, doomed⟩)⟩
    · next none => exact ends_throw ⟨.refl left, Or.inr (Or.inl none)⟩
termination_by (unvisited g.schema pending, 2)

/-- The values of a type are sent by a class that is accounted for, or the type reaches one whose
values cannot be sent. -/
theorem leaves_inputOf {s : Session} (apart : InputNamesApart g.schema) {pending : List String}
    (left : Left g pending s) {t : TypeDefinition} (ht : t ∈ g.schema.types)
    (found : g.schema.type? t.name = some t) :
    (inputOf g pending t ht).Ends s
    (fun c s' => Leaves g pending s s' ∧ sentAs g t = .ok c ∧ Accounted g s' pending t)
    (fun s' => Leaves g pending s s' ∧ Doomed g s' t) := by
  rw [inputOf]
  split
  · next kind =>
    refine (ends_scalarInput_run g t.name).imp ?_ ?_
    · rintro c s' ⟨sent, same⟩
      refine ⟨.of_sameClasses left same, by rw [sentAs_of_scalar kind, sent], fun own => ?_⟩
      simp [HasOwnClass, kind] at own
    · rintro s' ⟨rfl, e, failed⟩
      exact ⟨.refl left, (Fault.conversion (sentAs_of_scalar kind ▸ failed)).doomed⟩
  · next kind =>
    refine ends_bind (ends_enumClass_run ((leaves_registerEnum left found kind).imp ?_ ?_))
    · rintro - s' ⟨leaves, has⟩
      exact ends_pure ⟨leaves, sentAs_of_class (Or.inl kind), fun _ => Or.inl has⟩
    · rintro s' ⟨leaves, fault⟩
      exact ⟨leaves, fault.doomed⟩
  · next kind =>
    refine ends_bind ((leaves_inputClass apart left ht found kind).imp ?_ fun _ h => h)
    rintro name s' ⟨leaves, rfl, has⟩
    exact ends_pure ⟨leaves, sentAs_of_class (Or.inr kind), fun _ =>
      has.imp_right fun waits => Or.inl ⟨kind, waits⟩⟩
  · next notScalar notEnum notInput =>
    have failed : sentAs g t = .error (misplaced t "an input value") := by
      unfold sentAs
      split <;> first | contradiction | rfl
    exact ends_throw ⟨.refl left, (Fault.conversion failed).doomed⟩
termination_by (unvisited g.schema pending, 1)

end

/-! ## Calls that are answered -/

/-- How the values of a type are read needs the class of an enum type at most. -/
theorem leaves_outputOf (left : Left g pending s) (found : g.schema.type? t.name = some t) :
    (outputOf g t).run.Ends s (fun _ s' => Leaves g pending s s') (Leaves g pending s ·) := by
  have steps : ((outputOf g t).steps.forM Step.run).Ends s (fun _ s' => Leaves g pending s s')
      (Leaves g pending s ·) := by
    refine ends_forM (fun _ => Leaves g pending s) (.refl left) fun before a s₁ front leaves => ?_
    have mem : a ∈ (outputOf g t).steps := front.subset (by simp)
    rcases mem_steps_outputOf mem with ⟨path, imports, rfl⟩ | ⟨kind, rfl⟩
    · refine (ends_converter _ _ _).imp ?_ fun _ h => h
      exact fun _ s₂ same => leaves.trans (.of_sameClasses leaves.left same)
    · refine (leaves_registerEnum leaves.left found kind).imp ?_ ?_
      · exact fun _ s₂ next => leaves.trans next.1
      · exact fun s₂ next => leaves.trans next.1
  unfold Plan.run
  refine ends_bind (steps.imp ?_ fun _ h => h)
  rintro - s₁ leaves
  cases (outputOf g t).result with
  | error e => exact ends_throw leaves
  | ok c => exact ends_pure leaves

/-- **A call leaves behind only what is accounted for**, whatever comes of it. -/
theorem leaves_call (apart : InputNamesApart g.schema) (left : Left g [] s) (c : Call) :
    (c.run g).Ends s (fun _ s' => Leaves g [] s s') (Leaves g [] s ·) := by
  cases c with
  | output name =>
    unfold Call.run withType
    dsimp only
    split
    · next t found =>
      refine ends_bind ((leaves_outputOf left (type?_name found)).imp ?_ fun _ h => h)
      exact fun _ s' leaves => ends_pure leaves
    · exact ends_bind (ends_throw (.refl left))
  | input name =>
    unfold Call.run inputOfName withType
    dsimp only
    split
    · next t found =>
      refine ends_bind ((leaves_inputOf apart left _ (type?_name found)).imp ?_ fun _ h => h.1)
      exact fun _ s' ⟨leaves, _⟩ => ends_pure leaves
    · exact ends_bind (ends_throw (.refl left))
  | parameter owner reserved name type =>
    unfold Call.run
    refine ends_bind ((leaves_parameter apart left owner reserved name type).imp ?_
      fun _ h => h.1)
    exact fun _ s' ⟨leaves, _⟩ => ends_pure leaves

theorem left_answered (apart : InputNamesApart g.schema) (calls : List Call) :
    Left g [] (answered g calls) := by
  unfold answered
  generalize start : ({} : Session) = s
  have left : Left g [] s := start ▸ left_empty g
  clear start
  induction calls generalizing s with
  | nil => exact left
  | cons c rest ih =>
    have leaves := (leaves_call apart left c).state
    exact ih _ leaves.left

/-! ## References -/

/-- Each enum and input type that a registered class of an input type refers to has its class
registered. -/
def NamesRegistered (g : Setting) (s : Session) : Prop :=
  ∀ i, .input i ∈ s.registry.records → ∀ t, g.schema.type? i.graphqlType = some t →
    ∀ u, HoldsType g t u → HasOwnClass u → s.HasClass u

/-- A type is only one of those with a class if something can stand in its way. -/
theorem not_fault_of_sentAs {c : Conversion} (sent : sentAs g t = .ok c) (other : ¬ HasOwnClass t) :
    ¬ Fault g s t := by
  rintro (failed | ⟨kind, -⟩ | ⟨mem, -⟩ | ⟨mem, -⟩ | ⟨own, -⟩)
  · cases sent.symm.trans failed
  · exact other (Or.inl kind)
  · exact other (Or.inr (kind_of_mem_inputFields mem))
  · exact other (Or.inr (kind_of_mem_inputFields mem))
  · exact other own

theorem sentAs_of_isParameterOfField {field : InputValue} {p : Parameter}
    (h : IsParameterOfField g field p) :
    ∃ u c, g.schema.type? field.type.bareName = some u ∧ sentAs g u = .ok c := by
  obtain ⟨-, waiting, parameter⟩ := h
  obtain ⟨u, named, parameter⟩ := except_bind_eq_ok_iff.mp parameter
  obtain ⟨c, sent, -⟩ := except_bind_eq_ok_iff.mp parameter
  exact ⟨u, c, (type?_of_typeNamed named).1, sent⟩

/-- A field of an input type with a class has a parameter. -/
theorem DescribesInput.parameter {i : Input} (h : DescribesInput g t i) {field : InputValue}
    (mem : field ∈ t.inputFields) : ∃ p, IsParameterOfField g field p := by
  have arguments := h.arguments
  generalize t.inputFields = fields, i.arguments = ps at mem arguments
  induction arguments with
  | nil => cases mem
  | cons first _ ih =>
    rcases List.mem_cons.mp mem with rfl | mem
    · exact ⟨_, first⟩
    · exact ih mem

/-- The record of a type is that of its kind. -/
theorem Left.record_of_hasClass (left : Left g [] s) (found : g.schema.type? t.name = some t)
    (has : s.HasClass t) : (t.kind = .enum ∧ t.values.find? isReservedValue = none) ∨
      ∃ i, .input i ∈ s.registry.records ∧ DescribesInput g t i ∧
        ∀ u, HoldsType g t u → Accounted g s [] u := by
  obtain ⟨x, hx, name, type⟩ := has
  have simple := left.others x hx
  cases x with
  | root _ | leaf _ => cases simple
  | enum e =>
    obtain ⟨-, v, foundE, kind, -, free⟩ := left.enum e hx
    rw [show e.graphqlType = t.name from type, found] at foundE
    cases foundE
    exact Or.inl ⟨kind, free⟩
  | input i =>
    obtain ⟨-, v, describes, accounted⟩ := left.input i hx
    have foundI := describes.found
    rw [show i.graphqlType = t.name from type, found] at foundI
    cases foundI
    exact Or.inr ⟨i, hx, describes, accounted⟩

/-- Nothing stands in the way of a class that is registered. -/
theorem Left.not_fault (left : Left g [] s) (found : g.schema.type? t.name = some t)
    (own : HasOwnClass t) (has : s.HasClass t) : ¬ Fault g s t := by
  have described := left.record_of_hasClass found has
  rintro (failed | ⟨kind, reserved⟩ | ⟨mem, reserved⟩ | ⟨mem, none⟩ | ⟨-, mem, name, other⟩)
  · cases (sentAs_of_class own).symm.trans failed
  · rcases described with ⟨-, free⟩ | ⟨i, -, describes, -⟩
    · cases free.symm.trans reserved
    · cases kind.symm.trans describes.kind
  · rcases described with ⟨kind, -⟩ | ⟨i, -, describes, -⟩
    · cases kind.symm.trans (kind_of_mem_inputFields mem)
    · obtain ⟨p, free, -⟩ := describes.parameter mem
      exact free reserved
  · rcases described with ⟨kind, -⟩ | ⟨i, -, describes, -⟩
    · cases kind.symm.trans (kind_of_mem_inputFields mem)
    · obtain ⟨p, isParameter⟩ := describes.parameter mem
      obtain ⟨u, c, known, -⟩ := sentAs_of_isParameterOfField isParameter
      cases none.symm.trans known
  · obtain ⟨x, hx, nameX, type⟩ := has
    cases Registry.eq_of_name_eq mem hx (name.trans nameX.symm)
    exact other type

/-- Nothing stands in the way of types that are all registered. -/
theorem Left.not_doomed (left : Left g [] s) (found : g.schema.type? t.name = some t)
    {c : Conversion} (sent : sentAs g t = .ok c)
    (all : ∀ u, Reaches g t u → HasOwnClass u → s.HasClass u) : ¬ Doomed g s t := by
  rintro ⟨u, reaches, fault⟩
  rcases reaches.cases_tail with rfl | ⟨v, toV, holds⟩
  · by_cases own : HasOwnClass u
    · exact left.not_fault found own (all u .refl own) fault
    · exact not_fault_of_sentAs sent own fault
  · by_cases own : HasOwnClass u
    · exact left.not_fault (type?_of_holds holds) own (all u reaches own) fault
    · obtain ⟨field, mem, foundU⟩ := holds
      have input : v.kind = .input := kind_of_mem_inputFields mem
      rcases left.record_of_hasClass (type?_of_reaches toV found) (all v toV (Or.inr input)) with
        ⟨kind, -⟩ | ⟨i, -, describes, -⟩
      · cases kind.symm.trans input
      · obtain ⟨p, isParameter⟩ := describes.parameter mem
        obtain ⟨w, c, foundW, sentW⟩ := sentAs_of_isParameterOfField isParameter
        cases foundU.symm.trans foundW
        exact not_fault_of_sentAs sentW own fault

/-- What a type reaches is registered, unless something stands in the way. -/
theorem Left.hasClass_of_reaches (left : Left g [] s) (found : g.schema.type? t.name = some t)
    (accounted : Accounted g s [] t) (free : ¬ Doomed g s t) {u : TypeDefinition}
    (reaches : Reaches g t u) (own : HasOwnClass u) : s.HasClass u := by
  have settle : ∀ v, Reaches g t v → HasOwnClass v → Accounted g s [] v → s.HasClass v := by
    intro v toV ownV here
    rcases here ownV with has | ⟨-, waits⟩ | ⟨w, toW, fault⟩
    · exact has
    · cases waits
    · exact absurd ⟨w, toV.trans toW, fault⟩ free
  induction reaches with
  | refl => exact settle t .refl own accounted
  | @tail v u toV holds ih =>
    obtain ⟨field, mem, foundU⟩ := id holds
    have input : v.kind = .input := kind_of_mem_inputFields mem
    rcases left.record_of_hasClass (type?_of_reaches toV found) (ih (Or.inr input)) with
      ⟨kind, -⟩ | ⟨i, -, -, others⟩
    · cases kind.symm.trans input
    · exact settle u (toV.tail holds) own (others u holds)

/-- A type reaches registered types only, exactly if nothing stands in the way. -/
theorem Left.reaches_iff (left : Left g [] s) (found : g.schema.type? t.name = some t)
    {c : Conversion} (sent : sentAs g t = .ok c) (accounted : Accounted g s [] t) :
    (∀ u, Reaches g t u → HasOwnClass u → s.HasClass u) ↔ ¬ Doomed g s t :=
  ⟨left.not_doomed found sent, fun free _ reaches own =>
    left.hasClass_of_reaches found accounted free reaches own⟩

/-- **What is left behind is complete exactly if nothing stands in the way.** After any calls, each
class of an input type has a parameter for each field of its type. All enum and input types that
such classes refer to are registered exactly if none of them reaches a type whose values cannot be
sent; and what a type reaches that a call has resolved is registered exactly if it reaches no such
type. -/
theorem namesRegistered_iff (g : Setting) (apart : InputNamesApart g.schema) (calls : List Call) :
    (∀ i, .input i ∈ (answered g calls).registry.records → ∃ t, DescribesInput g t i) ∧
    (NamesRegistered g (answered g calls) ↔
      ∀ i t, .input i ∈ (answered g calls).registry.records → DescribesInput g t i →
        ¬ Doomed g (answered g calls) t) ∧
    ∀ name t c s, g.schema.type? name = some t →
      (inputOfName g name).outcome (answered g calls) = (.ok c, s) →
      ((∀ u, Reaches g t u → HasOwnClass u → s.HasClass u) ↔ ¬ Doomed g s t) := by
  have left := left_answered apart calls
  refine ⟨fun i hi => ?_, ⟨fun registered i t hi describes => ?_,
    fun free i hi t found u holds own => ?_⟩, fun name t c s found resolved => ?_⟩
  · obtain ⟨-, t, describes, -⟩ := left.input i hi
    exact ⟨t, describes⟩
  · refine left.not_doomed (type?_name describes.found)
      (sentAs_of_class (Or.inr describes.kind)) fun u reaches own => ?_
    have here : (answered g calls).HasClass t :=
      ⟨_, hi, describes.name, (name_of_type? describes.found).symm⟩
    induction reaches with
    | refl => exact here
    | @tail v u toV holds ih =>
      obtain ⟨field, mem, -⟩ := id holds
      have input : v.kind = .input := kind_of_mem_inputFields mem
      rcases left.record_of_hasClass (type?_of_reaches toV (type?_name describes.found))
        (ih (Or.inr input)) with ⟨kind, -⟩ | ⟨j, hj, describesV, -⟩
      · cases kind.symm.trans input
      · exact registered j hj v describesV.found u holds own
  · obtain ⟨-, v, describes, accounted⟩ := left.input i hi
    cases found.symm.trans describes.found
    have here : (answered g calls).HasClass t :=
      ⟨_, hi, describes.name, (name_of_type? found).symm⟩
    exact left.hasClass_of_reaches (type?_name found) (fun _ => Or.inl here)
      (free i t hi describes) (.single holds) own
  · have resolves : (inputOfName g name).Ends (answered g calls)
        (fun _ s' => Left g [] s' ∧ (∃ c, sentAs g t = .ok c) ∧ Accounted g s' [] t)
        fun _ => True := by
      unfold inputOfName withType
      split
      · next u foundU =>
        cases found.symm.trans foundU
        refine (leaves_inputOf apart left _ (type?_name found)).imp ?_ fun _ _ => trivial
        exact fun c s' ⟨leaves, sent, accounted⟩ => ⟨leaves.left, ⟨c, sent⟩, accounted⟩
      · exact ends_throw trivial
    obtain ⟨left', ⟨c', sent⟩, accounted⟩ := resolves.of_ok resolved
    exact left'.reaches_iff (type?_name found) sent accounted

/-! ## A class that refers to an abandoned one -/

/-- Input types that refer to each other, one of them with a field of a reserved name, and input
types that do not refer to those. -/
def tangled : Setting where
  schema := { types := [
    { name := "A", body := .input [{ name := "b", type := .named "B" },
        { name := "serialize", type := .named "Int" }] },
    { name := "B", body := .input [{ name := "a", type := .named "A" }] },
    { name := "C", body := .input [{ name := "d", type := .named "D" }] },
    { name := "D", body := .input [{ name := "n", type := .named "Int" }] },
    { name := "Int", body := .scalar }] }

/-- What the records of a session are for. -/
def kindsAndTypes (s : Session) : List (RecordKind × String × String) :=
  s.registry.records.map fun x => (x.kind, x.name, x.graphqlType)

theorem inputNamesApart_tangled : InputNamesApart tangled.schema := by
  have unaltered : ∀ t ∈ tangled.schema.types, Naming.typeClassName t.name = t.name := by decide
  intro t ht u hu _ _ same
  rwa [unaltered t ht, unaltered u hu] at same

theorem hasClass_of_mem (kind : RecordKind)
    (h : (kind, Naming.typeClassName t.name, t.name) ∈ kindsAndTypes s) : s.HasClass t := by
  obtain ⟨x, hx, same⟩ := List.mem_map.mp h
  exact ⟨x, hx, congrArg (·.2.1) same, congrArg (·.2.2) same⟩

/-- `C` is resolved after `A` has failed, and as all that it reaches is registered, nothing stands
in its way. -/
theorem namesRegistered_iff_tangled : InputNamesApart tangled.schema ∧
    ∃ t s, tangled.schema.type? "C" = some t ∧
      (inputOfName tangled "C").outcome (answered tangled [.input "A"]) =
        (.ok (sentByClass "C"), s) ∧ ¬ Doomed tangled s t := by
  obtain ⟨-, -, resolved⟩ := namesRegistered_iff tangled inputNamesApart_tangled [.input "A"]
  obtain ⟨s, eq, classes⟩ : ∃ s, (inputOfName tangled "C").outcome (answered tangled [.input "A"]) =
      (.ok (sentByClass "C"), s) ∧
      kindsAndTypes s = [(.input, "B", "B"), (.input, "D", "D"), (.input, "C", "C")] :=
    ⟨_, Prod.ext (by cbv) rfl, by cbv⟩
  refine ⟨inputNamesApart_tangled, _, s, rfl, eq, (resolved "C" _ _ s rfl eq).mp ?_⟩
  intro u reaches own
  have known : u.name = "C" ∧ u.inputFields = [{ name := "d", type := .named "D" }] ∨
      u.name = "D" ∧ u.inputFields = [{ name := "n", type := .named "Int" }] ∨
      u.kind = .scalar ∧ u.inputFields = [] := by
    clear own
    induction reaches with
    | refl => exact Or.inl ⟨rfl, rfl⟩
    | tail _ holds ih =>
      obtain ⟨field, mem, found⟩ := holds
      rcases ih with ⟨-, fields⟩ | ⟨-, fields⟩ | ⟨-, fields⟩ <;> rw [fields] at mem
      · cases List.mem_singleton.mp mem
        cases found
        exact Or.inr (Or.inl ⟨rfl, rfl⟩)
      · cases List.mem_singleton.mp mem
        cases found
        exact Or.inr (Or.inr ⟨rfl, rfl⟩)
      · cases mem
  rcases known with ⟨name, -⟩ | ⟨name, -⟩ | ⟨scalar, -⟩
  · exact hasClass_of_mem .input (by rw [name, classes]; decide)
  · exact hasClass_of_mem .input (by rw [name, classes]; decide)
  · simp [HasOwnClass, scalar] at own

/-- The class of `B` is registered while that of `A` is gone through, which fails. -/
theorem kindsAndTypes_tangled :
    kindsAndTypes (answered tangled [.input "A"]) = [(.input, "B", "B")] := by
  cbv

theorem not_hasClass_tangled {t : TypeDefinition} (name : t.name = "A") :
    ¬ (answered tangled [.input "A"]).HasClass t := by
  rintro ⟨x, hx, -, type⟩
  have mem : (x.kind, x.name, x.graphqlType) ∈ kindsAndTypes (answered tangled [.input "A"]) :=
    List.mem_map_of_mem hx
  rw [kindsAndTypes_tangled, List.mem_singleton] at mem
  have : x.graphqlType = "B" := congrArg (·.2.2) mem
  rw [type, name] at this
  exact absurd this (by decide)

/-- What is registered for `B` refers to `A`, which has no class, and resolving `B` is content with
that. -/
theorem abandoned_input : ¬ NamesRegistered tangled (answered tangled [.input "A"]) ∧
    (inputOfName tangled "B").outcome (answered tangled [.input "A"]) =
      (.ok (sentByClass "B"), answered tangled [.input "A"]) ∧
    ∃ t u, tangled.schema.type? "B" = some t ∧ Reaches tangled t u ∧ HasOwnClass u ∧
      ¬ (answered tangled [.input "A"]).HasClass u := by
  have holds : HoldsType tangled
      { name := "B", body := .input [{ name := "a", type := .named "A" }] }
      { name := "A", body := .input [{ name := "b", type := .named "B" },
        { name := "serialize", type := .named "Int" }] } :=
    ⟨{ name := "a", type := .named "A" }, List.mem_cons_self, rfl⟩
  refine ⟨fun registered => ?_, by cbv, _, _, rfl, .single holds, Or.inr rfl,
    not_hasClass_tangled rfl⟩
  have mem : (.input, "B", "B") ∈ kindsAndTypes (answered tangled [.input "A"]) :=
    kindsAndTypes_tangled ▸ List.mem_cons_self
  obtain ⟨x, hx, same⟩ := List.mem_map.mp mem
  cases x with
  | input i =>
    have type : i.graphqlType = "B" := congrArg (·.2.2) same
    have found : tangled.schema.type? i.graphqlType = some
        { name := "B", body := .input [{ name := "a", type := .named "A" }] } := by
      rw [type]
      rfl
    exact not_hasClass_tangled rfl (registered i hx _ found _ holds (Or.inr rfl))
  | root _ | leaf _ | enum _ => cases same

end QueryShape.Generation
