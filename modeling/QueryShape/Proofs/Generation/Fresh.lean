import QueryShape.Proofs.Generation.Needs
import QueryShape.Proofs.Schema.Fields
import QueryShape.Proofs.Schema.Standard

/-!
# Inputs in a fresh session

What a settled session has registered for inputs, a session that has registered less can register as
well, wherever input types that refer to each other are entered.

* `inputNamesApart_of_sound`: input types of sound schemas have classes of their own.
* `replays_inputClass` and the theorems next to it: no step of resolving inputs fails in a session
  within a settled one that has the class.
-/

namespace QueryShape.Generation

open Document Record Run Session

/-- No two input types of the schema have one class. -/
def InputNamesApart (s : Schema) : Prop :=
  ∀ t ∈ s.types, ∀ u ∈ s.types, t.kind = .input → u.kind = .input →
    Naming.typeClassName t.name = Naming.typeClassName u.name → t.name = u.name

/-- A name that is not reserved is that of its class. -/
theorem typeClassName_of_isFreeName {name : String} (free : Schema.isFreeName name = true) :
    Naming.typeClassName name = name := by
  unfold Naming.typeClassName
  split
  · next rest eq =>
    unfold Schema.isFreeName at free
    rw [eq] at free
    cases free
  · rfl

/-- **Sound schemas keep the classes of input types apart**: only names of introspection are altered
for a class, and its types are not sent. -/
theorem inputNamesApart_of_sound {s : Schema} (made : s.IsMade) (sound : s.isSound = true) :
    InputNamesApart s := by
  have unaltered : ∀ t ∈ s.types, t.kind = .input → Naming.typeClassName t.name = t.name := by
    intro t ht kind
    have named := Schema.typeSound_of_mem sound ht
    unfold Schema.typeSound at named
    rcases Bool.or_eq_true _ _ |>.mp (Bool.and_eq_true _ _ |>.mp named).1 with isStandard | free
    · obtain ⟨standard, mem, same⟩ := List.any_eq_true.mp isStandard
      have eq := made.keepsStandard t ht standard
        (beq_iff_eq.mp same ▸ Schema.standardType?_of_mem_introspectionTypes mem)
      have none : ∀ standard ∈ Schema.introspectionTypes, standard.kind ≠ .input := by decide
      exact absurd kind (eq ▸ none standard mem)
    · exact typeClassName_of_isFreeName free
  intro t ht u hu kind kind' same
  rwa [unaltered t ht kind, unaltered u hu kind'] at same

/-! ## Sessions with less -/

/-- The session `f` has classes that `u` has too, and remembers those of enums and inputs. The
classes in `pending` are still to come. -/
structure Within (u : Session) (pending : List String) (f : Session) : Prop where
  like : ∀ x ∈ f.registry.records, u.registry.HasLike x
  enums : ∀ e, .enum e ∈ f.registry.records → e.graphqlType ∈ f.enums
  inputs : ∀ i, .input i ∈ f.registry.records → i.name ∈ f.inputs
  waiting : ∀ name ∈ pending, u.HasInput name ∧ name ∉ f.registry.names

variable {g : Setting} {u f f' : Session} {pending : List String}

theorem Within.names (h : Within u pending f) : f.registry.names ⊆ u.registry.names := by
  intro name hn
  obtain ⟨x, hx, rfl⟩ := Registry.mem_names.mp hn
  obtain ⟨y, hy, name, -⟩ := h.like x hx
  exact Registry.mem_names.mpr ⟨y, hy, name⟩

/-- The record of the name is of the kind and type that it has in the larger session. -/
theorem Within.eq_of_name (h : Within u pending f) {x y : Record} (hx : x ∈ f.registry.records)
    (hy : y ∈ u.registry.records) (name : x.name = y.name) :
    x.kind = y.kind ∧ x.graphqlType = y.graphqlType := by
  obtain ⟨z, hz, same, kind, type⟩ := h.like x hx
  cases Registry.eq_of_name_eq hz hy (same.trans name)
  exact ⟨kind.symm, type.symm⟩

/-- The name of an enum class is free if the enum is not remembered. -/
theorem Within.free_of_hasEnum (h : Within u pending f) {type : String} (has : u.HasEnum type)
    (new : type ∉ f.enums) : Naming.typeClassName type ∉ f.registry.names := by
  intro taken
  obtain ⟨x, hx, name⟩ := Registry.mem_names.mp taken
  obtain ⟨e, he, nameE, typeE⟩ := has
  obtain ⟨kind, sameE⟩ := h.eq_of_name hx he (name.trans nameE.symm)
  cases x with
  | enum e' =>
    have sameType : e'.graphqlType = type := sameE.trans typeE
    exact new (sameType ▸ h.enums e' hx)
  | root | leaf | input => cases kind

/-- The name of an input class is free if it is not remembered. -/
theorem Within.free_of_hasInput (h : Within u pending f) {name : String} (has : u.HasInput name)
    (new : name ∉ f.inputs) : name ∉ f.registry.names := by
  intro taken
  obtain ⟨x, hx, nameX⟩ := Registry.mem_names.mp taken
  obtain ⟨i, hi, nameI⟩ := has
  obtain ⟨kind, -⟩ := h.eq_of_name hx hi (nameX.trans nameI.symm)
  cases x with
  | input i' => exact new (nameX ▸ h.inputs i' hx)
  | root | leaf | enum => cases kind

/-- A class of the larger session is added and remembered, and no other class waits for its name. -/
theorem Within.append {all : List String} {x : Record} (h : Within u all f)
    (eq : f'.registry.records = f.registry.records ++ [x]) (like : u.registry.HasLike x)
    (enums : ∀ type, type ∈ f.enums ∨ (∃ e, x = .enum e ∧ e.graphqlType = type) →
      type ∈ f'.enums)
    (inputs : ∀ name, name ∈ f.inputs ∨ (∃ i, x = .input i ∧ i.name = name) → name ∈ f'.inputs)
    (waiting : ∀ name ∈ pending, name ∈ all ∧ name ≠ x.name) : Within u pending f' := by
  refine ⟨fun y hy => ?_, fun e he => enums _ ?_, fun i hi => inputs _ ?_, fun name hn => ?_⟩
  · rcases List.mem_append.mp (eq ▸ hy) with hy | hy
    · exact h.like y hy
    · exact List.mem_singleton.mp hy ▸ like
  · rcases List.mem_append.mp (eq ▸ he) with he | he
    · exact Or.inl (h.enums e he)
    · exact Or.inr ⟨e, (List.mem_singleton.mp he).symm, rfl⟩
  · rcases List.mem_append.mp (eq ▸ hi) with hi | hi
    · exact Or.inl (h.inputs i hi)
    · exact Or.inr ⟨i, (List.mem_singleton.mp hi).symm, rfl⟩
  · obtain ⟨among, other⟩ := waiting name hn
    obtain ⟨has, free⟩ := h.waiting name among
    refine ⟨has, ?_⟩
    rw [Registry.names_of_append eq, List.mem_append, List.mem_singleton]
    exact not_or.mpr ⟨free, other⟩

/-- A session within the larger one gets more classes of enum and input types from it. -/
structure Replays (u : Session) (pending : List String) (f f' : Session) : Prop where
  within : Within u pending f'
  adds : f.AddsOthers f'

theorem Replays.refl (h : Within u pending f) : Replays u pending f f := ⟨h, .of_eq rfl⟩

theorem Replays.trans {a b c : Session} (hab : Replays u pending a b)
    (hbc : Replays u pending b c) : Replays u pending a c := ⟨hbc.within, hab.adds.trans hbc.adds⟩

theorem Replays.of_sameClasses (h : Within u pending f) (same : f.SameClasses f') :
    Replays u pending f f' := by
  refine ⟨⟨?_, ?_, ?_, ?_⟩, .of_eq same.registry⟩
  · exact same.registry ▸ h.like
  · rw [same.registry, same.enums]
    exact h.enums
  · rw [same.registry, same.inputs]
    exact h.inputs
  · rw [same.registry]
    exact h.waiting

/-! ## Enums -/

/-- The class of an enum type can be registered where the larger session has it. -/
theorem replays_registerEnum (settled : Settled g [] u) (within : Within u pending f)
    {t : TypeDefinition} (found : g.schema.type? t.name = some t) (has : u.HasEnum t.name) :
    (registerEnum t).Ends f (fun _ f' => Replays u pending f f') fun _ => False := by
  obtain ⟨e, he, nameE, typeE⟩ := id has
  unfold registerEnum
  refine ends_bind (ends_get ?_)
  split
  · exact ends_pure (.refl within)
  · next new =>
    refine ends_bind (ends_pure ?_)
    obtain ⟨t', found', unreserved⟩ := settled.enums e he
    rw [typeE, found] at found'
    cases found'
    rw [unreserved]
    refine ends_bind ((ends_register_of_free (within.free_of_hasEnum has new)).imp ?_ fun _ h => h)
    rintro - f₁ ⟨eq, same⟩
    refine ends_modify ⟨within.append eq ⟨.enum e, he, nameE, rfl, typeE⟩ ?_ ?_ ?_,
      .of_append eq rfl⟩
    · rintro type (old | ⟨-, ⟨⟩, rfl⟩)
      · exact List.mem_append_left _ (same.enums ▸ old)
      · exact List.mem_append_right _ List.mem_cons_self
    · rintro name (old | ⟨-, ⟨⟩, -⟩)
      exact same.inputs ▸ old
    · intro name hn
      obtain ⟨⟨i, hi, nameI⟩, -⟩ := within.waiting name hn
      refine ⟨hn, fun taken => ?_⟩
      have sameName : (Record.input i).name = (Record.enum e).name :=
        (nameI.trans taken).trans nameE.symm
      cases Registry.eq_of_name_eq hi he sameName

/-! ## Input types -/

mutual

/-- **The class of an input type can be registered where the larger session has it.** -/
theorem replays_inputClass {f : Session} {pending : List String} (settled : Settled g [] u)
    (apart : InputNamesApart g.schema) (within : Within u pending f) {t : TypeDefinition}
    (ht : t ∈ g.schema.types) (found : g.schema.type? t.name = some t) (kind : t.kind = .input)
    (has : u.HasInput (Naming.typeClassName t.name)) : (inputClass g pending t ht).Ends f
    (fun name f' => name = Naming.typeClassName t.name ∧ Replays u pending f f')
    fun _ => False := by
  rw [inputClass]
  dsimp only
  split
  · exact ends_pure ⟨rfl, .refl within⟩
  · next new =>
    refine ends_bind (ends_get ?_)
    split
    · exact ends_pure ⟨rfl, .refl within⟩
    · next unknown =>
      obtain ⟨i, hi, nameI⟩ := id has
      obtain ⟨t', found', kind', nameT, fields⟩ := settled.inputs i hi
      have typeI := (name_of_type? found').symm
      -- The larger session has the class for this type, not for another of its class name.
      have sameType : t'.name = t.name := apart t' (List.mem_of_find?_eq_some found') t ht kind'
        kind (nameT.symm.trans nameI)
      rw [typeI, sameType, found] at found'
      cases found'
      have inside : Within u (Naming.typeClassName t.name :: pending) f :=
        ⟨within.like, within.enums, within.inputs, List.forall_mem_cons.mpr
          ⟨⟨has, within.free_of_hasInput has unknown⟩, within.waiting⟩⟩
      have := unvisited_lt ht new
      refine ends_bind ((replays_inputParametersOf settled apart inside _ _ fields).imp ?_
        fun _ h => h)
      rintro arguments f₁ ⟨within₁, adds₁⟩
      obtain ⟨-, free⟩ := within₁.waiting _ List.mem_cons_self
      refine ends_bind ((ends_register_of_free free).imp ?_ fun _ h => h)
      rintro - f₂ ⟨eq, same⟩
      refine ends_bind (ends_modify (ends_pure ⟨rfl, within₁.append eq
        ⟨.input i, hi, nameI, rfl, typeI⟩ ?_ ?_ ?_, adds₁.trans (.of_append eq rfl)⟩))
      · rintro type (old | ⟨-, ⟨⟩, -⟩)
        exact same.enums ▸ old
      · rintro name (old | ⟨-, ⟨⟩, rfl⟩)
        · exact List.mem_append_left _ (same.inputs ▸ old)
        · exact List.mem_append_right _ List.mem_cons_self
      · intro name hn
        refine ⟨List.mem_cons_of_mem _ hn, ?_⟩
        rintro rfl
        exact new hn
termination_by (unvisited g.schema pending, 0)
decreasing_by
  exact Prod.Lex.left _ _ this

/-- What the fields of an input type need can be registered. -/
theorem replays_inputParametersOf {f : Session} {pending : List String} (settled : Settled g [] u)
    (apart : InputNamesApart g.schema) (within : Within u pending f) (owner : String)
    (fields : List InputValue)
    (sendable : ∀ field ∈ fields, Sendable g u [] inputParameters field.name field.type) :
    (inputParametersOf g pending owner fields).Ends f (fun _ f' => Replays u pending f f')
    fun _ => False := by
  cases fields with
  | nil =>
    rw [inputParametersOf]
    exact ends_pure (.refl within)
  | cons field rest =>
    rw [inputParametersOf]
    obtain ⟨one, others⟩ := List.forall_mem_cons.mp sendable
    refine ends_bind ((replays_parameter settled apart within _ one).imp ?_ fun _ h => h)
    rintro p f₁ ⟨-, first⟩
    refine ends_bind ((replays_inputParametersOf settled apart first.within _ rest others).imp ?_
      fun _ h => h)
    exact fun ps f₂ next => ends_pure (first.trans next)
termination_by (unvisited g.schema pending, fields.length + 2)

/-- What can be sent in the larger session has its parameter. -/
theorem replays_parameter {f : Session} {pending reserved : List String} {name : String}
    {type : TypeRef} (settled : Settled g [] u) (apart : InputNamesApart g.schema)
    (within : Within u pending f) (owner : String) (sendable : Sendable g u [] reserved name type) :
    (parameter g pending owner reserved name type).Ends f
    (fun p f' => parameterFor g pending name type = .ok p ∧ Replays u pending f f')
    fun _ => False := by
  obtain ⟨free, t, c, found, sent, sends⟩ := sendable
  rw [parameter]
  dsimp only
  rw [if_neg free]
  split
  · next t' found' =>
    rw [found] at found'
    cases found'
    refine ends_bind ((replays_inputOf settled apart within _ (type?_name found) sent sends).imp ?_
      fun _ h => h)
    rintro c' f' ⟨rfl, replays⟩
    exact ends_pure ⟨parameterFor_eq found sent, replays⟩
  · next none =>
    rw [found] at none
    cases none
termination_by (unvisited g.schema pending, 2)

/-- The class that values are sent by in the larger session can be registered. -/
theorem replays_inputOf {f : Session} {pending : List String} (settled : Settled g [] u)
    (apart : InputNamesApart g.schema) (within : Within u pending f) {t : TypeDefinition}
    (ht : t ∈ g.schema.types) (found : g.schema.type? t.name = some t) {c : Conversion}
    (sent : sentAs g t = .ok c) (sends : u.Sends [] t) : (inputOf g pending t ht).Ends f
    (fun c' f' => c' = c ∧ Replays u pending f f') fun _ => False := by
  rw [inputOf]
  split
  · next kind =>
    rw [sentAs_of_scalar kind] at sent
    refine (ends_scalarInput_run g t.name).imp ?_ ?_
    · rintro c' f' ⟨sent', same⟩
      exact ⟨Except.ok.inj (sent'.symm.trans sent), .of_sameClasses within same⟩
    · rintro f' ⟨-, e, failed⟩
      cases failed.symm.trans sent
  · next kind =>
    rw [sentAs_of_class (Or.inl kind)] at sent
    refine ends_bind (ends_enumClass_run ((replays_registerEnum settled within found
      (sends.enum kind)).imp ?_ fun _ h => h))
    exact fun _ f' replays => ends_pure ⟨Except.ok.inj sent, replays⟩
  · next kind =>
    rw [sentAs_of_class (Or.inr kind)] at sent
    have has := (sends.input kind).resolve_right List.not_mem_nil
    refine ends_bind ((replays_inputClass settled apart within ht found kind has).imp ?_
      fun _ h => h)
    rintro name f' ⟨rfl, replays⟩
    exact ends_pure ⟨Except.ok.inj sent, replays⟩
  · next notScalar notEnum notInput =>
    rcases kind_of_sentAs sent with kind | kind | kind
    · exact absurd kind notScalar
    · exact absurd kind notEnum
    · exact absurd kind notInput
termination_by (unvisited g.schema pending, 1)

end

end QueryShape.Generation
