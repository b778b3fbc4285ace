import QueryShape.Proofs.Generation.Session

/-!
# What resolving inputs does to a session

A parameter depends on the class of its bare type only if that class is not being gone through; so
what a registered class depends on is registered before it, however input types refer to each
other. `ends_inputClass` and the theorems next to it say so for every part of the way, also where it
fails.
-/

namespace QueryShape.Generation

open Document Record Run Session

/-! ## Classes that are sent -/

/-- The class of an input or enum type is registered under the name. -/
def Session.HasSent (s : Session) (d : String) : Prop :=
  ∃ x ∈ s.registry.records, x.name = d ∧ (x.kind = .input ∨ x.kind = .enum)

theorem Session.HasSent.of_grows {s s' : Session} {d : String} (h : s.HasSent d)
    (g : s.Grows s') : s'.HasSent d := by
  obtain ⟨x, hx, hn, kind⟩ := h
  obtain ⟨y, hy, grown⟩ := g.registry.records x hx
  exact ⟨y, hy, grown.name_eq.trans hn, grown.kind_eq ▸ kind⟩

/-- What parameters depend on is registered. -/
def Session.HasAll (s : Session) (parameters : List Parameter) : Prop :=
  ∀ p ∈ parameters, ∀ d, p.dependency? = some d → s.HasSent d

variable {g : Setting} {s : Session} {P : Record → Prop}

/-! ## Scalars and enums -/

theorem ends_scalarInput (closed : Closed P) (sound : s.Sound P) (scalar : String) :
    (scalarInput g scalar).run.Ends s
    (fun c s' => s.Leads P s' ∧ c.dependency? = none) (s.Leads P ·) := by
  have shape : (∀ r, .leaf r ∉ (scalarInput g scalar).steps) ∧
      ∀ c, (scalarInput g scalar).result = .ok c → c.dependency? = none := by
    unfold scalarInput
    split
    · unfold convertedBy
      split
      · exact ⟨fun r => List.not_mem_nil, nofun⟩
      · refine ⟨fun r hr => ?_, fun c hc => ?_⟩
        · cases List.mem_singleton.mp hr
        · cases hc
          rfl
    · refine ⟨fun r => List.not_mem_nil, fun c hc => ?_⟩
      cases hc
      rfl
  refine (ends_plan closed sound (ordered_of_no_leaf shape.1)
    fun r hr => absurd hr (shape.1 r)).imp ?_
    fun _ h => h
  rintro c s' ⟨leads, ok, -⟩
  exact ⟨leads, shape.2 c ok⟩

theorem ends_enumClass (closed : Closed P) (sound : s.Sound P) (t : TypeDefinition) :
    (enumClass t).run.Ends s
    (fun name s' => s.Leads P s' ∧ s'.HasSent name) (s.Leads P ·) := by
  have steps : (enumClass t).steps = [.enum t] := rfl
  refine (ends_plan (p := enumClass t) closed sound ?_ ?_).imp ?_ fun _ h => h
  · rw [steps]
    exact ⟨trivial, trivial⟩
  · simp [steps]
  · rintro name s' ⟨leads, ok, did⟩
    cases ok
    obtain ⟨e, he, hn, -⟩ := did (.enum t) (steps ▸ List.mem_cons_self)
    exact ⟨leads, .enum e, he, hn, Or.inr rfl⟩

/-! ## Input types -/

mutual

/-- **The class of an input type is registered, unless it is being gone through.** -/
theorem ends_inputClass {s : Session} (closed : Closed P) (sound : s.Sound P)
    (pending : List String) (t : TypeDefinition)
    (ht : t ∈ g.schema.types) : (inputClass g pending t ht).Ends s
    (fun name s' => s.Leads P s' ∧ (name ∈ pending ∨ s'.HasSent name)) (s.Leads P ·) := by
  rw [inputClass]
  dsimp only
  split
  · next isPending => exact ends_pure ⟨.refl sound, Or.inl isPending⟩
  · next new =>
    refine ends_bind (ends_get ?_)
    split
    · next known =>
      obtain ⟨i, hi, hn⟩ := sound.inputs _ known
      exact ends_pure ⟨.refl sound, Or.inr ⟨.input i, hi, hn, Or.inl rfl⟩⟩
    · have := unvisited_lt ht new
      refine ends_bind ((ends_inputParametersOf closed sound _ _ _).imp ?_ fun _ h => h)
      rintro arguments s₁ ⟨leads, has⟩
      refine ends_bind ((ends_register_leads leads.sound (closed.input _) ?_ ?_).imp ?_
        fun _ h => leads.trans h)
      · exact List.nodup_nil
      · intro d hd
        obtain ⟨p, hp, hpd⟩ := List.mem_filterMap.mp (NameSet.mem_ofList.mp hd)
        obtain ⟨x, hx, hn, kind⟩ := has p hp d hpd
        exact ⟨x, hx, hn, mayNeed_of_input rfl kind⟩
      · rintro - s₂ ⟨next, same, mem⟩
        have both := leads.trans next
        refine ends_bind (ends_modify (ends_pure ⟨⟨⟨both.sound.registry, both.sound.records,
          both.sound.enums, ?_⟩,
          both.grows.registry, both.grows.imports⟩, Or.inr ⟨_, mem, rfl, Or.inl rfl⟩⟩))
        intro name hn
        rcases List.mem_append.mp hn with hn | hn
        · exact both.sound.inputs name hn
        · rw [List.mem_singleton.mp hn]
          exact ⟨_, mem, rfl⟩
termination_by (unvisited g.schema pending, 0)
decreasing_by
  exact Prod.Lex.left _ _ this

/-- What the parameters of the fields of an input type depend on is registered. -/
theorem ends_inputParametersOf {s : Session} (closed : Closed P) (sound : s.Sound P)
    (pending : List String) (owner : String)
    (fields : List InputValue) : (inputParametersOf g pending owner fields).Ends s
    (fun ps s' => s.Leads P s' ∧ s'.HasAll ps) (s.Leads P ·) := by
  cases fields with
  | nil =>
    rw [inputParametersOf]
    exact ends_pure ⟨.refl sound, fun _ hp => absurd hp List.not_mem_nil⟩
  | cons field rest =>
    rw [inputParametersOf]
    refine ends_bind ((ends_parameter closed sound _ _ _ _ _).imp ?_ fun _ h => h)
    rintro p s₁ ⟨leads, has⟩
    refine ends_bind ((ends_inputParametersOf closed leads.sound _ _ rest).imp ?_
      fun _ h => leads.trans h)
    rintro ps s₂ ⟨next, hasRest⟩
    refine ends_pure ⟨leads.trans next, fun q hq d hd => ?_⟩
    rcases List.mem_cons.mp hq with rfl | hq
    · exact (has d hd).of_grows next.grows
    · exact hasRest q hq d hd
termination_by (unvisited g.schema pending, fields.length + 2)

/-- What a parameter depends on is registered. -/
theorem ends_parameter {s : Session} (closed : Closed P) (sound : s.Sound P) (pending : List String)
    (owner : String)
    (reserved : List String) (graphqlName : String) (type : TypeRef) :
    (parameter g pending owner reserved graphqlName type).Ends s
    (fun p s' => s.Leads P s' ∧ ∀ d, p.dependency? = some d → s'.HasSent d) (s.Leads P ·) := by
  rw [parameter]
  dsimp only
  split
  · exact ends_bind (ends_throw (.refl sound))
  · split
    · next t found =>
      refine ends_bind ((ends_inputOf closed sound _ _ _).imp ?_ fun _ h => h)
      rintro c s' ⟨leads, has⟩
      refine ends_pure ⟨leads, fun d hd => ?_⟩
      obtain ⟨hc, notPending⟩ := Option.filter_eq_some_iff.mp hd
      exact (has d hc).resolve_left (by simpa using notPending)
    · exact ends_throw (.refl sound)
termination_by (unvisited g.schema pending, 2)

/-- What the values of a type are sent by is registered, unless it is being gone through. -/
theorem ends_inputOf {s : Session} (closed : Closed P) (sound : s.Sound P) (pending : List String)
    (t : TypeDefinition)
    (ht : t ∈ g.schema.types) : (inputOf g pending t ht).Ends s
    (fun c s' => s.Leads P s' ∧ ∀ d, c.dependency? = some d → d ∈ pending ∨ s'.HasSent d)
    (s.Leads P ·) := by
  rw [inputOf]
  split
  · refine (ends_scalarInput closed sound t.name).imp ?_ fun _ h => h
    rintro c s' ⟨leads, none⟩
    refine ⟨leads, fun d hd => ?_⟩
    rw [none] at hd
    cases hd
  · refine ends_bind ((ends_enumClass closed sound t).imp ?_ fun _ h => h)
    rintro name s' ⟨leads, has⟩
    refine ends_pure ⟨leads, fun d hd => ?_⟩
    cases hd
    exact Or.inr has
  · refine ends_bind ((ends_inputClass closed sound pending t ht).imp ?_ fun _ h => h)
    rintro name s' ⟨leads, has⟩
    refine ends_pure ⟨leads, fun d hd => ?_⟩
    cases hd
    exact has
  · exact ends_throw (.refl sound)
termination_by (unvisited g.schema pending, 1)

end

end QueryShape.Generation
