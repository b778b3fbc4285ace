import QueryShape.Generation.Plan

/-!
# What plans do

A plan in steps is read off its parts: `Plan.bind_eq_ok_iff` says when a plan that goes on with
another has a result, and `Plan.steps_bind` which steps it has then.
-/

namespace QueryShape.Generation

variable {α β : Type}

/-! ## Results -/

theorem except_bind_eq_ok_iff {x : Except ε α} {next : α → Except ε β} {b : β} :
    (x >>= next) = .ok b ↔ ∃ a, x = .ok a ∧ next a = .ok b := by
  cases x <;> simp [Bind.bind, Except.bind]

theorem except_pure_eq_ok_iff {a b : α} : (pure a : Except ε α) = .ok b ↔ a = b := by
  simp [pure, Except.pure]

/-- Each result of a list comes from an item. -/
theorem mem_of_mapM {f : α → Except ε β} {items : List α} {results : List β}
    (h : items.mapM f = .ok results) {b : β} (mem : b ∈ results) : ∃ a ∈ items, f a = .ok b := by
  induction items generalizing results with
  | nil =>
    rw [List.mapM_nil] at h
    cases h
    exact absurd mem List.not_mem_nil
  | cons first rest ih =>
    rw [List.mapM_cons] at h
    obtain ⟨c, one, h⟩ := except_bind_eq_ok_iff.mp h
    obtain ⟨cs, more, h⟩ := except_bind_eq_ok_iff.mp h
    cases h
    rcases List.mem_cons.mp mem with rfl | mem
    · exact ⟨first, List.mem_cons_self, one⟩
    · obtain ⟨a, ha, hb⟩ := ih more mem
      exact ⟨a, List.mem_cons_of_mem _ ha, hb⟩

/-- What each result keeps of its item, the results keep of the items. -/
theorem map_eq_of_mapM {f : α → Except ε β} {items : List α} {results : List β} {kept : β → γ}
    {given : α → γ} (h : items.mapM f = .ok results)
    (each : ∀ a b, f a = .ok b → kept b = given a) :
    results.map kept = items.map given := by
  induction items generalizing results with
  | nil =>
    rw [List.mapM_nil] at h
    cases h
    rfl
  | cons first rest ih =>
    rw [List.mapM_cons] at h
    obtain ⟨b, one, h⟩ := except_bind_eq_ok_iff.mp h
    obtain ⟨bs, more, h⟩ := except_bind_eq_ok_iff.mp h
    cases h
    rw [List.map_cons, List.map_cons, each first b one, ih more]

/-- Items with results have a list of results. -/
theorem exists_mapM {f : α → Except ε β} {items : List α} (each : ∀ a ∈ items, ∃ b, f a = .ok b) :
    ∃ results, items.mapM f = .ok results := by
  induction items with
  | nil => exact ⟨[], rfl⟩
  | cons first rest ih =>
    obtain ⟨⟨b, one⟩, others⟩ := List.forall_mem_cons.mp each
    obtain ⟨bs, more⟩ := ih others
    rw [List.mapM_cons, one, more]
    exact ⟨b :: bs, rfl⟩

namespace Plan

/-! ## Plans that end at once -/

@[simp] theorem result_pure (a : α) : (Pure.pure a : Plan α).result = .ok a := rfl

@[simp] theorem steps_pure (a : α) : (Pure.pure a : Plan α).steps = [] := rfl

@[simp] theorem result_fail (e : GenerationError) : (fail e : Plan α).result = .error e := rfl

@[simp] theorem steps_fail (e : GenerationError) : (fail e : Plan α).steps = [] := rfl

@[simp] theorem result_step (s : Step) : (step s).result = .ok () := rfl

@[simp] theorem steps_step (s : Step) : (step s).steps = [s] := rfl

@[simp] theorem fail_bind (e : GenerationError) (next : α → Plan β) :
    (fail e : Plan α) >>= next = fail e := rfl

@[simp] theorem ofExcept_error (e : GenerationError) :
    (ofExcept (.error e) : Plan α) = fail e := rfl

@[simp] theorem ofExcept_ok (a : α) : (ofExcept (.ok a) : Plan α) = Pure.pure a := rfl

theorem ofExcept_bind (x : Except GenerationError α) (next : α → Except GenerationError β) :
    ofExcept (x >>= next) = ofExcept x >>= fun a => ofExcept (next a) := by
  cases x <;> rfl

/-! ## Plans in parts -/

/-- A plan that goes on with another has the result of that one, if it has one itself. -/
theorem bind_eq_ok_iff {p : Plan α} {next : α → Plan β} {b : β} :
    (p >>= next).result = .ok b ↔ ∃ a, p.result = .ok a ∧ (next a).result = .ok b := by
  obtain ⟨steps, result⟩ := p
  cases result <;> simp [Bind.bind, Plan.bind]

/-- The steps of a plan come before those of the plan that it goes on with. -/
theorem steps_bind {p : Plan α} {next : α → Plan β} {a : α} (h : p.result = .ok a) :
    (p >>= next).steps = p.steps ++ (next a).steps := by
  obtain ⟨steps, result⟩ := p
  subst h
  rfl

/-- A plan that fails has no more steps. -/
theorem steps_bind_error {p : Plan α} {next : α → Plan β} {e : GenerationError}
    (h : p.result = .error e) : (p >>= next).steps = p.steps := by
  obtain ⟨steps, result⟩ := p
  subst h
  rfl

theorem mem_steps_bind {p : Plan α} {next : α → Plan β} {s : Step} :
    s ∈ (p >>= next).steps ↔ s ∈ p.steps ∨ ∃ a, p.result = .ok a ∧ s ∈ (next a).steps := by
  cases h : p.result with
  | error e => simp [steps_bind_error h]
  | ok a => simp [steps_bind h]

theorem ofExcept_bind_eq_ok_iff {x : Except GenerationError α} {next : α → Plan β} {b : β} :
    (ofExcept x >>= next).result = .ok b ↔ ∃ a, x = .ok a ∧ (next a).result = .ok b :=
  bind_eq_ok_iff

end Plan

end QueryShape.Generation
