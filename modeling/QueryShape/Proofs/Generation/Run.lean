import QueryShape.Generation.Session

/-!
# Reasoning about runs

`x.Ends s done failed` says what is left of a run that starts in the state `s`: a result and a state
with `done`, or a state with `failed` if it fails. The rules go along the parts of a run.

`x.Follows s f done` says that what the run does from `s` it can do from `f` as well: if it has a
result from `s`, it has the same from `f`, and `done` holds of the two states.
-/

namespace QueryShape.Generation

variable {α β : Type}

/-- What a run ends with from a state: its result, and the state that it leaves. -/
def Run.outcome (x : Run α) (s : Session) : Except GenerationError α × Session := x.run.run s

/-- From the state, the run has a result and leaves a state for which `done` holds, or it fails and
leaves one for which `failed` holds. -/
def Run.Ends (x : Run α) (s : Session) (done : α → Session → Prop) (failed : Session → Prop) :
    Prop :=
  match x.outcome s with
  | (.ok a, s') => done a s'
  | (.error _, s') => failed s'

namespace Run

variable {s : Session} {done : α → Session → Prop} {failed : Session → Prop}

/-! ## Rules -/

theorem Ends.imp {x : Run α} {done' : α → Session → Prop} {failed' : Session → Prop}
    (h : x.Ends s done failed) (hd : ∀ a s', done a s' → done' a s')
    (hf : ∀ s', failed s' → failed' s') : x.Ends s done' failed' := by
  unfold Ends at *
  split at h
  · exact hd _ _ h
  · exact hf _ h

theorem Ends.of_ok {x : Run α} {a : α} {s' : Session} (h : x.Ends s done failed)
    (eq : x.outcome s = (.ok a, s')) : done a s' := by
  unfold Ends at h
  rwa [eq] at h

theorem Ends.of_error {x : Run α} {e : GenerationError} {s' : Session}
    (h : x.Ends s done failed) (eq : x.outcome s = (.error e, s')) : failed s' := by
  unfold Ends at h
  rwa [eq] at h

/-- What holds of the state that a run leaves, whether it fails or not. -/
theorem Ends.state {x : Run α} (h : x.Ends s (fun _ => failed) failed) :
    failed (x.outcome s).2 := by
  rcases eq : x.outcome s with ⟨e | a, s'⟩
  · exact h.of_error eq
  · exact h.of_ok eq

theorem ends_pure {a : α} (h : done a s) : (pure a : Run α).Ends s done failed := h

theorem ends_throw {e : GenerationError} (h : failed s) :
    (throw e : Run α).Ends s done failed := h

theorem outcome_bind (x : Run α) (next : α → Run β) (s : Session) :
    (x >>= next).outcome s = match x.outcome s with
      | (.ok a, s') => (next a).outcome s'
      | (.error e, s') => (.error e, s') := by
  have step : (x >>= next).outcome s =
      (ExceptT.bindCont next (x.outcome s).1).run (x.outcome s).2 := rfl
  rw [step]
  rcases x.outcome s with ⟨_ | a, s'⟩ <;> rfl

theorem ends_bind {x : Run α} {next : α → Run β} {done : β → Session → Prop}
    (h : x.Ends s (fun a s' => (next a).Ends s' done failed) failed) :
    (x >>= next).Ends s done failed := by
  unfold Ends at *
  rw [outcome_bind]
  rcases hx : x.outcome s with ⟨_ | a, s'⟩ <;>
    · rw [hx] at h
      exact h

theorem ends_get {done : Session → Session → Prop} (h : done s s) :
    (get : Run Session).Ends s done failed := h

theorem ends_modify {f : Session → Session} {done : Unit → Session → Prop} (h : done () (f s)) :
    (modify f : Run Unit).Ends s done failed := h

/-! ## Going through lists -/

/-- What each item does to an invariant, going through all items does. -/
theorem ends_forM {f : α → Run Unit} {items : List α} (keeps : List α → Session → Prop)
    (start : keeps [] s)
    (step : ∀ before a s', before ++ [a] <+: items → keeps before s' →
      (f a).Ends s' (fun _ => keeps (before ++ [a])) failed) :
    (items.forM f).Ends s (fun _ => keeps items) failed := by
  suffices ∀ rest before s', before ++ rest = items → keeps before s' →
      (rest.forM f).Ends s' (fun _ => keeps items) failed from this items [] s rfl start
  intro rest
  induction rest with
  | nil =>
    rintro before s' rfl h
    rw [List.append_nil]
    exact ends_pure h
  | cons a rest ih =>
    rintro before s' rfl h
    refine ends_bind ((step before a s' ⟨rest, by simp⟩ h).imp (fun _ s'' h => ?_)
      fun _ h => h)
    exact ih (before ++ [a]) s'' (by simp) h

/-- The results of all items keep what the result of each item adds to. -/
theorem ends_mapM {f : α → Run β} {items : List α} (keeps : List β → Session → Prop)
    (start : keeps [] s)
    (step : ∀ results a s', keeps results s' →
      (f a).Ends s' (fun b => keeps (results ++ [b])) failed) :
    (items.mapM f).Ends s keeps failed := by
  suffices ∀ results s', keeps results s' →
      (items.mapM f).Ends s' (fun more => keeps (results ++ more)) failed from this [] s start
  induction items with
  | nil =>
    intro results s' h
    rw [List.mapM_nil]
    exact ends_pure (by simpa using h)
  | cons a rest ih =>
    intro results s' h
    rw [List.mapM_cons]
    refine ends_bind ((step results a s' h).imp (fun b s₁ h => ?_) fun _ h => h)
    refine ends_bind ((ih (results ++ [b]) s₁ h).imp (fun more s₂ h => ?_) fun _ h => h)
    exact ends_pure (by simpa using h)

/-! ## Two runs -/

/-- If the run has a result from the first state, it has the same from the second, and leaves states
for which `done` holds. -/
def Follows (x : Run α) (s f : Session) (done : Session → Session → Prop) : Prop :=
  ∀ a s', x.outcome s = (.ok a, s') → ∃ f', x.outcome f = (.ok a, f') ∧ done s' f'

section Follows

variable {f : Session} {related done : Session → Session → Prop}

/-- What holds after the first run can be used to go through the second. -/
theorem follows_of_ends {x : Run α} {first : α → Session → Prop}
    (h : x.Ends s first fun _ => True)
    (second : ∀ a s', first a s' → x.Ends f (fun b f' => b = a ∧ done s' f') fun _ => False) :
    x.Follows s f done := by
  intro a s' eq
  unfold Ends at h
  rw [eq] at h
  have next := second a s' h
  unfold Ends at next
  split at next
  · next b f' eq' =>
    obtain ⟨rfl, hdone⟩ := next
    exact ⟨f', eq', hdone⟩
  · exact next.elim

theorem follows_pure {a : α} (h : done s f) : (pure a : Run α).Follows s f done := by
  intro b s' eq
  cases eq
  exact ⟨f, rfl, h⟩

theorem follows_throw (e : GenerationError) : (throw e : Run α).Follows s f done := by
  intro a s' eq
  cases eq

theorem follows_pure_bind {a : α} {next : α → Run β} (h : (next a).Follows s f done) :
    (pure a >>= next).Follows s f done := h

theorem follows_throw_bind (e : GenerationError) (next : α → Run β) :
    (throw e >>= next).Follows s f done := by
  intro a s' eq
  cases eq

theorem follows_bind {x : Run α} {next : α → Run β} (h : x.Follows s f related)
    (rest : ∀ a s' f', related s' f' → (next a).Follows s' f' done) :
    (x >>= next).Follows s f done := by
  intro b s'' eq
  rw [outcome_bind] at eq
  rcases hx : x.outcome s with ⟨_ | a, s'⟩
  · rw [hx] at eq
    cases eq
  · rw [hx] at eq
    obtain ⟨f', hf, both⟩ := h a s' hx
    obtain ⟨f'', hf', hdone⟩ := rest a s' f' both b s'' eq
    exact ⟨f'', by rw [outcome_bind, hf]; exact hf', hdone⟩

theorem follows_modify {change : Session → Session} (h : done (change s) (change f)) :
    (modify change : Run Unit).Follows s f done := by
  intro b s' eq
  cases eq
  exact ⟨change f, rfl, h⟩

/-- What each item does to two states alike, going through all items does. -/
theorem follows_forM {each : α → Run Unit} {items : List α} (start : related s f)
    (step : ∀ a ∈ items, ∀ s' f', related s' f' → (each a).Follows s' f' related) :
    (items.forM each).Follows s f related := by
  induction items generalizing s f with
  | nil => exact follows_pure start
  | cons a rest ih =>
    exact follows_bind (step a List.mem_cons_self s f start) fun _ s' f' h =>
      ih h fun b hb => step b (List.mem_cons_of_mem _ hb)

theorem follows_mapM {each : α → Run β} {items : List α} (start : related s f)
    (step : ∀ a ∈ items, ∀ s' f', related s' f' → (each a).Follows s' f' related) :
    (items.mapM each).Follows s f related := by
  induction items generalizing s f with
  | nil =>
    rw [List.mapM_nil]
    exact follows_pure start
  | cons a rest ih =>
    rw [List.mapM_cons]
    exact follows_bind (step a List.mem_cons_self s f start) fun _ s' f' h =>
      follows_bind (ih h fun b hb => step b (List.mem_cons_of_mem _ hb)) fun _ _ _ h =>
        follows_pure h

end Follows

end Run

end QueryShape.Generation
