import QueryShape.Generation.Generator
import QueryShape.Proofs.Generation.Run
import QueryShape.Proofs.Registry.Growth

/-!
# Sessions that are alike

The class of an operation has a text that it sends, and a run reports what it does. Nothing that a
run does depends on either. So from two sessions that differ in what has been reported, and in a
text that is sent, runs that send the one and the other text end alike, in such sessions again.

* `Session.Alike`, `Run.Alike`: what is the same, of sessions and of runs.
* `alike_inputClass` and the theorems next to it: the classes of input types.
* `alike_generateOperation`: all classes of an operation.
-/

namespace QueryShape.Generation

open Document Record Run

variable {α β : Type} {text text' : String}

/-! ## Records -/

/-- The records are the same, but for the text that an operation sends: the second may send the
second text where the first sends the first. -/
inductive SameButText (text text' : String) : Record → Record → Prop
  | same (x : Record) : SameButText text text' x x
  | sends (r : Root) (h : r.queryText = text) :
    SameButText text text' (.root r) (.root { r with queryText := text' })

theorem SameButText.name_eq {x y : Record} (h : SameButText text text' x y) : y.name = x.name := by
  cases h <;> rfl

/-- Nothing differs in records if the texts are the same. -/
theorem SameButText.eq {x y : Record} (h : SameButText text text x y) : x = y := by
  cases h with
  | same => rfl
  | sends r sent => rw [← sent]

/-- What is merged into a record, or why it cannot be, does not depend on the text. -/
theorem SameButText.merge_eq {x y : Record} (h : SameButText text text' x y) (l : Leaf) :
    y.merge (.leaf l) = x.merge (.leaf l) := by cases h <;> rfl

/-! ## Registries -/

section

variable {r r' : Registry}

theorem names_alike (same : List.Forall₂ (SameButText text text') r.records r'.records) :
    r'.names = r.names := by
  unfold Registry.names
  generalize r.records = records, r'.records = records' at same
  induction same with
  | nil => rfl
  | cons one _ ih => rw [List.map_cons, List.map_cons, one.name_eq, ih]

theorem get?_alike (same : List.Forall₂ (SameButText text text') r.records r'.records)
    (name : String) : Option.Rel (SameButText text text') (r.get? name) (r'.get? name) := by
  unfold Registry.get?
  generalize r.records = records, r'.records = records' at same
  induction same with
  | nil => exact .none
  | cons one _ ih =>
    rw [List.find?_cons, List.find?_cons, one.name_eq]
    split
    · exact .some one
    · exact ih

/-- Two records are registered alike, or neither can be. -/
theorem add_alike (same : List.Forall₂ (SameButText text text') r.records r'.records)
    {x y : Record} (one : SameButText text text' x y) :
    (∃ e, r.add x = .error e ∧ r'.add y = .error e) ∨ ∃ next next', r.add x = .ok next ∧
      r'.add y = .ok next' ∧
      List.Forall₂ (SameButText text text') next.records next'.records := by
  have names := names_alike same
  by_cases taken : x.name ∈ r.names
  · refine Or.inl ⟨.redefinition x.name .taken, dif_pos taken, ?_⟩
    unfold Registry.add
    rw [dif_pos (by rwa [one.name_eq, names]), one.name_eq]
  · obtain ⟨next, eq⟩ := Registry.exists_add taken
    obtain ⟨next', eq'⟩ := Registry.exists_add (r := r') (x := y) (by rwa [one.name_eq, names])
    refine Or.inr ⟨next, next', eq, eq', ?_⟩
    rw [(Registry.add_eq_ok_iff.mp eq).2, (Registry.add_eq_ok_iff.mp eq').2]
    exact List.rel_append same (.cons one .nil)

/-- A selection is merged alike into two registries, or into neither. -/
theorem merge_alike (same : List.Forall₂ (SameButText text text') r.records r'.records)
    (l : Leaf) :
    (∃ e, r.merge (.leaf l) = .error e ∧ r'.merge (.leaf l) = .error e) ∨
      ∃ next next' merged, r.merge (.leaf l) = .ok (next, merged) ∧
        r'.merge (.leaf l) = .ok (next', merged) ∧
        List.Forall₂ (SameButText text text') next.records next'.records := by
  have related := get?_alike same (Record.leaf l).name
  unfold Registry.merge
  generalize r.get? (Record.leaf l).name = found, r'.get? (Record.leaf l).name = found' at related
  cases related with
  | none =>
    rcases add_alike same (.same (.leaf l)) with ⟨e, eq, eq'⟩ | ⟨next, next', eq, eq', both⟩
    · exact Or.inl ⟨e, by rw [eq]; rfl, by rw [eq']; rfl⟩
    · exact Or.inr ⟨next, next', .leaf l, by rw [eq]; rfl, by rw [eq']; rfl, both⟩
  | some one =>
    rename_i x y
    dsimp only
    rw [one.merge_eq l]
    cases x.merge (.leaf l) with
    | error e => exact Or.inl ⟨e, rfl, rfl⟩
    | ok merged =>
      refine Or.inr ⟨r.replace merged, r'.replace merged, merged, rfl, rfl, ?_⟩
      rw [Registry.records_replace, Registry.records_replace]
      refine List.rel_map (fun x y one => ?_) same
      rw [one.name_eq]
      split
      · exact .same merged
      · exact one

end

/-! ## Sessions and runs -/

/-- The sessions differ in what has been reported and in the text that is sent only. -/
structure Session.Alike (text text' : String) (s f : Session) : Prop where
  records : List.Forall₂ (SameButText text text') s.registry.records f.registry.records
  enums : f.enums = s.enums
  inputs : f.inputs = s.inputs
  imports : f.imports = s.imports

theorem Session.Alike.refl (text text' : String) (s : Session) (events : List Event) :
    s.Alike text text' { s with events } where
  records := List.forall₂_same.mpr fun x _ => .same x
  enums := rfl
  inputs := rfl
  imports := rfl

theorem Session.Alike.registry_eq {s f : Session} (same : s.Alike text text f) :
    f.registry = s.registry := by
  have eq : s.registry.records = f.registry.records :=
    List.forall₂_eq_eq_eq ▸ same.records.imp fun _ _ => SameButText.eq
  cases hs : s.registry
  cases hf : f.registry
  simp_all

/-- From the two sessions, the two runs end with the same result and in sessions that are alike. -/
def Run.AlikeFrom (text text' : String) (x y : Run α) (s f : Session) : Prop :=
  (y.outcome f).1 = (x.outcome s).1 ∧ (x.outcome s).2.Alike text text' (y.outcome f).2

/-- From sessions that are alike, the two runs end alike. -/
def Run.Alike (text text' : String) (x y : Run α) : Prop :=
  ∀ s f, s.Alike text text' f → x.AlikeFrom text text' y s f

/-! ## Rules -/

theorem alike_pure (a : α) : (pure a : Run α).Alike text text' (pure a) :=
  fun _ _ same => ⟨rfl, same⟩

theorem alike_throw (e : GenerationError) : (throw e : Run α).Alike text text' (throw e) :=
  fun _ _ same => ⟨rfl, same⟩

theorem alike_bind {x y : Run α} {next next' : α → Run β} (h : x.Alike text text' y)
    (rest : ∀ a, (next a).Alike text text' (next' a)) :
    (x >>= next).Alike text text' (y >>= next') := by
  intro s f same
  obtain ⟨eq, after⟩ := h s f same
  unfold Run.AlikeFrom
  rw [outcome_bind, outcome_bind]
  rcases hx : x.outcome s with ⟨e | a, s'⟩ <;> rcases hy : y.outcome f with ⟨result, f'⟩ <;>
    rw [hx, hy] at eq after <;> cases eq
  · exact ⟨rfl, after⟩
  · exact rest a s' f' after

/-- What runs do that look at the session has to be alike where the sessions are. -/
theorem alike_get_bind {next next' : Session → Run β}
    (h : ∀ s f, s.Alike text text' f → (next s).AlikeFrom text text' (next' f) s f) :
    (get >>= next).Alike text text' (get >>= next') := h

theorem alike_modify {change change' : Session → Session}
    (h : ∀ s f, s.Alike text text' f → (change s).Alike text text' (change' f)) :
    (modify change : Run Unit).Alike text text' (modify change') :=
  fun s f same => ⟨rfl, h s f same⟩

theorem alike_report (event event' : Event) : (report event).Alike text text' (report event') :=
  alike_modify fun _ _ same => ⟨same.records, same.enums, same.inputs, same.imports⟩

theorem alike_throw_bind (e : GenerationError) (next next' : α → Run β) :
    (throw e >>= next).Alike text text' (throw e >>= next') := fun _ _ same => ⟨rfl, same⟩

theorem alike_forM {each : α → Run Unit} {each' : β → Run Unit} {items : List α} {items' : List β}
    (h : List.Forall₂ (fun a b => (each a).Alike text text' (each' b)) items items') :
    (items.forM each).Alike text text' (items'.forM each') := by
  induction h with
  | nil => exact alike_pure _
  | cons one _ ih => exact alike_bind one fun _ => ih

theorem alike_mapM {each : α → Run β} (h : ∀ a, (each a).Alike text text' (each a))
    (items : List α) : (items.mapM each).Alike text text' (items.mapM each) := by
  induction items with
  | nil =>
    rw [List.mapM_nil]
    exact alike_pure _
  | cons a rest ih =>
    rw [List.mapM_cons]
    exact alike_bind (h a) fun _ => alike_bind ih fun _ => alike_pure _

/-! ## Steps -/

theorem alike_register {x y : Record} (h : SameButText text text' x y) :
    (register x).Alike text text' (register y) := by
  refine alike_get_bind fun s f same => ?_
  rcases add_alike same.records h with ⟨e, eq, eq'⟩ | ⟨next, next', eq, eq', both⟩
  · rw [eq, eq']
    exact alike_throw e s f same
  · rw [eq, eq']
    refine alike_bind (alike_report _ _) (fun _ => ?_) s f same
    exact alike_modify fun _ _ same => ⟨both, same.enums, same.inputs, same.imports⟩

theorem alike_registerOrMerge (l : Leaf) :
    (registerOrMerge (.leaf l)).Alike text text' (registerOrMerge (.leaf l)) := by
  refine alike_get_bind fun s f same => ?_
  dsimp only
  rcases merge_alike same.records l with ⟨e, eq, eq'⟩ | ⟨next, next', merged, eq, eq', both⟩
  · rw [eq, eq']
    exact alike_throw e s f same
  · rw [eq, eq']
    refine alike_bind (alike_report _ _) (fun _ => ?_) s f same
    exact alike_modify fun _ _ same => ⟨both, same.enums, same.inputs, same.imports⟩

theorem alike_registerEnum (t : TypeDefinition) :
    (registerEnum t).Alike text text' (registerEnum t) := by
  refine alike_get_bind fun s f same => ?_
  dsimp only
  rw [same.enums]
  split
  · exact alike_pure _ s f same
  · cases t.values.find? isReservedValue with
    | some value => exact alike_throw _ s f same
    | none =>
      refine alike_bind (alike_register (.same _)) (fun _ => ?_) s f same
      exact alike_modify fun s f same =>
        ⟨same.records, by rw [same.enums], same.inputs, same.imports⟩

theorem alike_step (a : Step) : a.run.Alike text text' a.run := by
  cases a with
  | enum t => exact alike_registerEnum t
  | leaf l => exact alike_registerOrMerge l
  | converter scalar path imports =>
    exact alike_bind (alike_report _ _) fun _ => alike_modify fun s f same =>
      ⟨same.records, same.enums, same.inputs, by rw [same.imports]⟩

theorem alike_plan (p : Plan α) : p.run.Alike text text' p.run := by
  refine alike_bind (alike_forM (List.forall₂_same.mpr fun a _ => alike_step a)) fun _ => ?_
  cases p.result with
  | error e => exact alike_throw e
  | ok a => exact alike_pure a

/-! ## Input types -/

variable {g : Setting}

mutual

theorem alike_inputClass (pending : List String) (t : TypeDefinition) (ht : t ∈ g.schema.types) :
    (inputClass g pending t ht).Alike text text' (inputClass g pending t ht) := by
  rw [inputClass]
  dsimp only
  split
  · exact alike_pure _
  · next new =>
    refine alike_get_bind fun s f same => ?_
    rw [same.inputs]
    split
    · exact alike_pure _ s f same
    · have := unvisited_lt ht new
      refine alike_bind (alike_inputParametersOf _ _ _) (fun parameters => ?_) s f same
      refine alike_bind (alike_register (.same _)) fun _ => ?_
      exact alike_bind (alike_modify fun s f same =>
        ⟨same.records, same.enums, by rw [same.inputs], same.imports⟩) fun _ => alike_pure _
termination_by (unvisited g.schema pending, 0)
decreasing_by
  exact Prod.Lex.left _ _ this

theorem alike_inputParametersOf (pending : List String) (owner : String)
    (fields : List InputValue) : (inputParametersOf g pending owner fields).Alike text text'
      (inputParametersOf g pending owner fields) := by
  cases fields with
  | nil =>
    rw [inputParametersOf]
    exact alike_pure _
  | cons field rest =>
    rw [inputParametersOf]
    exact alike_bind (alike_parameter _ _ _ _ _) fun _ =>
      alike_bind (alike_inputParametersOf _ _ rest) fun _ => alike_pure _
termination_by (unvisited g.schema pending, fields.length + 2)

theorem alike_parameter (pending : List String) (owner : String) (reserved : List String)
    (graphqlName : String) (type : TypeRef) :
    (parameter g pending owner reserved graphqlName type).Alike text text'
      (parameter g pending owner reserved graphqlName type) := by
  rw [parameter]
  dsimp only
  split
  · exact alike_throw_bind _ _ _
  · split
    · exact alike_bind (alike_inputOf _ _ _) fun _ => alike_pure _
    · exact alike_throw _
termination_by (unvisited g.schema pending, 2)

theorem alike_inputOf (pending : List String) (t : TypeDefinition) (ht : t ∈ g.schema.types) :
    (inputOf g pending t ht).Alike text text' (inputOf g pending t ht) := by
  rw [inputOf]
  split
  · exact alike_plan _
  · exact alike_bind (alike_plan _) fun _ => alike_pure _
  · exact alike_bind (alike_inputClass pending t ht) fun _ => alike_pure _
  · exact alike_throw _
termination_by (unvisited g.schema pending, 1)

end

/-! ## Operations -/

theorem alike_variableParameter (owner : String) (v : Variable) :
    (variableParameter g owner v).Alike text text' (variableParameter g owner v) := by
  unfold variableParameter
  split
  · exact alike_throw_bind _ _ _
  · exact alike_parameter _ _ _ _ _

/-- **The classes of an operation do not depend on what has been reported, nor on the text that is
sent**, but for that text itself. -/
theorem alike_generateOperation (fragments : List Fragment) (text text' name : String)
    (o : Operation) : (generateOperation g fragments text name o).Alike text text'
      (generateOperation g fragments text' name o) := by
  unfold generateOperation
  cases rootType g.schema o with
  | error e => exact alike_throw_bind e _ _
  | ok root =>
    refine alike_bind (alike_pure root) fun root => ?_
    refine alike_bind (alike_mapM (alike_variableParameter name) _) fun parameters => ?_
    dsimp only
    split
    · exact alike_throw_bind _ _ _
    · exact alike_bind (alike_plan _) fun _ => alike_register (.sends _ rfl)

end QueryShape.Generation
