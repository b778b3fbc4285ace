import QueryShape.Proofs.Generation.Fresh
import QueryShape.Proofs.Generation.Recorded

/-!
# A fresh session beside a used one

`Mirrors g base clean s f` relates a used session to a fresh one. The fresh one has only classes
that the used one has as well, and if `clean` holds, the used session has the classes of operations
and selections of the fresh one above the classes in `base`, in their order. What the two have of
inputs may differ, since the used session has some of it below.

* `follows_generate`: a call that succeeds on the used session succeeds on the fresh one as well,
  and keeps the two so, where `clean` says that no selection of its document is named like a class
  in `base`.
-/

namespace QueryShape.Generation

open Document Record Run Session

/-- The fresh session has only classes that the used one has. If `clean` holds, the used session has
its results above the classes in `base`. -/
structure Mirrors (g : Setting) (base : List Record) (clean : Prop) (s f : Session) : Prop where
  settled : Settled g [] s
  within : Within s [] f
  below : base.map Record.name ⊆ s.registry.names
  /-- The name of an operation is not one of a class below. -/
  roots : ∀ r, .root r ∈ f.registry.records → r.name ∉ base.map Record.name
  added : clean → ∃ added, s.registry.records = base ++ added ∧
    added.filter Record.isResult = f.registry.records.filter Record.isResult

variable {g : Setting} {base : List Record} {clean : Prop} {s s' f f' : Session}

/-! ## Inputs -/

/-- Classes of inputs on both sides do not count. -/
theorem Mirrors.others (m : Mirrors g base clean s f) (settles : Settles g [] s s')
    (replays : Replays s' [] f f') : Mirrors g base clean s' f' where
  settled := settles.settled
  within := replays.within
  below := List.Subset.trans m.below (List.map_subset _ settles.adds.subset)
  roots := by
    intro r hr
    obtain ⟨more, eq, none⟩ := replays.adds
    rcases List.mem_append.mp (eq ▸ hr) with hr | hr
    · exact m.roots r hr
    · have kept : .root r ∈ more.filter Record.isResult := List.mem_filter.mpr ⟨hr, rfl⟩
      exact absurd (none ▸ kept) List.not_mem_nil
  added := by
    intro isClean
    obtain ⟨added, eq, same⟩ := m.added isClean
    obtain ⟨more, eqS, noneS⟩ := settles.adds
    obtain ⟨moreF, eqF, noneF⟩ := replays.adds
    refine ⟨added ++ more, by rw [eqS, eq, List.append_assoc], ?_⟩
    rw [eqF, List.filter_append, List.filter_append, same, noneS, noneF]

theorem Mirrors.within_others (m : Mirrors g base clean s f) (settles : Settles g [] s s') :
    Within s' [] f where
  like := fun x hx => (m.within.like x hx).of_subset settles.adds.subset
  enums := m.within.enums
  inputs := m.within.inputs
  waiting := fun _ h => absurd h List.not_mem_nil

/-- What is noted on both sides apart from classes does not count. -/
theorem Mirrors.of_sameClasses (m : Mirrors g base clean s f) (sameS : s.SameClasses s')
    (sameF : f.SameClasses f') : Mirrors g base clean s' f' := by
  have settles : Settles g [] s s' := .of_sameClasses m.settled sameS
  exact m.others settles (.of_sameClasses (m.within_others settles) sameF)

/-! ## Results -/

/-- The sessions differ in the classes of operations and selections only. -/
structure OnlyResults (s s' : Session) : Prop where
  others : ∀ x : Record, x.isResult = false →
    (x ∈ s'.registry.records ↔ x ∈ s.registry.records)
  memory : s.SameMemory s'

theorem OnlyResults.append {x : Record} (isResult : x.isResult = true)
    (eq : s'.registry.records = s.registry.records ++ [x]) (same : s.SameMemory s') :
    OnlyResults s s' where
  others := by
    intro y other
    rw [eq, List.mem_append, List.mem_singleton]
    refine or_iff_left fun last => ?_
    rw [last, isResult] at other
    cases other
  memory := same

theorem OnlyResults.replace {old : Leaf} (hold : .leaf old ∈ s.registry.records) (l : Leaf)
    (eq : s'.registry = s.registry.replace (.leaf (Registry.mergedLeaf old l)))
    (same : s.SameMemory s') : OnlyResults s s' where
  others := by
    intro x other
    rw [eq]
    constructor
    · intro hx
      obtain ⟨y, hy, eq⟩ := List.mem_map.mp hx
      split at eq
      · rw [← eq] at other
        cases other
      · exact eq ▸ hy
    · intro hx
      refine List.mem_map.mpr ⟨x, hx, if_neg fun taken => ?_⟩
      cases Registry.eq_of_name_eq hx hold taken
      cases other
  memory := same

/-- Results change on both sides, and the fresh one still has only classes that the used one has. -/
theorem Mirrors.results (m : Mirrors g base clean s f) (onlyS : OnlyResults s s')
    (onlyF : OnlyResults f f') (like : ∀ x ∈ f'.registry.records, s'.registry.HasLike x)
    (names : s.registry.names ⊆ s'.registry.names)
    (roots : ∀ r, .root r ∈ f'.registry.records → r.name ∉ base.map Record.name)
    (added : clean → ∃ added, s'.registry.records = base ++ added ∧
      added.filter Record.isResult = f'.registry.records.filter Record.isResult) :
    Mirrors g base clean s' f' where
  settled := m.settled.of_same (fun x hx other => (onlyS.others x other).mpr hx)
    (fun x hx other => (onlyS.others x other).mp hx) onlyS.memory.enums onlyS.memory.inputs
  within :=
    { like
      enums := fun e he =>
        onlyF.memory.enums ▸ m.within.enums e ((onlyF.others _ rfl).mp he)
      inputs := fun i hi =>
        onlyF.memory.inputs ▸ m.within.inputs i ((onlyF.others _ rfl).mp hi)
      waiting := fun _ h => absurd h List.not_mem_nil }
  below := List.Subset.trans m.below names
  roots := roots
  added := added

/-- A result is registered last on both sides, under a free name. -/
theorem Mirrors.append (m : Mirrors g base clean s f) {x : Record} (isResult : x.isResult = true)
    (new : x.name ∉ s.registry.names)
    (eqS : s'.registry.records = s.registry.records ++ [x]) (sameS : s.SameMemory s')
    (eqF : f'.registry.records = f.registry.records ++ [x]) (sameF : f.SameMemory f') :
    Mirrors g base clean s' f' := by
  refine m.results (.append isResult eqS sameS) (.append isResult eqF sameF) ?_
    (Registry.grows_of_append eqS).names.subset ?_ ?_
  · intro y hy
    rcases List.mem_append.mp (eqF ▸ hy) with hy | hy
    · exact (m.within.like y hy).of_subset (eqS ▸ List.subset_append_left _ _)
    · rw [List.mem_singleton.mp hy]
      exact Registry.hasLike_of_mem (eqS ▸ List.mem_append_right _ List.mem_cons_self)
  · intro r hr
    rcases List.mem_append.mp (eqF ▸ hr) with hr | hr
    · exact m.roots r hr
    · rw [← List.mem_singleton.mp hr] at new
      exact fun taken => new (m.below taken)
  · intro isClean
    obtain ⟨added, eq, same⟩ := m.added isClean
    refine ⟨added ++ [x], by rw [eqS, eq, List.append_assoc], ?_⟩
    rw [eqF, List.filter_append, List.filter_append, same]

/-- A result of the used session is one of the fresh session, if its name is not below. -/
theorem Mirrors.mem_of_mem (m : Mirrors g base clean s f) (isClean : clean) {x : Record}
    (hx : x ∈ s.registry.records) (isResult : x.isResult = true)
    (free : x.name ∉ base.map Record.name) : x ∈ f.registry.records := by
  obtain ⟨added, eq, same⟩ := m.added isClean
  rcases List.mem_append.mp (eq ▸ hx) with below | above
  · exact absurd (List.mem_map_of_mem below) free
  · have kept : x ∈ added.filter Record.isResult := List.mem_filter.mpr ⟨above, isResult⟩
    exact (List.mem_filter.mp (same ▸ kept)).1

/-- The record, or the one that takes its place. -/
def swapped (new x : Record) : Record := if x.name = new.name then new else x

/-- Where a selection is merged into one, records stay results or not. -/
theorem filter_map_swapped {r : Registry} {old : Leaf} (hold : .leaf old ∈ r.records) (l : Leaf)
    {items : List Record} (sub : items ⊆ r.records) :
    (items.map (swapped (.leaf (Registry.mergedLeaf old l)))).filter Record.isResult =
      (items.filter Record.isResult).map (swapped (.leaf (Registry.mergedLeaf old l))) := by
  rw [List.filter_map]
  refine congrArg _ (List.filter_congr fun x hx => ?_)
  rw [Function.comp_apply, swapped]
  split
  · next taken =>
    cases Registry.eq_of_name_eq (sub hx) hold taken
    rfl
  · rfl

/-- A selection is merged into the one of its name on both sides. -/
theorem Mirrors.replace (m : Mirrors g base clean s f) {old oldF l : Leaf}
    (name : old.name = l.name) (free : clean → l.name ∉ base.map Record.name)
    (holdS : .leaf old ∈ s.registry.records)
    (eqS : s'.registry = s.registry.replace (.leaf (Registry.mergedLeaf old l)))
    (sameS : s.SameMemory s') (holdF : .leaf oldF ∈ f.registry.records)
    (nameF : oldF.name = l.name)
    (eqF : f'.registry = f.registry.replace (.leaf (Registry.mergedLeaf oldF l)))
    (sameF : f.SameMemory f') : Mirrors g base clean s' f' := by
  refine m.results (.replace holdS l eqS sameS) (.replace holdF l eqF sameF) ?_ ?_ ?_ ?_
  · intro x hx
    rw [eqF] at hx
    obtain ⟨y, hy, rfl⟩ := List.mem_map.mp hx
    rw [eqS]
    split
    · exact (m.within.like _ holdF).replace holdS l
    · exact (m.within.like y hy).replace holdS l
  · rw [eqS, Registry.names_replace]
    exact List.Subset.refl _
  · intro r hr
    rw [eqF] at hr
    obtain ⟨y, hy, eq⟩ := List.mem_map.mp hr
    split at eq
    · cases eq
    · exact m.roots r (eq ▸ hy)
  · intro isClean
    have there := m.mem_of_mem isClean holdS rfl (show old.name ∉ _ from name ▸ free isClean)
    cases Registry.eq_of_name_eq there holdF (name.trans nameF.symm)
    obtain ⟨added, eq, same⟩ := m.added isClean
    refine ⟨added.map (swapped (.leaf (Registry.mergedLeaf old l))), ?_, ?_⟩
    · have untouched : base.map (swapped (.leaf (Registry.mergedLeaf old l))) = base := by
        refine (List.map_congr_left fun x hx => if_neg fun taken => ?_).trans (List.map_id base)
        have taken : x.name = old.name := taken
        exact free isClean (name ▸ taken ▸ List.mem_map_of_mem hx)
      rw [eqS, Registry.records_replace, eq]
      exact (List.map_append (f := _)).trans (congrArg (· ++ _) untouched)
    · have sub : added ⊆ s.registry.records := eq ▸ List.subset_append_right _ _
      rw [filter_map_swapped holdS l sub, same, ← filter_map_swapped holdF l (List.Subset.refl _),
        eqF]
      rfl

/-- A selection is merged into one of a class below, and is new in the fresh session. -/
theorem Mirrors.replace_append (m : Mirrors g base clean s f) {old l : Leaf}
    (name : old.name = l.name) (type : old.graphqlType = l.graphqlType)
    (free : clean → l.name ∉ base.map Record.name) (holdS : .leaf old ∈ s.registry.records)
    (eqS : s'.registry = s.registry.replace (.leaf (Registry.mergedLeaf old l)))
    (sameS : s.SameMemory s') (new : l.name ∉ f.registry.names)
    (eqF : f'.registry.records = f.registry.records ++ [.leaf l]) (sameF : f.SameMemory f') :
    Mirrors g base clean s' f' := by
  refine m.results (.replace holdS l eqS sameS) (.append rfl eqF sameF) ?_ ?_ ?_ ?_
  · intro x hx
    rw [eqS]
    rcases List.mem_append.mp (eqF ▸ hx) with hx | hx
    · exact (m.within.like x hx).replace holdS l
    · rw [List.mem_singleton.mp hx]
      have like : s.registry.HasLike (.leaf l) := ⟨.leaf old, holdS, name, rfl, type⟩
      exact like.replace holdS l
  · rw [eqS, Registry.names_replace]
    exact List.Subset.refl _
  · intro r hr
    rcases List.mem_append.mp (eqF ▸ hr) with hr | hr
    · exact m.roots r hr
    · cases List.mem_singleton.mp hr
  · intro isClean
    have there := m.mem_of_mem isClean holdS rfl (show old.name ∉ _ from name ▸ free isClean)
    exact absurd (Registry.mem_names.mpr ⟨_, there, name⟩) new

/-! ## Steps -/

theorem follows_registerEnum (m : Mirrors g base clean s f) {t : TypeDefinition}
    (found : g.schema.type? t.name = some t) :
    (registerEnum t).Follows s f (Mirrors g base clean) := by
  refine follows_of_ends (settles_registerEnum m.settled found) ?_
  rintro - s' ⟨settles, has⟩
  refine (replays_registerEnum settles.settled (m.within_others settles) found has).imp ?_
    fun _ h => h
  exact fun _ f' replays => ⟨rfl, m.others settles replays⟩

theorem follows_register (m : Mirrors g base clean s f) {x : Record}
    (isResult : x.isResult = true) :
    (register x).Follows s f (Mirrors g base clean) := by
  refine follows_of_ends ((ends_register x).imp (fun _ _ h => h) fun _ _ => trivial) ?_
  rintro - s' ⟨free, eqS, sameS⟩
  refine (ends_register_of_free fun taken => free (m.within.names taken)).imp ?_ fun _ h => h
  rintro - f' ⟨eqF, sameF⟩
  exact ⟨rfl, m.append isResult free eqS sameS eqF sameF⟩

theorem follows_registerOrMerge (m : Mirrors g base clean s f) {l : Leaf}
    (free : clean → l.name ∉ base.map Record.name) :
    (registerOrMerge (.leaf l)).Follows s f (Mirrors g base clean) := by
  refine follows_of_ends ((ends_registerOrMerge l).imp (fun _ _ h => h) fun _ _ => trivial) ?_
  rintro - s' ⟨sameS, ⟨new, eqS⟩ | ⟨old, hold, name, type, eqS⟩⟩
  · refine (ends_registerOrMerge_of_free fun taken => new (m.within.names taken)).imp ?_
      fun _ h => h
    rintro - f' ⟨eqF, sameF⟩
    exact ⟨rfl, m.append (x := .leaf l) rfl new eqS sameS eqF sameF⟩
  · by_cases taken : l.name ∈ f.registry.names
    · obtain ⟨x, hx, nameX⟩ := Registry.mem_names.mp taken
      obtain ⟨kind, typeX⟩ := m.within.eq_of_name hx hold (nameX.trans name.symm)
      cases x with
      | leaf oldF =>
        refine (ends_registerOrMerge_of_mem hx nameX (typeX.trans type)).imp ?_ fun _ h => h
        rintro - f' ⟨eqF, sameF⟩
        exact ⟨rfl, m.replace name free hold eqS sameS hx nameX eqF sameF⟩
      | root | input | enum => cases kind
    · refine (ends_registerOrMerge_of_free taken).imp ?_ fun _ h => h
      rintro - f' ⟨eqF, sameF⟩
      exact ⟨rfl, m.replace_append name type free hold eqS sameS taken eqF sameF⟩

/-- A step does the same to both, if the enum that it needs is a type of the schema. -/
theorem follows_step (m : Mirrors g base clean s f) {a : Step}
    (enum : ∀ t, a = .enum t → g.schema.type? t.name = some t)
    (leaf : clean → ∀ l, a = .leaf l → l.name ∉ base.map Record.name) :
    a.run.Follows s f (Mirrors g base clean) := by
  cases a with
  | enum t => exact follows_registerEnum m (enum t rfl)
  | leaf l => exact follows_registerOrMerge m fun isClean => leaf isClean l rfl
  | converter scalar path imports =>
    refine follows_of_ends (ends_converter scalar path imports) ?_
    intro _ s' sameS
    refine (ends_converter scalar path imports).imp ?_ fun _ h => h
    exact fun _ f' sameF => ⟨rfl, m.of_sameClasses sameS sameF⟩

theorem follows_plan {α : Type} {p : Plan α} (m : Mirrors g base clean s f)
    (enum : ∀ t, .enum t ∈ p.steps → g.schema.type? t.name = some t)
    (leaf : clean → ∀ l, .leaf l ∈ p.steps → l.name ∉ base.map Record.name) :
    p.run.Follows s f (Mirrors g base clean) := by
  unfold Plan.run
  refine follows_bind (follows_forM m fun a ha s' f' m' =>
    follows_step m' (fun t eq => enum t (eq ▸ ha)) fun isClean l eq =>
      leaf isClean l (eq ▸ ha)) ?_
  intro _ s' f' m'
  cases p.result with
  | error e => exact follows_throw e
  | ok a => exact follows_pure m'

/-! ## Operations -/

/-- The enum classes that a selection set needs are of types of the schema. -/
theorem type?_of_enum_mem_steps (fragments : List Fragment) (selections : List Selection)
    {p : Place} {before : Members} {t : TypeDefinition}
    (h : .enum t ∈ (select g fragments p selections before).steps) :
    g.schema.type? t.name = some t := by
  induction fragments, selections using survey_induction generalizing p before with
  | step fragments selections ih =>
    rw [select_eq_foldlM] at h
    obtain ⟨x, definition, hx, -, hs⟩ := mem_steps_foldlM h
    rcases conversion_cases g x definition with ⟨e, fails⟩ | ⟨u, type, ⟨-, eq⟩ | ⟨-, eq⟩⟩
    · rw [fails] at hs
      exact absurd hs List.not_mem_nil
    · rw [eq] at hs
      rcases mem_steps_outputOf hs with ⟨_, _, e⟩ | ⟨-, e⟩
      · cases e
      · cases e
        exact type?_name (type?_of_typeNamed type).1
    · rw [eq] at hs
      rcases Plan.mem_steps_bind.mp hs with inside | ⟨members, -, last⟩
      · exact ih _ _ x hx inside
      · cases List.mem_singleton.mp last

theorem follows_variableParameter (apart : InputNamesApart g.schema) (m : Mirrors g base clean s f)
    (owner : String) (v : Variable) :
    (variableParameter g owner v).Follows s f (Mirrors g base clean) := by
  unfold variableParameter
  split
  · exact follows_throw_bind _ _
  · refine follows_of_ends (settles_parameter m.settled _ _ _ _) ?_
    rintro p s' ⟨settles, isParameter, sendable⟩
    refine (replays_parameter settles.settled apart (m.within_others settles) _ sendable).imp ?_
      fun _ h => h
    rintro p' f' ⟨isParameter', replays⟩
    exact ⟨Except.ok.inj (isParameter'.symm.trans isParameter), m.others settles replays⟩

/-- **Registering the classes of an operation does the same to both.** -/
theorem follows_generateOperation (apart : InputNamesApart g.schema) (m : Mirrors g base clean s f)
    {fragments : List Fragment} {queryText name : String} {o : Operation}
    (leaf : clean → ∀ l, ClassOf g fragments queryText name o (.leaf l) →
      l.name ∉ base.map Record.name) :
    (generateOperation g fragments queryText name o).Follows s f (Mirrors g base clean) := by
  unfold generateOperation
  cases hr : rootType g.schema o with
  | error e => exact follows_throw_bind e _
  | ok root =>
    refine follows_pure_bind (a := root) ?_
    refine follows_bind (follows_mapM m fun v _ s' f' m' =>
      follows_variableParameter apart m' name v) ?_
    intro parameters s₁ f₁ m₁
    dsimp only
    split
    · exact follows_throw_bind _ _
    · refine follows_bind (follows_plan m₁ (fun t ht => type?_of_enum_mem_steps _ _ ht) ?_) ?_
      · exact fun isClean l hl => leaf isClean l (.leaf hr hl)
      · exact fun members s₂ f₂ m₂ => follows_register m₂ rfl

/-! ## Calls -/

/-- No selection of the document is named like a class in the list. -/
def NamesNew (g : Generator) (d : Declaration) (base : List Record) : Prop :=
  ∀ l, Classes g d (.leaf l) → l.name ∉ base.map Record.name

/-- **A call that succeeds on the used session succeeds on the fresh one**, and does the same to
both if no selection of its document is named like a class below. -/
theorem follows_generate {g : Generator} (apart : InputNamesApart g.schema) {d : Declaration}
    (m : Mirrors g.toSetting base clean s f) (leaf : clean → NamesNew g d base) :
    (g.generate d).Follows s f (Mirrors g.toSetting base clean) := by
  unfold Generator.generate
  dsimp only
  refine follows_bind (follows_modify (m.of_sameClasses ⟨rfl, rfl, rfl⟩ ⟨rfl, rfl, rfl⟩)) ?_
  intro _ s₀ f₀ m₀
  cases hq : g.asks d with
  | error e =>
    unfold Generator.asks at hq
    rw [hq]
    exact follows_throw e
  | ok q =>
    have asked := hq
    unfold Generator.asks at hq
    rw [hq]
    refine follows_forM m₀ fun ⟨name, o⟩ ho s' f' m' => ?_
    exact follows_generateOperation apart m' fun isClean l hl =>
      leaf isClean l ⟨q, name, o, asked, ho, hl⟩

end QueryShape.Generation
