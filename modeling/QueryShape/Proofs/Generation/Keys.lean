import QueryShape.Proofs.Generation.Traced

/-!
# The response keys of an accessor

The paths of an accessor come from the fields that documents select on its class under names that
give the accessor its name. Different response keys can give one name.

* `responseKey?_path`: a path reads the response key of its field.
* `one_key_iff`: the accessors of all classes read one response key each exactly if no two response
  keys that are selected on one class give one accessor name.
-/

namespace QueryShape

namespace Code

/-- The expression that a decoder starts from. -/
def Decoder.start? : Decoder → Option Expr
  | .convert _ access? => access?
  | .guard subject _ _ => some subject
  | .each source _ _ => some source

/-- The key of the response object that an expression reads. -/
def Expr.responseKey? : Expr → Option String
  | .entry (.member (.name "self") "raw_result") key
  | .entryOrNothing (.member (.name "self") "raw_result") key => some key
  | _ => none

theorem Decoder.start?_build (template access : Expr) (layers : List Layer) (arrays : Int) :
    (Decoder.build template layers access arrays 0).start? = some access := by
  cases layers with
  | nil => rfl
  | cons layer rest => cases layer <;> rfl

end Code

/-- The key of the response object that a path reads. -/
def Record.Path.responseKey? (path : Record.Path) : Option String :=
  path.decoder.start?.bind Code.Expr.responseKey?

namespace Generation

open Code Document Record Session Program.Thing

variable {g : Setting} {p : Place} {f : Field} {r : Reading}

/-- The path of a field reads the field's response key. -/
theorem responseKey?_path (r : Reading) (p : Place) (f : Field) :
    (r.path p f).responseKey? = some f.responseKey := by
  unfold Path.responseKey? Reading.path pathOf
  rw [Decoder.start?_build]
  unfold accessOf
  cases p.isConditional || mayLeaveOut f.directives <;> rfl

/-- A value that may be left out may be nothing. -/
theorem exists_layersOf (type : TypeRef) :
    ∃ rest, layersOf true type = .nilable :: rest := by
  unfold layersOf
  by_cases missing : mayBeMissing (layers type) = true
  · rw [if_neg (by simp [missing])]
    unfold mayBeMissing at missing
    cases all : layers type with
    | nil =>
      rw [all] at missing
      cases missing
    | cons layer rest =>
      cases layer with
      | nilable => exact ⟨rest, rfl⟩
      | array =>
        rw [all] at missing
        cases missing
  · exact ⟨layers type, by simp [missing]⟩

theorem accessorName?_of_readingOf (h : readingOf g p f = .ok r) :
    Naming.accessorName? f.responseKey = .ok r.accessor := by
  have := (readingOf_eq_ok_iff.mp h).1
  unfold accessorOf at this
  split at this
  · next name eq =>
    cases this
    exact eq
  · cases this

/-! ## One key an accessor -/

/-- Each call succeeds on the session that those before it lead to. -/
def AllSucceed (calls : List (Generator × Declaration)) : Prop :=
  ∀ before g d later, calls = before ++ (g, d) :: later → Succeeds (after {} before) g d

/-- The operations of the documents of successful calls have their classes in the end. -/
theorem hasOperations_of_allSucceed {calls : List (Generator × Declaration)}
    (succeed : AllSucceed calls) {g : Generator} {d : Declaration} (mem : (g, d) ∈ calls) :
    HasOperations (after {} calls) g d := by
  obtain ⟨before, later, rfl⟩ := List.append_of_mem mem
  exact hasOperations_after (succeed before g d later rfl) later

/-- What a document of successful calls selects is recorded in the end. -/
theorem recorded_of_allSucceed {calls : List (Generator × Declaration)}
    (succeed : AllSucceed calls) {g : Generator} {d : Declaration} (mem : (g, d) ∈ calls)
    (asks : AsksFor g d p f) : Recorded (after {} calls) g.toSetting p f :=
  (hasOperations_of_allSucceed succeed mem).recorded asks

/-- No accessor of a class reads two response keys. -/
def OneKeyEach (x : Record) : Prop :=
  ∀ a ∈ accessorsOf x, ∀ path ∈ a.paths, ∀ path' ∈ a.paths,
    path.responseKey? = path'.responseKey?

/-- No two response keys that documents select on one class give one accessor name. -/
def NoClash (calls : List (Generator × Declaration)) : Prop :=
  ∀ g d p f g' d' p' f', (g, d) ∈ calls → AsksFor g d p f →
    (g', d') ∈ calls → AsksFor g' d' p' f' → p.className = p'.className →
    Naming.accessorName? f.responseKey = Naming.accessorName? f'.responseKey →
    f.responseKey = f'.responseKey

/-- **The accessors of all classes read one response key each exactly if no two response keys that
are selected on one class give one accessor name.** -/
theorem one_key_iff (calls : List (Generator × Declaration)) (succeed : AllSucceed calls) :
    (∀ x ∈ (after {} calls).registry.records, OneKeyEach x) ↔ NoClash calls := by
  constructor
  · intro one g d p f g' d' p' f' mem asks mem' asks' sameClass sameName
    obtain ⟨r, x, hr, hx, hn, reads, -⟩ := recorded_of_allSucceed succeed mem asks
    obtain ⟨r', x', hr', hx', hn', reads', -⟩ := recorded_of_allSucceed succeed mem' asks'
    cases Registry.eq_of_name_eq hx hx' (hn.trans (sameClass.trans hn'.symm))
    rw [accessorName?_of_readingOf hr, accessorName?_of_readingOf hr'] at sameName
    obtain ⟨a, ha, hna, hpa⟩ := reads
    obtain ⟨b, hb, hnb, hpb⟩ := reads'
    have names : a.name = b.name := by
      rw [hna, hnb]
      exact Except.ok.inj sameName
    cases List.inj_on_of_nodup_map (traced_after calls x hx).distinct ha hb names
    have keys := one x hx a ha _ hpa _ hpb
    rw [responseKey?_path, responseKey?_path] at keys
    exact Option.some.inj keys
  · intro noClash x hx a ha path hp path' hp'
    have traced := traced_after calls x hx
    obtain ⟨g, d, p, f, r, mem, asks, className, hr, name, rfl, -⟩ :=
      traced.read _ _ ⟨a, ha, rfl, hp⟩
    obtain ⟨g', d', p', f', r', mem', asks', className', hr', name', rfl, -⟩ :=
      traced.read _ _ ⟨a, ha, rfl, hp'⟩
    rw [responseKey?_path, responseKey?_path]
    congr 1
    refine noClash g d p f g' d' p' f' mem asks mem' asks' (className.trans className'.symm) ?_
    rw [accessorName?_of_readingOf hr, accessorName?_of_readingOf hr', name, name']

theorem after_singleton (g : Generator) (d : Declaration) :
    after {} [(g, d)] = ((g.generate d).outcome {}).2 := rfl

theorem allSucceed_singleton {g : Generator} {d : Declaration} (h : Succeeds {} g d) :
    AllSucceed [(g, d)] := by
  intro before g' d' later eq
  cases before with
  | nil =>
    cases eq
    exact h
  | cons first rest => exact absurd (List.cons.inj eq).2 (by simp)

theorem one_key_iff_spreading : AllSucceed [(sampleGenerator, spreading)] ∧
    ((∀ x ∈ (after {} [(sampleGenerator, spreading)]).registry.records, OneKeyEach x) ↔
      NoClash [(sampleGenerator, spreading)]) :=
  ⟨allSucceed_singleton succeeds_spreading,
    one_key_iff _ (allSucceed_singleton succeeds_spreading)⟩

/-! ## Keys that clash -/

instance (x : Record) : Decidable (OneKeyEach x) := by
  unfold OneKeyEach
  infer_instance

/-- A document with two response keys that give one accessor name. -/
def clashing : Declaration := { text := "query Qa{in:a in_:b}" }

theorem asks_clashing : ∃ text, sampleGenerator.asks clashing = .ok
    { operations := [("Qa", { kind := .query, name? := some "Qa"
                              selections := [.field { alias? := some "in", name := "a" } [],
                                .field { alias? := some "in_", name := "b" } []] })]
      fragments := [], queryText := text } := by
  have read : readDocument (sampleGenerator.hooks.runBefore clashing) = .ok
      [.operation { kind := .query, name? := some "Qa"
                    selections := [.field { alias? := some "in", name := "a" } [],
                      .field { alias? := some "in_", name := "b" } []] }] := by
    cbv
  unfold Generator.asks Generator.request
  rw [read]
  exact ⟨_, rfl⟩

/-- **An accessor can read two response keys**, of which the earlier hides the later. -/
theorem two_keys_one_accessor : AllSucceed [(sampleGenerator, clashing)] ∧
    ∃ x ∈ (after {} [(sampleGenerator, clashing)]).registry.records, ¬ OneKeyEach x := by
  obtain ⟨text, asked⟩ := asks_clashing
  refine ⟨allSucceed_singleton ?_, ?_⟩
  · unfold Succeeds
    rw [outcome_generate asked]
    cbv
  · have some : (((sampleGenerator.generate clashing).outcome {}).2.registry.records.any
        fun x => !decide (OneKeyEach x)) = true := by
      rw [outcome_generate asked]
      cbv
    simpa [after] using some

end Generation

end QueryShape
