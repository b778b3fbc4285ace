import QueryShape.Proofs.Generation.Keys
import QueryShape.Proofs.Generation.Mirror
import QueryShape.Proofs.Naming.Leaf

/-!
# Operations beside each other

A call should leave the classes of earlier calls as they are, and add the classes of operations and
selections that a fresh generator would. Classes of selections go by names that are made of the
names of operations, aliases and fields, and two selections of one class name are merged.

* `ne_of_aliases`: where aliases have a letter or digit, selections of different documents have
  different class names.
* `independent_iff`: a call that succeeds succeeds on a fresh session as well, and is independent of
  the calls before exactly if no class name is that of a selection of both.
* `merged_across_documents`: an alias of underscores alone makes two documents share a class.
-/

namespace QueryShape.Generation

open Document Record Run Session

/-! ## Successful calls of one generator -/

/-- The declarations, as calls of one generator. -/
def callsOf (g : Generator) (declarations : List Declaration) : List (Generator × Declaration) :=
  declarations.map (Prod.mk g)

theorem after_concat (s : Session) (calls : List (Generator × Declaration)) (g : Generator)
    (d : Declaration) :
    after s (calls ++ [(g, d)]) = ((g.generate d).outcome (after s calls)).2 := by
  rw [after_append]
  rfl

theorem AllSucceed.of_concat {calls : List (Generator × Declaration)} {g : Generator}
    {d : Declaration} (h : AllSucceed (calls ++ [(g, d)])) :
    AllSucceed calls ∧ Succeeds (after {} calls) g d := by
  refine ⟨fun before g' d' later eq => h before g' d' (later ++ [(g, d)]) ?_, h calls g d [] rfl⟩
  rw [eq, List.append_assoc]
  rfl

/-- What follows a call that succeeds. -/
theorem succeeds_of_follows {s f : Session} {g : Generator} {d : Declaration}
    {related : Session → Session → Prop} (h : (g.generate d).Follows s f related)
    (succeeds : Succeeds s g d) : Succeeds f g d ∧
      related ((g.generate d).outcome s).2 ((g.generate d).outcome f).2 := by
  obtain ⟨f', eq, both⟩ := h () _ (outcome_eq_of_succeeds succeeds)
  unfold Succeeds
  rw [eq]
  exact ⟨rfl, both⟩

/-- The empty session beside a settled one. -/
theorem mirrors_fresh {g : Setting} {s : Session} (settled : Settled g [] s) (clean : Prop) :
    Mirrors g s.registry.records clean s {} where
  settled := settled
  within := ⟨fun _ h => absurd h List.not_mem_nil, fun _ h => absurd h List.not_mem_nil,
    fun _ h => absurd h List.not_mem_nil, fun _ h => absurd h List.not_mem_nil⟩
  below := List.Subset.refl _
  roots := fun _ h => absurd h List.not_mem_nil
  added := fun _ => ⟨[], (List.append_nil _).symm, rfl⟩

/-- **Successful calls lead to settled sessions.** -/
theorem settled_after {g : Generator} (apart : InputNamesApart g.schema)
    (declarations : List Declaration) (succeed : AllSucceed (callsOf g declarations)) :
    Settled g.toSetting [] (after {} (callsOf g declarations)) := by
  -- A session is beside itself, above nothing.
  suffices Mirrors g.toSetting [] True (after {} (callsOf g declarations))
      (after {} (callsOf g declarations)) from this.settled
  induction declarations using List.reverseRecOn with
  | nil => exact mirrors_fresh (settled_empty g.toSetting) True
  | append_singleton rest d ih =>
    have split : callsOf g (rest ++ [d]) = callsOf g rest ++ [(g, d)] := List.map_append
    rw [split] at succeed ⊢
    obtain ⟨earlier, last⟩ := succeed.of_concat
    rw [after_concat]
    have follows := follows_generate apart (ih earlier) (d := d)
      fun _ _ _ => List.not_mem_nil
    exact (succeeds_of_follows follows last).2

/-! ## Where class names come from -/

variable {g : Setting} {fragments : List Fragment} {p p' : Place}
  {selections selections' : List Selection} {s s' : Session}

/-- The selections that documents ask for have their classes. -/
theorem HasOperations.hasLeaf {g : Generator} {d : Declaration} (h : HasOperations s g d) {l : Leaf}
    (asked : Classes g d (.leaf l)) : s.HasLeaf l := by
  obtain ⟨q, ok, all⟩ := h
  obtain ⟨q', name, o, ok', ho, classOf⟩ := asked
  cases ok.symm.trans ok'
  obtain ⟨root, members, r, isClass, did, -⟩ := all name o ho
  cases classOf with
  | leaf rooted mem =>
    cases rooted.symm.trans isClass.rooted
    exact did _ mem

/-- The operations of documents have their classes. -/
theorem HasOperations.exists_root {g : Generator} {d : Declaration} (h : HasOperations s g d)
    {q : Request} (asked : g.asks d = .ok q) {name : String} {o : Operation}
    (ho : (name, o) ∈ q.operations) : ∃ r, .root r ∈ s.registry.records ∧ r.name = name := by
  obtain ⟨q', ok, all⟩ := h
  cases ok.symm.trans asked
  obtain ⟨root, members, r, isClass, -, mem⟩ := all name o ho
  exact ⟨r, mem, isClass.name_eq⟩

/-- A selection that a document asks for is opened by one of its operations. -/
theorem opens_of_classes {g : Generator} {d : Declaration} {l : Leaf}
    (h : Classes g d (.leaf l)) : ∃ q name o root place inner, g.asks d = .ok q ∧
      (name, o) ∈ q.operations ∧ rootType g.schema o = .ok root ∧
      Opens g.toSetting q.fragments (operationPlace name root) o.selections place inner ∧
      l.name = place.className := by
  obtain ⟨q, name, o, ok, ho, classOf⟩ := h
  cases classOf with
  | leaf rooted mem =>
    obtain ⟨place, inner, left, members, opens, -, -, rfl⟩ :=
      opens_of_leaf_mem_steps q.fragments o.selections (.refl q.fragments) mem
    exact ⟨q, name, o, _, place, inner, ok, ho, rooted, opens, rfl⟩

/-- If the record is a selection, some document asks for one of its name. -/
def NamedByDocument (calls : List (Generator × Declaration)) (x : Record) : Prop :=
  ∀ l, x = .leaf l → ∃ g d l', (g, d) ∈ calls ∧ Classes g d (.leaf l') ∧ l'.name = l.name

theorem closed_namedByDocument (calls : List (Generator × Declaration)) :
    Closed (NamedByDocument calls) where
  enum := fun _ => nofun
  input := fun _ => nofun
  merge := by
    rintro old l - - - hold - l' ⟨⟩
    exact hold old rfl

/-- Every class of a selection is named like one that some document asks for. -/
theorem namedByDocument_after (calls : List (Generator × Declaration)) {l : Leaf}
    (hl : .leaf l ∈ (after {} calls).registry.records) :
    ∃ g d l', (g, d) ∈ calls ∧ Classes g d (.leaf l') ∧ l'.name = l.name := by
  refine (sound_after (closed_namedByDocument calls) calls ?_).records _ hl l rfl
  rintro g d mem x classes l rfl
  exact ⟨g, d, l, mem, classes, rfl⟩

/-! ## Aliases -/

/-- The aliases of the composite fields under a selection set have a letter or digit. -/
def AliasesSpelled (g : Setting) (fragments : List Fragment) (p : Place)
    (selections : List Selection) : Prop :=
  ∀ q under place f inner definition t, Opens g fragments p selections q under →
    Selects g.schema fragments q under place f inner →
    fieldDefinition g.schema place.owner f.name = .ok definition →
    typeNamed g.schema definition.type.bareName = .ok t → t.kind.isComposite = true →
    ∀ key, f.alias? = some key → Naming.HasLetter key

/-- The name of a class under a selection set is that of the set's own class and a segment for each
field on the way, and the way to it goes through classes named by the first of these segments. -/
theorem exists_segments (opens : Opens g fragments p selections p' selections') :
    AliasesSpelled g fragments p selections → ∃ segments : List (List Char),
      (∀ segment ∈ segments, Naming.IsSegment segment) ∧
      p'.className.toList = p.className.toList ++ segments.flatten ∧
      ∀ before after, segments = before ++ after → ∃ q inner,
        Opens g fragments p selections q inner ∧
        q.className.toList = p.className.toList ++ before.flatten := by
  induction opens with
  | here p selections =>
    refine fun _ => ⟨[], by simp, by simp, fun before after eq => ⟨p, selections, .here _ _, ?_⟩⟩
    rw [(List.append_eq_nil_iff.mp eq.symm).1]
    simp
  | @under p q p' selections inner selections' f definition t selected field type composite _ ih =>
    intro spelled
    obtain ⟨first, isFirst, name⟩ := Naming.exists_segment q.className f.name
      (spelled p selections q f inner definition t (.here _ _) selected field type composite)
    have nameUnder : (q.under g.schema f t).className.toList = p.className.toList ++ first := by
      rw [← selected.className_eq]
      exact name
    obtain ⟨rest, areSegments, whole, ways⟩ := ih fun q' under' place f' inner' definition' t'
      opens' => spelled q' under' place f' inner' definition' t'
        (.under selected field type composite opens')
    refine ⟨first :: rest, List.forall_mem_cons.mpr ⟨isFirst, areSegments⟩, ?_, ?_⟩
    · rw [whole, nameUnder, List.flatten_cons, List.append_assoc]
    · intro before after eq
      cases before with
      | nil => exact ⟨p, selections, .here _ _, by simp⟩
      | cons one others =>
        obtain ⟨rfl, eqRest⟩ := List.cons.inj eq
        obtain ⟨q', inner', opens', nameQ⟩ := ways others after eqRest
        refine ⟨q', inner', .under selected field type composite opens', ?_⟩
        rw [nameQ, nameUnder, List.flatten_cons, List.append_assoc]

/-- No class on the way to a selection of an operation is named like another operation. -/
theorem className_ne {g : Generator} {d : Declaration} (has : HasOperations s g d) {q : Request}
    (asked : g.asks d = .ok q) {name : String} {o : Operation} (ho : (name, o) ∈ q.operations)
    {root : TypeDefinition} (rooted : rootType g.schema o = .ok root)
    (opens : Opens g.toSetting q.fragments (operationPlace name root) o.selections p selections)
    {r : Root} (hr : .root r ∈ s.registry.records) (other : name ≠ r.name) :
    p.className ≠ r.name := by
  have registered := has.registered asked ⟨name, o, root, ho, rooted, .here _ _⟩
  intro same
  rcases leaf_of_opens opens registered with rfl | ⟨l, hl, nameL⟩
  · exact other same
  · have sameName : (Record.leaf l).name = (Record.root r).name := nameL.trans same
    cases Registry.eq_of_name_eq hl hr sameName

/-- The aliases of the composite fields of a document have a letter or digit. -/
def SpellsAliases (g : Generator) (d : Declaration) : Prop :=
  ∀ q name o root, g.asks d = .ok q → (name, o) ∈ q.operations → rootType g.schema o = .ok root →
    AliasesSpelled g.toSetting q.fragments (operationPlace name root) o.selections

/-- The documents have no operations of one name. -/
def OperationsApart (g : Generator) (d e : Declaration) : Prop :=
  ∀ q name o q' name' o', g.asks d = .ok q → (name, o) ∈ q.operations →
    g.asks e = .ok q' → (name', o') ∈ q'.operations → name ≠ name'

/-- **Where aliases have a letter or digit, selections of documents without a common operation name
have different class names**, if both documents have their classes. -/
theorem ne_of_aliases {g : Generator} {d e : Declaration} (has : HasOperations s g d)
    (has' : HasOperations s g e) (apart : OperationsApart g d e) (spelled : SpellsAliases g d)
    (spelled' : SpellsAliases g e) {l l' : Leaf} (asked : Classes g d (.leaf l))
    (asked' : Classes g e (.leaf l')) : l.name ≠ l'.name := by
  obtain ⟨q, name, o, root, place, inner, ok, ho, rooted, opens, nameL⟩ := opens_of_classes asked
  obtain ⟨q', name', o', root', place', inner', ok', ho', rooted', opens', nameL'⟩ :=
    opens_of_classes asked'
  have other := apart q name o q' name' o' ok ho ok' ho'
  obtain ⟨r, hr, rfl⟩ := has.exists_root ok ho
  obtain ⟨r', hr', rfl⟩ := has'.exists_root ok' ho'
  obtain ⟨segments, areSegments, whole, ways⟩ :=
    exists_segments opens (spelled q _ o root ok ho rooted)
  obtain ⟨segments', areSegments', whole', ways'⟩ :=
    exists_segments opens' (spelled' q' _ o' root' ok' ho' rooted')
  intro same
  rw [← nameL, same, nameL', whole'] at whole
  rcases Naming.prefix_of_append_eq areSegments areSegments' whole.symm with
    ⟨before, after, eq, nameEq⟩ | ⟨before, after, eq, nameEq⟩
  · obtain ⟨way, under, opensWay, nameWay⟩ := ways before after eq
    exact className_ne has ok ho rooted opensWay hr' other
      (String.toList_injective (nameWay.trans nameEq.symm))
  · obtain ⟨way, under, opensWay, nameWay⟩ := ways' before after eq
    exact className_ne has' ok' ho' rooted' opensWay hr (Ne.symm other)
      (String.toList_injective (nameWay.trans nameEq.symm))

/-! ## Independence -/

/-- The later session has the classes of the earlier, unchanged, and above them the classes of
operations and selections that the fresh session has. -/
def Independent (before after fresh : Session) : Prop :=
  ∃ added, after.registry.records = before.registry.records ++ added ∧
    added.filter Record.isResult = fresh.registry.records.filter Record.isResult

/-- No class name is that of a selection of both documents. -/
def SharesNoClass (g : Generator) (d e : Declaration) : Prop :=
  ∀ l l', Classes g d (.leaf l) → Classes g e (.leaf l') → l.name ≠ l'.name

/-- The selections of a document meet names of classes that are there exactly if they meet those of
selections of earlier documents. -/
theorem namesNew_iff {g : Generator} {earlier : List Declaration}
    (succeed : AllSucceed (callsOf g earlier)) {d : Declaration}
    (succeeds : Succeeds (after {} (callsOf g earlier)) g d) :
    NamesNew g d (after {} (callsOf g earlier)).registry.records ↔
      ∀ e ∈ earlier, SharesNoClass g d e := by
  constructor
  · intro new e he l l' asked asked' same
    have mem : (g, e) ∈ callsOf g earlier := List.mem_map_of_mem he
    obtain ⟨x, hx, name, -⟩ := (hasOperations_of_allSucceed succeed mem).hasLeaf asked'
    exact new l asked (List.mem_map.mpr ⟨_, hx, name.trans same.symm⟩)
  · intro none l asked taken
    have sound := sound_after closed_true (callsOf g earlier) fun _ _ _ _ _ => trivial
    have leads := leads_generate closed_true sound g d fun _ _ => trivial
    obtain ⟨x, hx, name⟩ := List.mem_map.mp taken
    -- The class of the name is a selection in the end, so it has been one before.
    obtain ⟨y, hy, grown⟩ := leads.grows.registry.records x hx
    obtain ⟨m, hm, nameM, -⟩ := (hasOperations_of_succeeds sound succeeds).hasLeaf asked
    cases Registry.eq_of_name_eq hy hm (grown.name_eq.trans (name.trans nameM.symm))
    have kind := grown.kind_eq
    cases x with
    | leaf old =>
      obtain ⟨g', e, l', mem, asked', name'⟩ := namedByDocument_after _ hx
      obtain ⟨e', he, pair⟩ := List.mem_map.mp mem
      cases pair
      exact none _ he l l' asked asked' (name.symm.trans name'.symm)
    | root | input | enum => cases kind

/-- What a call leaves unchanged and adds depends on the names of its selections only. -/
theorem independent_iff_namesNew {g : Generator} {d : Declaration} {s f : Session}
    (mirrors : Mirrors g.toSetting s.registry.records (NamesNew g d s.registry.records) s' f)
    (has : HasOperations f g d) : Independent s s' f ↔ NamesNew g d s.registry.records := by
  refine ⟨?_, mirrors.added⟩
  rintro ⟨added, eq, same⟩ l asked taken
  -- The fresh session has a class of the name, which would be above as well as below.
  obtain ⟨m, hm, name, -⟩ := has.hasLeaf asked
  have kept : .leaf m ∈ added.filter Record.isResult := same ▸ List.mem_filter.mpr ⟨hm, rfl⟩
  have distinct := s'.registry.distinct
  rw [eq, List.map_append] at distinct
  exact (List.nodup_append.mp distinct).2.2 _ taken _
    (List.mem_map_of_mem (List.mem_filter.mp kept).1) name.symm

/-- The operations of a call that succeeds have not had classes before. -/
theorem operationsApart_of_mirrors {g : Generator} {d e : Declaration} {clean : Prop}
    {s f : Session} (mirrors : Mirrors g.toSetting s.registry.records clean s' f)
    (has : HasOperations f g d) (before : HasOperations s g e) : OperationsApart g d e := by
  rintro q name o q' name' o' ok ho ok' ho' rfl
  obtain ⟨r, hr, nameR⟩ := has.exists_root ok ho
  obtain ⟨r', hr', nameR'⟩ := before.exists_root ok' ho'
  exact mirrors.roots r hr (List.mem_map.mpr ⟨_, hr', nameR'.trans nameR.symm⟩)

/-- **A call that succeeds after others succeeds on its own as well. It leaves their classes
unchanged and adds the classes of operations and selections that it adds on its own, exactly if no
class name is that of a selection of its document and of an earlier one**; so it does if the aliases
of composite fields have a letter or digit. -/
theorem independent_iff (g : Generator) (apart : InputNamesApart g.schema)
    (earlier : List Declaration) (succeed : AllSucceed (callsOf g earlier)) (d : Declaration)
    (succeeds : Succeeds (after {} (callsOf g earlier)) g d) :
    Succeeds {} g d ∧
    (Independent (after {} (callsOf g earlier)) (after {} (callsOf g (earlier ++ [d])))
        (after {} (callsOf g [d])) ↔ ∀ e ∈ earlier, SharesNoClass g d e) ∧
    ((∀ e ∈ d :: earlier, SpellsAliases g e) →
      Independent (after {} (callsOf g earlier)) (after {} (callsOf g (earlier ++ [d])))
        (after {} (callsOf g [d]))) := by
  have split : callsOf g (earlier ++ [d]) = callsOf g earlier ++ [(g, d)] := List.map_append
  have one : callsOf g [d] = [] ++ [(g, d)] := rfl
  rw [split, one, after_concat, after_concat]
  have start := mirrors_fresh (settled_after apart earlier succeed)
    (NamesNew g d (after {} (callsOf g earlier)).registry.records)
  obtain ⟨alone, mirrors⟩ := succeeds_of_follows (follows_generate apart start id) succeeds
  have fresh := hasOperations_of_succeeds (sound_empty _) alone
  have names := (independent_iff_namesNew mirrors fresh).trans (namesNew_iff succeed succeeds)
  refine ⟨alone, names, fun spelled => names.mpr fun e he l l' asked asked' => ?_⟩
  have before := hasOperations_of_allSucceed succeed (List.mem_map_of_mem (f := Prod.mk g) he)
  have sound := sound_after closed_true (callsOf g earlier) fun _ _ _ _ _ => trivial
  have grows := (leads_generate closed_true sound g d fun _ _ => trivial).grows
  exact ne_of_aliases (hasOperations_of_succeeds sound succeeds) (before.of_grows grows)
    (operationsApart_of_mirrors mirrors fresh before) (spelled d List.mem_cons_self)
    (spelled e (List.mem_cons_of_mem _ he)) asked asked'

/-- A document with another operation than the one that spreads a fragment. -/
def besideSpreading : Declaration := { text := "query Qb{u{b}}" }

theorem asks_besideSpreading : ∃ text, sampleGenerator.asks besideSpreading = .ok
    { operations := [("Qb", { kind := .query, name? := some "Qb"
                              selections := [.field { name := "u" }
                                [.field { name := "b" } []]] })]
      fragments := [], queryText := text } := by
  have read : readDocument (sampleGenerator.hooks.runBefore besideSpreading) = .ok
      [.operation { kind := .query, name? := some "Qb"
                    selections := [.field { name := "u" } [.field { name := "b" } []]] }] := by
    cbv
  unfold Generator.asks Generator.request
  rw [read]
  exact ⟨_, rfl⟩

theorem succeeds_besideSpreading :
    Succeeds (after {} (callsOf sampleGenerator [spreading])) sampleGenerator besideSpreading := by
  obtain ⟨text, asked⟩ := asks_spreading
  obtain ⟨text', asked'⟩ := asks_besideSpreading
  have one : after {} (callsOf sampleGenerator [spreading]) =
      ((sampleGenerator.generate spreading).outcome {}).2 := rfl
  unfold Succeeds
  rw [outcome_generate asked', one, outcome_generate asked]
  cbv

theorem inputNamesApart_sample : InputNamesApart sample := by
  have none : ∀ t ∈ sample.types, t.kind ≠ .input := by decide
  exact fun t ht _ _ kind => absurd kind (none t ht)

theorem independent_iff_spreading : InputNamesApart sample ∧
    AllSucceed (callsOf sampleGenerator [spreading]) ∧
    Succeeds (after {} (callsOf sampleGenerator [spreading])) sampleGenerator besideSpreading ∧
    Succeeds {} sampleGenerator besideSpreading ∧
    (Independent (after {} (callsOf sampleGenerator [spreading]))
        (after {} (callsOf sampleGenerator ([spreading] ++ [besideSpreading])))
        (after {} (callsOf sampleGenerator [besideSpreading])) ↔
      ∀ e ∈ [spreading], SharesNoClass sampleGenerator besideSpreading e) ∧
    ((∀ e ∈ [besideSpreading, spreading], SpellsAliases sampleGenerator e) →
      Independent (after {} (callsOf sampleGenerator [spreading]))
        (after {} (callsOf sampleGenerator ([spreading] ++ [besideSpreading])))
        (after {} (callsOf sampleGenerator [besideSpreading]))) :=
  ⟨inputNamesApart_sample, allSucceed_singleton succeeds_spreading, succeeds_besideSpreading,
    independent_iff sampleGenerator inputNamesApart_sample [spreading]
      (allSucceed_singleton succeeds_spreading) besideSpreading succeeds_besideSpreading⟩

/-! ## A class of two documents -/

/-- A document with a selection under an alias that is an underscore. -/
def underscored : Declaration := { text := "query Aa{_:u{a}}" }

theorem asks_underscored : ∃ text, sampleGenerator.asks underscored = .ok
    { operations := [("Aa", { kind := .query, name? := some "Aa"
                              selections := [.field { alias? := some "_", name := "u" }
                                [.field { name := "a" } []]] })]
      fragments := [], queryText := text } := by
  have read : readDocument (sampleGenerator.hooks.runBefore underscored) = .ok
      [.operation { kind := .query, name? := some "Aa"
                    selections := [.field { alias? := some "_", name := "u" }
                      [.field { name := "a" } []]] }] := by
    cbv
  unfold Generator.asks Generator.request
  rw [read]
  exact ⟨_, rfl⟩

/-- A document whose operation has a name with an underscore at its end. -/
def trailing : Declaration := { text := "query Aa_{u{b}}" }

theorem asks_trailing : ∃ text, sampleGenerator.asks trailing = .ok
    { operations := [("Aa_", { kind := .query, name? := some "Aa_"
                               selections := [.field { name := "u" }
                                 [.field { name := "b" } []]] })]
      fragments := [], queryText := text } := by
  have read : readDocument (sampleGenerator.hooks.runBefore trailing) = .ok
      [.operation { kind := .query, name? := some "Aa_"
                    selections := [.field { name := "u" } [.field { name := "b" } []]] }] := by
    cbv
  unfold Generator.asks Generator.request
  rw [read]
  exact ⟨_, rfl⟩

/-- **Two documents can share a class**: what the second selects is added to the class that the
first has got, which is not left as it was. -/
theorem merged_across_documents : AllSucceed (callsOf sampleGenerator [underscored]) ∧
    Succeeds (after {} (callsOf sampleGenerator [underscored])) sampleGenerator trailing ∧
    ¬ Independent (after {} (callsOf sampleGenerator [underscored]))
      (after {} (callsOf sampleGenerator [underscored, trailing]))
      (after {} (callsOf sampleGenerator [trailing])) := by
  obtain ⟨text, asked⟩ := asks_underscored
  obtain ⟨text', asked'⟩ := asks_trailing
  have one : after {} (callsOf sampleGenerator [underscored]) =
      ((sampleGenerator.generate underscored).outcome {}).2 := rfl
  refine ⟨allSucceed_singleton ?_, ?_, ?_⟩
  · unfold Succeeds
    rw [outcome_generate asked]
    cbv
  · unfold Succeeds
    rw [outcome_generate asked', one, outcome_generate asked]
    cbv
  · rintro ⟨added, eq, -⟩
    have changed : ((after {} (callsOf sampleGenerator [underscored])).registry.records.any fun x =>
        !decide (x ∈ ((sampleGenerator.generate trailing).outcome
          (after {} (callsOf sampleGenerator [underscored]))).2.registry.records)) = true := by
      rw [outcome_generate asked', one, outcome_generate asked]
      cbv
    obtain ⟨x, hx, other⟩ := List.any_eq_true.mp changed
    have gone : x ∉ ((sampleGenerator.generate trailing).outcome
        (after {} (callsOf sampleGenerator [underscored]))).2.registry.records := by
      simpa using other
    exact gone (eq ▸ List.mem_append_left added hx)

end QueryShape.Generation
