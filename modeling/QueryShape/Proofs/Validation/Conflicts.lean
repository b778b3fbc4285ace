import QueryShape.Proofs.Validation.Context
import QueryShape.Proofs.Validation.Sets

/-!
# Conflicts of what is sent

Fields that share a response key are compared in the same order when type names are asked for in
addition. The comparisons of type names find nothing, and the others find the same.

* `Agrees`: two comparisons that go on from the same state, type names apart, and leave the same.
* `findsSame`: any comparison finds the same of what is sent.
* `agrees_overlapComplaints`: so there are no conflicts in what is sent if there are none before.
-/

namespace QueryShape.Validation

open Document Schema

/-! ## Agreement -/

/-- The sets are the same apart from type names. -/
structure SameSet (a a' : FieldSet) : Prop where
  erased : a'.erased = a.erased
  plain : a.Plain
  plain' : a'.Plain

/-- The same has been compared, type names apart. -/
structure SameCompared (state state' : Compared) : Prop where
  sets : List.Forall₂ SameSet state.sets state'.sets
  fragmentPairs : state'.fragmentPairs = state.fragmentPairs
  setPairs : state'.setPairs = state.setPairs

/-- From the same state the results are related, and the state is left the same. -/
def Agrees (R : α → β → Prop) (m : StateM Compared α) (m' : StateM Compared β) : Prop :=
  ∀ state state', SameCompared state state' →
    R (m.run state).1 (m'.run state').1 ∧ SameCompared (m.run state).2 (m'.run state').2

theorem agrees_pure {R : α → β → Prop} {a : α} {b : β} (h : R a b) :
    Agrees R (pure a) (pure b) := fun _ _ same => ⟨h, same⟩

theorem Agrees.bind {R : α → β → Prop} {Q : γ → δ → Prop} {m : StateM Compared α}
    {m' : StateM Compared β} {f : α → StateM Compared γ} {f' : β → StateM Compared δ}
    (h : Agrees R m m') (next : ∀ a b, R a b → Agrees Q (f a) (f' b)) :
    Agrees Q (m >>= f) (m' >>= f') := by
  intro state state' same
  obtain ⟨related, left⟩ := h state state' same
  exact next _ _ related _ _ left

theorem SameSet.path_eq {a a' : FieldSet} (h : SameSet a a') : a'.path = a.path :=
  (congrArg FieldSet.path h.erased :)

/-! ## Reading sets -/

variable {c : Context}

/-- The same set is found at a path. -/
theorem find?_sets {sets sets' : List FieldSet} (same : List.Forall₂ SameSet sets sets')
    (path : List Nat) :
    Option.Rel SameSet (sets.find? (·.path == path)) (sets'.find? (·.path == path)) := by
  induction same with
  | nil => exact .none
  | @cons a a' rest rest' here _ ih =>
    rw [List.find?_cons, List.find?_cons, here.path_eq]
    cases a.path == path
    · exact ih
    · exact .some here

theorem readSet_run (s : Schema) (parent? : Option TypeDefinition) (path : List Nat)
    (selections : List Selection) (state : Compared) :
    (readSet s parent? path selections).run state =
      match state.sets.find? (·.path == path) with
      | some set => (set, state)
      | none => (FieldSet.ofSelections s parent? path selections,
          { state with
            sets := FieldSet.ofSelections s parent? path selections :: state.sets }) := by
  cases found : state.sets.find? (·.path == path) with
  | none =>
    simp only [readSet, bind, StateT.bind, StateT.run, get, getThe, MonadStateOf.get, StateT.get,
      pure, found]
    rfl
  | some set =>
    simp only [readSet, bind, StateT.bind, StateT.run, get, getThe, MonadStateOf.get, StateT.get,
      pure, found]
    rfl

/-- Selections whose sets are the same apart from type names are read alike. -/
theorem agrees_readSet {s : Schema} (sound : s.isSound = true) {parent? : Option TypeDefinition}
    (known : Of s parent?) (path : List Nat) {selections selections' : List Selection}
    (plain : PlainNames selections) (plain' : PlainNames selections')
    (same : (FieldSet.ofSelections s parent? path selections').erased =
      (FieldSet.ofSelections s parent? path selections).erased) :
    Agrees SameSet (readSet s parent? path selections) (readSet s parent? path selections') := by
  intro state state' h
  have new : SameSet (FieldSet.ofSelections s parent? path selections)
      (FieldSet.ofSelections s parent? path selections') :=
    ⟨same, plain_ofSelections sound known path plain, plain_ofSelections sound known path plain'⟩
  have found := find?_sets h.sets path
  rw [readSet_run, readSet_run]
  cases first : state.sets.find? (·.path == path) <;>
    cases second : state'.sets.find? (·.path == path) <;> rw [first, second] at found
  · exact ⟨new, .cons new h.sets, h.fragmentPairs, h.setPairs⟩
  · cases found
  · cases found
  · cases found with
    | some here => exact ⟨here, h⟩

/-- All fragments of the document are plain. -/
def PlainFragments (c : Context) : Prop :=
  ∀ f ∈ fragments c.document, PlainNames f.selections

/-- The fragments of a document, with their places in it. -/
def indexedFragments (document : Document) : List (Fragment × Nat) :=
  document.zipIdx.filterMap fun (definition, index) => definition.fragment?.map fun f => (f, index)

theorem indexedFragments_addTypename (document : Document) :
    indexedFragments (addTypename document) =
      (indexedFragments document).map fun x => (sentFragment x.1, x.2) := by
  unfold indexedFragments addTypename
  rw [List.zipIdx_map, List.filterMap_map, List.map_filterMap]
  refine List.filterMap_congr fun x _ => ?_
  obtain ⟨d, index⟩ := x
  cases d <;> rfl

theorem readFragment?_eq (c : Context) (name : String) : readFragment? c name =
    match (indexedFragments c.document).reverse.find? (·.1.name == name) with
    | some (f, index) => do
      return some (← readSet c.schema (c.schema.type? f.condition) [index] f.selections)
    | none => return none :=
  rfl

/-- A fragment that is sent is read alike. -/
theorem agrees_readFragment? (sound : c.schema.isSound = true) (plain : PlainFragments c)
    (name : String) :
    Agrees (Option.Rel SameSet) (readFragment? c name) (readFragment? c.sent name) := by
  have sent : (indexedFragments c.sent.document).reverse.find? (·.1.name == name) =
      ((indexedFragments c.document).reverse.find? (·.1.name == name)).map
        fun x => (sentFragment x.1, x.2) := by
    rw [Context.sent, indexedFragments_addTypename, ← List.map_reverse, List.find?_map]
    rfl
  have schema : c.sent.schema = c.schema := rfl
  rw [readFragment?_eq, readFragment?_eq, sent, schema]
  cases found : (indexedFragments c.document).reverse.find? (·.1.name == name) with
  | none => exact agrees_pure .none
  | some x =>
    obtain ⟨f, index⟩ := x
    have below : PlainNames f.selections := by
      obtain ⟨y, hy, isFragment⟩ :=
        List.mem_filterMap.mp (List.mem_reverse.mp (List.mem_of_find?_eq_some found))
      obtain ⟨f', is, eq⟩ := Option.map_eq_some_iff.mp isFragment
      cases eq
      exact plain f (List.mem_filterMap.mpr ⟨y.1, List.fst_mem_of_mem_zipIdx hy, is⟩)
    refine (agrees_readSet sound (of_type? c.schema f.condition) [index] below
      (plainNames_addTypenames below)
      (erased_ofSelections_addTypenames ..)).bind fun a a' same => agrees_pure (.some same)

theorem agrees_noteSet (exclusive : Bool) {a a' : FieldSet} (same : SameSet a a')
    (fragment : String) :
    Agrees Eq (noteSet exclusive a fragment) (noteSet exclusive a' fragment) := by
  intro state state' h
  have run (set : FieldSet) (st : Compared) : (noteSet exclusive set fragment).run st =
      if isCompared st.setPairs exclusive (set.path, fragment) then (false, st)
      else (true, { st with setPairs := ((set.path, fragment), exclusive) :: st.setPairs }) := rfl
  rw [run, run, same.path_eq, h.setPairs]
  split
  · exact ⟨rfl, h⟩
  · exact ⟨rfl, h.sets, h.fragmentPairs, rfl⟩

theorem agrees_noteFragments (exclusive : Bool) (first second : String) :
    Agrees Eq (noteFragments exclusive first second) (noteFragments exclusive first second) := by
  intro state state' h
  have run (st : Compared) : (noteFragments exclusive first second).run st =
      if isCompared st.fragmentPairs exclusive (unordered first second) then (false, st)
      else (true, { st with
        fragmentPairs := (unordered first second, exclusive) :: st.fragmentPairs }) := rfl
  rw [run, run, h.fragmentPairs]
  split
  · exact ⟨rfl, h⟩
  · exact ⟨rfl, h.sets, rfl, h.setPairs⟩

/-! ## Comparing -/

/-- The comparisons are the same apart from type names. -/
structure SameComparison (x x' : Comparison) : Prop where
  erased : x'.erased = x.erased
  plain : x.Plain
  plain' : x'.Plain

/-- **Comparing type names finds nothing**, and leaves what has been compared as it is. -/
theorem conflictsOf_typenames (c : Context) (limit : Nat) (exclusive : Bool) {x : Comparison}
    (names : x.ofTypenames = true) (plain : x.Plain) :
    conflictsOf c limit exclusive x = pure [] := by
  cases limit with
  | zero => rw [conflictsOf]
  | succ limit =>
    cases x with
    | members key a b =>
      have key : key = typenameField := beq_iff_eq.mp names
      subst key
      obtain ⟨⟨keyA, plainA⟩, ⟨keyB, plainB⟩⟩ := plain
      have nameA := plainA.isTypename keyA
      have nameB := plainB.isTypename keyB
      have alike : sameArguments a.field b.field = true := by
        unfold sameArguments
        rw [nameA.arguments, nameB.arguments]
        rfl
      have none (exclusive : Bool) : ownConflict? c.schema exclusive a b = none := by
        unfold ownConflict?
        rw [nameA.name, nameB.name, alike, nameA.type?]
        simp
      rw [conflictsOf, none, nameA.selections]
      rfl
    | _ => cases names

/-- So comparisons of type names can be left out. -/
theorem conflictsOfAll_filter (c : Context) (limit : Nat) (exclusive : Bool)
    {comparisons : List Comparison} (plain : ∀ x ∈ comparisons, x.Plain) :
    conflictsOfAll c limit exclusive (comparisons.filter (!·.ofTypenames)) =
      conflictsOfAll c limit exclusive comparisons := by
  induction comparisons with
  | nil => rfl
  | cons x rest ih =>
    obtain ⟨here, others⟩ := List.forall_mem_cons.mp plain
    rw [conflictsOfAll, ← ih others]
    by_cases names : x.ofTypenames = true
    · rw [List.filter_cons_of_neg (by simp [names]),
        conflictsOf_typenames c limit exclusive names here]
      simp
    · rw [List.filter_cons_of_pos (by simp [names]), conflictsOfAll]

/-- Comparisons find the same of what is sent, up to a limit. -/
def FindsSame (c : Context) (limit : Nat) : Prop :=
  ∀ (exclusive : Bool) (x x' : Comparison), SameComparison x x' →
    Agrees Eq (conflictsOf c limit exclusive x) (conflictsOf c.sent limit exclusive x')

theorem agrees_conflictsOfAll_of_forall₂ {limit : Nat} (each : FindsSame c limit)
    {exclusive : Bool} {list list' : List Comparison}
    (same : List.Forall₂ SameComparison list list') :
    Agrees Eq (conflictsOfAll c limit exclusive list)
      (conflictsOfAll c.sent limit exclusive list') := by
  induction same with
  | nil =>
    rw [conflictsOfAll, conflictsOfAll]
    exact agrees_pure rfl
  | @cons x x' rest rest' here _ ih =>
    rw [conflictsOfAll, conflictsOfAll]
    refine (each exclusive x x' here).bind fun found found' eq => ?_
    refine ih.bind fun others others' eq' => ?_
    rw [eq, eq']
    exact agrees_pure rfl

theorem forall₂_of_map_eq {f : α → β} {p : α → Prop} {list list' : List α}
    (same : list'.map f = list.map f) (all : ∀ x ∈ list, p x) (all' : ∀ x ∈ list', p x) :
    List.Forall₂ (fun x x' => f x' = f x ∧ p x ∧ p x') list list' := by
  induction list generalizing list' with
  | nil =>
    rw [List.map_eq_nil_iff.mp same]
    exact .nil
  | cons x rest ih =>
    cases list' with
    | nil => cases same
    | cons x' rest' =>
      obtain ⟨here, others⟩ := List.cons.inj same
      obtain ⟨holds, each⟩ := List.forall_mem_cons.mp all
      obtain ⟨holds', each'⟩ := List.forall_mem_cons.mp all'
      exact .cons ⟨here, holds, holds'⟩ (ih others each each')

/-- Comparisons that are the same apart from type names find the same. -/
theorem agrees_conflictsOfAll {limit : Nat} (each : FindsSame c limit) (exclusive : Bool)
    {list list' : List Comparison} (same : erasedAll list' = erasedAll list)
    (plain : ∀ x ∈ list, x.Plain) (plain' : ∀ x ∈ list', x.Plain) :
    Agrees Eq (conflictsOfAll c limit exclusive list)
      (conflictsOfAll c.sent limit exclusive list') := by
  rw [← conflictsOfAll_filter c limit exclusive plain,
    ← conflictsOfAll_filter c.sent limit exclusive plain']
  refine agrees_conflictsOfAll_of_forall₂ each ?_
  have left {list : List Comparison} (plain : ∀ x ∈ list, x.Plain) :
      ∀ x ∈ list.filter (!·.ofTypenames), x.Plain := fun x hx => plain x (List.mem_filter.mp hx).1
  exact (forall₂_of_map_eq same (left plain) (left plain')).imp
    fun x x' ⟨erased, here, here'⟩ => ⟨erased, here, here'⟩

/-- The type of a field is one of the schema. -/
def typeOf (s : Schema) (m : Member) : Option TypeDefinition :=
  m.type?.bind fun t => s.type? t.bareName

theorem of_typeOf (s : Schema) (m : Member) : Of s (typeOf s m) := by
  intro t h
  obtain ⟨type, -, found⟩ := Option.bind_eq_some_iff.mp h
  exact of_type? s type.bareName t found

/-- The set under a field is read alike when the field is sent. -/
theorem agrees_readUnder (sound : c.schema.isSound = true) {m m' : Member} (plain : m.Plain)
    (plain' : m'.Plain) (same : sentMember m' = sentMember m) :
    Agrees SameSet (readSet c.schema (typeOf c.schema m) m.path m.selections)
      (readSet c.schema (typeOf c.schema m') m'.path m'.selections) := by
  have path : m'.path = m.path := (congrArg Member.path same :)
  have type : m'.type? = m.type? := (congrArg Member.type? same :)
  have under : sentUnder m'.selections = sentUnder m.selections :=
    (congrArg Member.selections same :)
  have types : typeOf c.schema m' = typeOf c.schema m := by
    unfold typeOf
    rw [type]
  rw [path, types]
  refine agrees_readSet sound (of_typeOf c.schema m) m.path plain.below plain'.below ?_
  rw [← erased_ofSelections_sentUnder, under, erased_ofSelections_sentUnder]

section

variable (sound : c.schema.isSound = true) {limit : Nat} (each : FindsSame c limit)
  (exclusive : Bool)

include sound each in
/-- Two fields conflict when they are sent exactly if they conflict. -/
theorem agrees_members {key : String} {a a' b b' : Member}
    (plain : (Comparison.members key a b).Plain) (plain' : (Comparison.members key a' b').Plain)
    (sameA : sentMember a' = sentMember a) (sameB : sentMember b' = sentMember b) :
    Agrees Eq (conflictsOf c (limit + 1) exclusive (.members key a b))
      (conflictsOf c.sent (limit + 1) exclusive (.members key a' b')) := by
  -- nothing but whether there are selections is read of those under the fields
  have own (exclusive : Bool) : ownConflict? c.sent.schema exclusive a' b' =
      ownConflict? c.schema exclusive a b := by
    change ownConflict? c.schema exclusive (sentMember a') (sentMember b') = _
    rw [sameA, sameB]
    rfl
  have together : neverTogether a'.parent? b'.parent? = neverTogether a.parent? b.parent? := by
    change neverTogether (sentMember a').parent? (sentMember b').parent? = _
    rw [sameA, sameB]
    rfl
  have under {m m' : Member} (same : sentMember m' = sentMember m) :
      m'.selections.isEmpty = m.selections.isEmpty := by
    rw [← isEmpty_sentUnder, ← isEmpty_sentUnder m.selections]
    exact congrArg (·.selections.isEmpty) same
  rw [conflictsOf, conflictsOf, together, under sameA, under sameB, own]
  cases ownConflict? c.schema (exclusive || neverTogether a.parent? b.parent?) a b with
  | some reason => exact agrees_pure rfl
  | none =>
    dsimp only
    split
    · exact agrees_pure rfl
    · refine (agrees_readUnder sound plain.1.2 plain'.1.2 sameA).bind fun first first' hf => ?_
      refine (agrees_readUnder sound plain.2.2 plain'.2.2 sameB).bind fun second second' hs => ?_
      have wholes : SameComparison (.wholeSets first second) (.wholeSets first' second') :=
        ⟨by rw [Comparison.erased, hf.erased, hs.erased]; rfl, ⟨hf.plain, hs.plain⟩,
          ⟨hf.plain', hs.plain'⟩⟩
      refine (each _ _ _ wholes).bind fun found found' eq => ?_
      rw [eq]
      exact agrees_pure rfl

include each in
/-- So do two sets of fields. -/
theorem agrees_sets {a a' b b' : FieldSet} (sameA : SameSet a a') (sameB : SameSet b b') :
    Agrees Eq (conflictsOf c (limit + 1) exclusive (.sets a b))
      (conflictsOf c.sent (limit + 1) exclusive (.sets a' b')) := by
  rw [conflictsOf, conflictsOf]
  refine agrees_conflictsOfAll each exclusive ?_ (plain_pairsBetween sameA.plain sameB.plain)
    (plain_pairsBetween sameA.plain' sameB.plain')
  rw [erasedAll_pairsBetween, erasedAll_pairsBetween, sameA.erased, sameB.erased]

include sound each in
/-- So do a set and a fragment. -/
theorem agrees_setWithFragment (plain : PlainFragments c) {a a' : FieldSet} (same : SameSet a a')
    (fragment : String) :
    Agrees Eq (conflictsOf c (limit + 1) exclusive (.setWithFragment a fragment))
      (conflictsOf c.sent (limit + 1) exclusive (.setWithFragment a' fragment)) := by
  rw [conflictsOf, conflictsOf]
  refine (agrees_noteSet exclusive same fragment).bind fun isNew isNew' eq => ?_
  subst eq
  split
  · exact agrees_pure rfl
  · refine (agrees_readFragment? sound plain fragment).bind fun b? b'? read => ?_
    cases read with
    | none => exact agrees_pure rfl
    | @some b b' sameB =>
      dsimp only
      rw [same.path_eq, sameB.path_eq]
      split
      · exact agrees_pure rfl
      · refine agrees_conflictsOfAll each exclusive ?_ (plain_withFragment same.plain sameB.plain)
          (plain_withFragment same.plain' sameB.plain')
        rw [erasedAll_withFragment, erasedAll_withFragment, same.erased, sameB.erased]

include sound each in
/-- So do two fragments. -/
theorem agrees_fragments (plain : PlainFragments c) (first second : String) :
    Agrees Eq (conflictsOf c (limit + 1) exclusive (.fragments first second))
      (conflictsOf c.sent (limit + 1) exclusive (.fragments first second)) := by
  rw [conflictsOf, conflictsOf]
  split
  · exact agrees_pure rfl
  · refine (agrees_noteFragments exclusive first second).bind fun isNew isNew' eq => ?_
    subst eq
    split
    · exact agrees_pure rfl
    · refine (agrees_readFragment? sound plain first).bind fun a? a'? readA => ?_
      refine (agrees_readFragment? sound plain second).bind fun b? b'? readB => ?_
      cases readA with
      | none => exact agrees_pure rfl
      | @some a a' sameA =>
        cases readB with
        | none => exact agrees_pure rfl
        | @some b b' sameB =>
          refine agrees_conflictsOfAll each exclusive ?_
            (plain_ofFragments sameA.plain sameB.plain _ _)
            (plain_ofFragments sameA.plain' sameB.plain' _ _)
          rw [erasedAll_ofFragments, erasedAll_ofFragments, sameA.erased, sameB.erased]

include each in
/-- So do two sets with the fragments that they spread. -/
theorem agrees_wholeSets {a a' b b' : FieldSet} (sameA : SameSet a a') (sameB : SameSet b b') :
    Agrees Eq (conflictsOf c (limit + 1) exclusive (.wholeSets a b))
      (conflictsOf c.sent (limit + 1) exclusive (.wholeSets a' b')) := by
  rw [conflictsOf, conflictsOf]
  refine agrees_conflictsOfAll each exclusive ?_ (plain_partsOfWholes sameA.plain sameB.plain)
    (plain_partsOfWholes sameA.plain' sameB.plain')
  rw [erasedAll_partsOfWholes, erasedAll_partsOfWholes, sameA.erased, sameB.erased]

end

/-- **A comparison finds the same** of what is sent. -/
theorem findsSame (sound : c.schema.isSound = true) (plain : PlainFragments c) (limit : Nat) :
    FindsSame c limit := by
  induction limit with
  | zero =>
    intro exclusive x x' _
    rw [conflictsOf, conflictsOf]
    exact agrees_pure rfl
  | succ limit each =>
    rintro exclusive x x' ⟨erased, plainX, plainX'⟩
    cases x with
    | members key a b =>
      cases x' with
      | members key' a' b' =>
        obtain ⟨rfl, sameA, sameB⟩ := Comparison.members.inj erased
        exact agrees_members sound each exclusive plainX plainX' sameA sameB
      | _ => cases erased
    | sets a b =>
      cases x' with
      | sets a' b' =>
        obtain ⟨sameA, sameB⟩ := Comparison.sets.inj erased
        exact agrees_sets each exclusive ⟨sameA, plainX.1, plainX'.1⟩
          ⟨sameB, plainX.2, plainX'.2⟩
      | _ => cases erased
    | setWithFragment a fragment =>
      cases x' with
      | setWithFragment a' fragment' =>
        obtain ⟨same, rfl⟩ := Comparison.setWithFragment.inj erased
        exact agrees_setWithFragment sound each exclusive plain ⟨same, plainX, plainX'⟩ fragment'
      | _ => cases erased
    | fragments first second =>
      cases x' with
      | fragments first' second' =>
        obtain ⟨rfl, rfl⟩ := Comparison.fragments.inj erased
        exact agrees_fragments sound each exclusive plain first' second'
      | _ => cases erased
    | wholeSets a b =>
      cases x' with
      | wholeSets a' b' =>
        obtain ⟨sameA, sameB⟩ := Comparison.wholeSets.inj erased
        exact agrees_wholeSets each exclusive ⟨sameA, plainX.1, plainX'.1⟩
          ⟨sameB, plainX.2, plainX'.2⟩
      | _ => cases erased

/-! ## Places -/

/-- If the place is a selection set, it is plain and selects on a type of the schema. -/
def PlainPlace (s : Schema) (v : Visit) : Prop :=
  ∀ path selections, v.site = .selectionSet path selections →
    Of s v.scope.parent? ∧ PlainNames selections

/-- The conflicts at a place. -/
def conflictsAt (c : Context) (limit : Nat) (v : Visit) : StateM Compared (List Conflict) :=
  match v.site with
  | .selectionSet path selections => do
    let set ← readSet c.schema v.scope.parent? path selections
    conflictsOfAll c limit false (comparisonsWithin set)
  | _ => pure []

theorem overlapComplaints_cons_eq (c : Context) (limit : Nat) (v : Visit) (rest : List Visit) :
    overlapComplaints c limit (v :: rest) = (do
      let here ← conflictsAt c limit v
      return here.map Conflict.complaint :: (← overlapComplaints c limit rest)) := by
  obtain ⟨scope, site⟩ := v
  cases site <;> rfl

theorem agrees_comparisonsWithin (sound : c.schema.isSound = true) (plain : PlainFragments c)
    (limit : Nat) {a a' : FieldSet} (same : SameSet a a') :
    Agrees Eq (conflictsOfAll c limit false (comparisonsWithin a))
      (conflictsOfAll c.sent limit false (comparisonsWithin a')) := by
  refine agrees_conflictsOfAll (findsSame sound plain limit) false ?_
    (plain_comparisonsWithin same.plain) (plain_comparisonsWithin same.plain')
  rw [erasedAll_comparisonsWithin, erasedAll_comparisonsWithin, same.erased]

/-- The conflicts at a place are the same when it is sent. -/
theorem agrees_conflictsAt (sound : c.schema.isSound = true) (plain : PlainFragments c)
    (limit : Nat) {scope : Scope} {x x' : Site} (site : SentSite x x')
    (here : PlainPlace c.schema ⟨scope, x⟩) :
    Agrees Eq (conflictsAt c limit ⟨scope, x⟩) (conflictsAt c.sent limit ⟨scope, x'⟩) := by
  cases site with
  | other holds =>
    cases x with
    | selectionSet => cases holds
    | _ => exact agrees_pure rfl
  | set path selections =>
    obtain ⟨known, below⟩ := here path selections rfl
    exact (agrees_readSet sound known path below (plainNames_addTypenames below)
      (erased_ofSelections_addTypenames ..)).bind fun a a' same =>
        agrees_comparisonsWithin sound plain limit same
  | setUnder path selections =>
    obtain ⟨known, below⟩ := here path selections rfl
    exact (agrees_readSet sound known path below (plainNames_sentUnder below)
      (erased_ofSelections_sentUnder ..)).bind fun a a' same =>
        agrees_comparisonsWithin sound plain limit same
  | _ => exact agrees_pure rfl

/-- **There are no conflicts in what is sent** if there are none before. -/
theorem agrees_overlapComplaints (sound : c.schema.isSound = true) (plain : PlainFragments c)
    (limit : Nat) {places sent : List Visit} (visits : SentVisits c.schema places sent)
    (each : ∀ v ∈ places, PlainPlace c.schema v) :
    Agrees (fun words words' => (∀ w ∈ words, w = []) → ∀ w ∈ words', w = [])
      (overlapComplaints c limit places) (overlapComplaints c.sent limit sent) := by
  induction visits with
  | nil => exact agrees_pure fun none => none
  | @kept scope x x' places sent site _ ih =>
    obtain ⟨here, others⟩ := List.forall_mem_cons.mp each
    rw [overlapComplaints_cons_eq, overlapComplaints_cons_eq]
    refine (agrees_conflictsAt sound plain limit site here).bind fun found found' eq => ?_
    refine (ih others).bind fun words words' later => agrees_pure ?_
    rw [List.forall_mem_cons, List.forall_mem_cons, eq]
    exact And.imp_right later
  | @added scope places sent _ ih =>
    intro state state' same
    obtain ⟨later, left⟩ := ih each state state' same
    refine ⟨fun none => ?_, left⟩
    exact List.forall_mem_cons.mpr ⟨rfl, List.forall_mem_cons.mpr ⟨rfl, later none⟩⟩

/-! ## Documents -/

theorem HoldsNone.plainPlace {s : Schema} {places : List Visit} (h : HoldsNone places) :
    ∀ v ∈ places, PlainPlace s v := by
  intro v hv path selections isSet
  have holds := h v hv
  rw [isSet] at holds
  cases holds

theorem of_selecting (s : Schema) (scope : Scope) : Of s (scope.selecting s).parent? := by
  intro t h
  obtain ⟨type, -, h⟩ := Option.bind_eq_some_iff.mp h
  obtain ⟨t', found, h⟩ := Option.bind_eq_some_iff.mp h
  split at h
  · cases h
    exact of_type? s _ t found
  · cases h

mutual

theorem plainPlace_selection (s : Schema) (scope : Scope) (path : List Nat) {a : Selection}
    (plain : PlainName a) : ∀ v ∈ selectionVisits s scope path a, PlainPlace s v := by
  cases a with
  | field f inner =>
    rw [PlainName] at plain
    rw [selectionVisits, List.forall_mem_cons, List.forall_mem_append, List.forall_mem_append]
    have before := (holdsNone_flatMap fun a (_ : a ∈ f.arguments) =>
      holdsNone_argumentVisits s (scope.onField s f) a).append
      (holdsNone_directiveVisits s (scope.onField s f) "FIELD" f.directives)
    exact ⟨nofun, ⟨before.plainPlace, plainPlace_set s _ path plain.2⟩,
      (holdsNone_nil.cons rfl).plainPlace⟩
  | spread fragment directives =>
    rw [selectionVisits, List.forall_mem_cons]
    exact ⟨nofun, (holdsNone_directiveVisits s scope _ directives).plainPlace⟩
  | inline condition? directives inner =>
    rw [PlainName] at plain
    rw [selectionVisits, List.forall_mem_cons, List.forall_mem_append]
    have before : HoldsNone
        (condition?.toList.map (⟨scope.onInline s condition?, .typeName ·⟩) ++
          directiveVisits s (scope.onInline s condition?) "INLINE_FRAGMENT" directives) :=
      (holdsNone_map fun _ _ => rfl).append (holdsNone_directiveVisits s _ _ directives)
    exact ⟨nofun, before.plainPlace, plainPlace_set s _ path plain⟩

theorem plainPlace_list (s : Schema) (scope : Scope) (path : List Nat) (position : Nat)
    {selections : List Selection} (plain : PlainNames selections) :
    ∀ v ∈ selectionListVisits s scope path position selections, PlainPlace s v := by
  cases selections with
  | nil =>
    rw [selectionListVisits]
    exact fun _ h => absurd h List.not_mem_nil
  | cons first rest =>
    rw [PlainNames] at plain
    rw [selectionListVisits, List.forall_mem_append]
    exact ⟨plainPlace_selection s scope _ plain.1, plainPlace_list s scope path _ plain.2⟩

theorem plainPlace_set (s : Schema) (scope : Scope) (path : List Nat)
    {selections : List Selection} (plain : PlainNames selections) :
    ∀ v ∈ selectionSetVisits s scope path selections, PlainPlace s v := by
  cases selections with
  | nil =>
    rw [selectionSetVisits]
    exact fun _ h => absurd h List.not_mem_nil
  | cons first rest =>
    have all := plain
    rw [PlainNames] at plain
    rw [selectionSetVisits, List.forall_mem_cons, List.forall_mem_append]
    refine ⟨fun _ _ isSet => ?_, plainPlace_selection s _ _ plain.1,
      plainPlace_list s _ _ _ plain.2⟩
    cases isSet
    exact ⟨of_selecting s scope, all⟩

end

/-- All operations and fragments of the document are plain. -/
structure PlainDocument (document : Document) : Prop where
  operations : ∀ o ∈ operations document, PlainNames o.selections
  fragments : ∀ f ∈ fragments document, PlainNames f.selections

theorem plainPlace_definition (s : Schema) (before : Document) (index : Nat) {d : Definition}
    (plain : PlainDocument [d]) : ∀ v ∈ definitionVisits s before index d, PlainPlace s v := by
  cases d with
  | operation o =>
    have below := plain.operations o (List.mem_singleton.mpr rfl)
    have parameters : HoldsNone (o.parameters.flatMap (variableVisits s (operationScope s o))) :=
      holdsNone_flatMap fun v _ => holdsNone_variableVisits s _ v
    unfold definitionVisits operationVisits operationBodyVisits
    simp only [List.forall_mem_cons, List.forall_mem_append]
    exact ⟨nofun, ⟨parameters.plainPlace,
      (holdsNone_directiveVisits s _ _ o.directives).plainPlace,
      plainPlace_set s _ _ below⟩, nofun, fun _ h => absurd h List.not_mem_nil⟩
  | fragment f =>
    have below := plain.fragments f (List.mem_singleton.mpr rfl)
    unfold definitionVisits fragmentVisits
    simp only [List.forall_mem_cons, List.forall_mem_append]
    exact ⟨⟨⟨nofun, nofun, fun _ h => absurd h List.not_mem_nil⟩,
      (holdsNone_directiveVisits s _ _ f.directives).plainPlace⟩, plainPlace_set s _ _ below⟩
  | schema d => exact (holdsNone_schemaVisits s _ d).plainPlace
  | type t => exact (holdsNone_typeVisits s _ t).plainPlace
  | directive d => exact (holdsNone_flatMap fun v _ => holdsNone_inputValueVisits s _ v).plainPlace

theorem plainPlace_definitions (s : Schema) (before : Document) (index : Nat)
    {document : Document} (plain : PlainDocument document) :
    ∀ v ∈ definitionListVisits s before index document, PlainPlace s v := by
  induction document generalizing before index with
  | nil => exact fun _ h => absurd h List.not_mem_nil
  | cons d rest ih =>
    have split : d :: rest = [d] ++ rest := rfl
    have operations : Document.operations (d :: rest) =
        Document.operations [d] ++ Document.operations rest := split ▸ List.filterMap_append
    have fragments : Document.fragments (d :: rest) =
        Document.fragments [d] ++ Document.fragments rest := split ▸ List.filterMap_append
    have allOperations := plain.operations
    have allFragments := plain.fragments
    rw [operations, List.forall_mem_append] at allOperations
    rw [fragments, List.forall_mem_append] at allFragments
    rw [definitionListVisits, List.forall_mem_append]
    exact ⟨plainPlace_definition s before index ⟨allOperations.1, allFragments.1⟩,
      ih _ _ ⟨allOperations.2, allFragments.2⟩⟩

/-- **The places of a plain document are plain.** -/
theorem plainPlace_visits (s : Schema) {document : Document} (plain : PlainDocument document) :
    ∀ v ∈ visits s document, PlainPlace s v := by
  unfold visits
  rw [List.forall_mem_cons, List.forall_mem_append]
  exact ⟨nofun, plainPlace_definitions s [] 0 plain, (holdsNone_nil.cons rfl).plainPlace⟩

end QueryShape.Validation
