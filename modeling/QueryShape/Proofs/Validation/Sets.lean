import QueryShape.Proofs.Schema.Fields
import QueryShape.Proofs.Validation.Places

/-!
# Sets of fields apart from type names

The fields that share the response key of type names never conflict, as long as they are all plain
type names. What is left of a set of fields without them is the same when the set is sent.

* `PlainNames`: only type names have the response key of type names.
* `FieldSet.erased`: a set without type names, with the selections under fields as they are sent.
* `erased_ofSelections_addTypenames`, `erased_ofSelections_sentUnder`: it is the same of what is
  sent.
* `erasedAll_pairsBetween` and the theorems next to it: what is compared then is the same.
-/

namespace QueryShape.Validation

open Document Schema

/-! ## Plain type names -/

mutual

/-- Fields with the response key of type names ask for the type name, and are the same in all but
their directives. -/
def PlainName : Selection → Prop
  | .field f inner =>
    (f.responseKey = typenameField → f.name = typenameField ∧ f.arguments = [] ∧ inner = []) ∧
      PlainNames inner
  | .spread .. => True
  | .inline _ _ inner => PlainNames inner

/-- So do all fields of the selections. -/
def PlainNames : List Selection → Prop
  | [] => True
  | first :: rest => PlainName first ∧ PlainNames rest

end

theorem plainNames_append {first rest : List Selection} :
    PlainNames (first ++ rest) ↔ PlainNames first ∧ PlainNames rest := by
  induction first with
  | nil => rw [List.nil_append, PlainNames, true_and]
  | cons a first ih => rw [List.cons_append, PlainNames, PlainNames, ih, and_assoc]

theorem plainNames_missingTypename (selections : List Selection) :
    PlainNames (missingTypename selections) := by
  unfold missingTypename
  split
  · rw [PlainNames]
    trivial
  · rw [PlainNames, PlainNames, typenameSelection, PlainName, PlainNames]
    exact ⟨⟨fun _ => ⟨rfl, rfl, rfl⟩, trivial⟩, trivial⟩

mutual

theorem plainName_addTypename {a : Selection} (h : PlainName a) : PlainName a.addTypename := by
  cases a with
  | field f inner =>
    rw [PlainName] at h
    rw [addTypename_field, PlainName]
    refine ⟨fun key => ?_, plainNames_sentUnder h.2⟩
    obtain ⟨name, arguments, none⟩ := h.1 key
    exact ⟨name, arguments, sentUnder_eq_nil.mpr none⟩
  | spread => exact h
  | inline condition? directives inner =>
    rw [PlainName] at h
    rw [Selection.addTypename, PlainName]
    exact plainNames_addTypenames h

/-- They still do when they are sent. -/
theorem plainNames_addTypenames {selections : List Selection} (h : PlainNames selections) :
    PlainNames (addTypenames selections) := by
  cases selections with
  | nil =>
    rw [addTypenames]
    exact h
  | cons first rest =>
    rw [PlainNames] at h
    rw [addTypenames, PlainNames]
    exact ⟨plainName_addTypename h.1, plainNames_addTypenames h.2⟩

theorem plainNames_sentUnder {selections : List Selection} (h : PlainNames selections) :
    PlainNames (sentUnder selections) := by
  cases selections with
  | nil => exact h
  | cons first rest =>
    rw [PlainNames] at h
    rw [sentUnder_eq (List.cons_ne_nil first rest), plainNames_append, addTypenames, PlainNames]
    exact ⟨⟨plainName_addTypename h.1, plainNames_addTypenames h.2⟩, plainNames_missingTypename _⟩

end

/-! ## Plain sets -/

/-- Nothing can be said against the field where it is compared with another one like it. -/
structure Member.IsTypename (m : Member) : Prop where
  name : m.field.name = typenameField
  arguments : m.field.arguments = []
  selections : m.selections = []
  type? : m.type? = none

/-- The response key of type names is that of a type name, here and below. -/
structure Member.Plain (m : Member) : Prop where
  isTypename : m.field.responseKey = typenameField → m.IsTypename
  below : PlainNames m.selections

/-- All fields of the set are under their response keys, and plain. -/
def FieldSet.Plain (a : FieldSet) : Prop :=
  ∀ g ∈ a.groups, ∀ m ∈ g.2, m.field.responseKey = g.1 ∧ m.Plain

/-- The type, if there is one, is a type of the schema. -/
def Of (s : Schema) (t? : Option TypeDefinition) : Prop := ∀ t, t? = some t → t ∈ s.types

theorem of_type? (s : Schema) (name : String) : Of s (s.type? name) :=
  fun _ h => List.mem_of_find?_eq_some h

variable {s : Schema}

/-- No type of a sound schema has a field for the type name. -/
theorem field?_typenameField (sound : s.isSound = true) {t : TypeDefinition} (mem : t ∈ s.types) :
    t.field? typenameField = none := by
  refine List.find?_eq_none.mpr fun d hd same => ?_
  have free := (sound_of_mem_fields sound mem hd).1
  rw [beq_iff_eq.mp same] at free
  cases free

mutual

theorem plain_of_mem_selectionMembers (sound : s.isSound = true) {parent? : Option TypeDefinition}
    (known : Of s parent?) {path : List Nat} {a : Selection} (plain : PlainName a) {m : Member}
    (mem : .inl m ∈ selectionMembers s parent? path a) : m.Plain := by
  cases a with
  | field f inner =>
    rw [PlainName] at plain
    rw [selectionMembers, List.mem_singleton] at mem
    cases mem
    refine ⟨fun key => ?_, plain.2⟩
    obtain ⟨name, arguments, none⟩ := plain.1 key
    refine ⟨name, arguments, none, ?_⟩
    dsimp only
    rw [name]
    cases parent? with
    | none => rfl
    | some t => rw [Option.bind_some, field?_typenameField sound (known t rfl), Option.map_none]
  | spread fragment directives =>
    rw [selectionMembers, List.mem_singleton] at mem
    cases mem
  | inline condition? directives inner =>
    rw [PlainName] at plain
    cases condition? with
    | none =>
      rw [selectionMembers] at mem
      exact plain_of_mem_selectionListMembers sound known plain mem
    | some condition =>
      rw [selectionMembers] at mem
      exact plain_of_mem_selectionListMembers sound (of_type? s condition) plain mem

/-- The fields of plain selections are plain. -/
theorem plain_of_mem_selectionListMembers (sound : s.isSound = true)
    {parent? : Option TypeDefinition} (known : Of s parent?) {path : List Nat} {position : Nat}
    {selections : List Selection} (plain : PlainNames selections) {m : Member}
    (mem : .inl m ∈ selectionListMembers s parent? path position selections) : m.Plain := by
  cases selections with
  | nil =>
    rw [selectionListMembers] at mem
    exact absurd mem List.not_mem_nil
  | cons first rest =>
    rw [PlainNames] at plain
    rw [selectionListMembers] at mem
    rcases List.mem_append.mp mem with mem | mem
    · exact plain_of_mem_selectionMembers sound known plain.1 mem
    · exact plain_of_mem_selectionListMembers sound known plain.2 mem

end

/-- The set of plain selections is plain. -/
theorem plain_ofSelections (sound : s.isSound = true) {parent? : Option TypeDefinition}
    (known : Of s parent?) (path : List Nat) {selections : List Selection}
    (plain : PlainNames selections) : (FieldSet.ofSelections s parent? path selections).Plain := by
  intro g hg m hm
  obtain ⟨key, -, rfl⟩ := List.mem_map.mp hg
  obtain ⟨isMember, key⟩ := List.mem_filter.mp hm
  obtain ⟨part, mem, isLeft⟩ := List.mem_filterMap.mp isMember
  cases part with
  | inl m' =>
    cases isLeft
    exact ⟨beq_iff_eq.mp key, plain_of_mem_selectionListMembers sound known plain mem⟩
  | inr => cases isLeft

/-! ## Sets without type names -/

/-- A field with the selections under it as they are sent. -/
def sentMember (m : Member) : Member := { m with selections := sentUnder m.selections }

/-- Groups of fields without type names, with the selections under fields as they are sent. -/
def erasedGroups (groups : List (String × List Member)) : List (String × List Member) :=
  (groups.filter (·.1 != typenameField)).map fun g => (g.1, g.2.map sentMember)

/-- A set without type names, with the selections under fields as they are sent. -/
def FieldSet.erased (a : FieldSet) : FieldSet := { a with groups := erasedGroups a.groups }

theorem erasedGroups_cons_typename (members : List Member) (rest : List (String × List Member)) :
    erasedGroups ((typenameField, members) :: rest) = erasedGroups rest := by
  simp [erasedGroups]

theorem erasedGroups_cons_other {key : String} (other : key ≠ typenameField)
    (members : List Member) (rest : List (String × List Member)) :
    erasedGroups ((key, members) :: rest) =
      (key, members.map sentMember) :: erasedGroups rest := by
  simp [erasedGroups, other]

theorem sentMember_sentMember (m : Member) : sentMember (sentMember m) = sentMember m := by
  unfold sentMember
  dsimp only
  rw [sentUnder_sentUnder (addTypenames_addTypenames m.selections)]

/-- A field or spread as it is sent. -/
def sentPart : Member ⊕ String → Member ⊕ String := Sum.map sentMember id

mutual

theorem selectionMembers_addTypename (s : Schema) (parent? : Option TypeDefinition)
    (path : List Nat) (a : Selection) : selectionMembers s parent? path a.addTypename =
      (selectionMembers s parent? path a).map sentPart := by
  cases a with
  | field f inner =>
    rw [addTypename_field, selectionMembers, selectionMembers]
    rfl
  | spread fragment directives =>
    rw [Selection.addTypename, selectionMembers]
    rfl
  | inline condition? directives inner =>
    cases condition? <;>
      · rw [Selection.addTypename, selectionMembers, selectionMembers]
        exact selectionListMembers_addTypenames s _ path 0 inner

/-- What is sent has the fields and spreads of a set as they are sent. -/
theorem selectionListMembers_addTypenames (s : Schema) (parent? : Option TypeDefinition)
    (path : List Nat) (position : Nat) (selections : List Selection) :
    selectionListMembers s parent? path position (addTypenames selections) =
      (selectionListMembers s parent? path position selections).map sentPart := by
  cases selections with
  | nil =>
    rw [addTypenames, selectionListMembers]
    rfl
  | cons first rest =>
    rw [addTypenames, selectionListMembers, selectionListMembers, List.map_append,
      selectionMembers_addTypename s parent? _ first,
      selectionListMembers_addTypenames s parent? path (position + 1) rest]

end

theorem selectionListMembers_append (s : Schema) (parent? : Option TypeDefinition)
    (path : List Nat) (position : Nat) (first rest : List Selection) :
    selectionListMembers s parent? path position (first ++ rest) =
      selectionListMembers s parent? path position first ++
        selectionListMembers s parent? path (position + first.length) rest := by
  induction first generalizing position with
  | nil => simp [selectionListMembers]
  | cons a first ih =>
    rw [List.cons_append, selectionListMembers, selectionListMembers, ih, List.append_assoc,
      List.length_cons, Nat.add_assoc, Nat.add_comm 1]

/-- The set of fields and spreads. -/
def setOf (path : List Nat) (parts : List (Member ⊕ String)) : FieldSet :=
  let members := parts.filterMap Sum.getLeft?
  let keys := (members.map (·.field.responseKey)).eraseDups
  { path
    groups := keys.map fun key => (key, members.filter (·.field.responseKey == key))
    spreads := (parts.filterMap Sum.getRight?).eraseDups }

/-- Keys apart from one are the same with more of that one. -/
theorem filter_eraseDups_append {keys more : List String} {key : String}
    (same : ∀ k ∈ more, k = key) :
    ((keys ++ more).eraseDups).filter (· != key) = keys.eraseDups.filter (· != key) := by
  have none : ((more.removeAll keys).eraseDups).filter (· != key) = [] := by
    refine List.filter_eq_nil_iff.mpr fun k hk => ?_
    have mem := (List.mem_filter.mp (List.mem_eraseDups.mp hk)).1
    simp [same k mem]
  rw [List.eraseDups_append, List.filter_append, none, List.append_nil]

/-- The fields among the parts that are sent. -/
theorem filterMap_getLeft?_sent (parts : List (Member ⊕ String)) (more : List Member) :
    (parts.map sentPart ++ more.map Sum.inl).filterMap Sum.getLeft? =
      (parts.filterMap Sum.getLeft?).map sentMember ++ more := by
  rw [List.filterMap_append, List.filterMap_map, List.filterMap_map, List.map_filterMap]
  refine congrArg₂ _ (List.filterMap_congr fun part _ => ?_) List.filterMap_some
  cases part <;> rfl

/-- The spreads among the parts that are sent. -/
theorem filterMap_getRight?_sent (parts : List (Member ⊕ String)) (more : List Member) :
    (parts.map sentPart ++ more.map Sum.inl).filterMap Sum.getRight? =
      parts.filterMap Sum.getRight? := by
  have none : more.filterMap (Sum.getRight? ∘ Sum.inl (β := String)) = [] :=
    List.filterMap_eq_nil_iff.mpr fun _ _ => rfl
  rw [List.filterMap_append, List.filterMap_map, List.filterMap_map, none, List.append_nil]
  refine List.filterMap_congr fun part _ => ?_
  cases part <;> rfl

/-- The fields with another response key are the same when they are sent and type names added. -/
theorem filter_sentMember {members more : List Member}
    (added : ∀ m ∈ more, m.field.responseKey = typenameField) {key : String}
    (other : key ≠ typenameField) :
    ((members.map sentMember ++ more).filter (·.field.responseKey == key)).map sentMember =
      (members.filter (·.field.responseKey == key)).map sentMember := by
  have none : more.filter (·.field.responseKey == key) = [] := by
    refine List.filter_eq_nil_iff.mpr fun m hm same => ?_
    exact other ((beq_iff_eq.mp same).symm.trans (added m hm))
  rw [List.filter_append, none, List.append_nil, List.filter_map, List.map_map]
  exact List.map_congr_left fun m _ => sentMember_sentMember m

/-- **A set is the same apart from type names** when its fields are sent and some are added. -/
theorem erased_setOf (path : List Nat) (parts : List (Member ⊕ String)) (more : List Member)
    (added : ∀ m ∈ more, m.field.responseKey = typenameField) :
    (setOf path (parts.map sentPart ++ more.map Sum.inl)).erased = (setOf path parts).erased := by
  have keys (members : List Member) : (members.map sentMember).map (·.field.responseKey) =
      members.map (·.field.responseKey) := List.map_map
  have same : ∀ k ∈ more.map (·.field.responseKey), k = typenameField :=
    List.forall_mem_map.mpr added
  unfold setOf FieldSet.erased erasedGroups
  simp only [filterMap_getLeft?_sent, filterMap_getRight?_sent, List.map_append, keys,
    List.map_map, List.filter_map, Function.comp_def, filter_eraseDups_append same]
  congr 1
  refine List.map_congr_left fun key hk => ?_
  have other : key ≠ typenameField := by simpa using (List.mem_filter.mp hk).2
  rw [filter_sentMember added other]

theorem erased_ofSelections_addTypenames (s : Schema) (parent? : Option TypeDefinition)
    (path : List Nat) (selections : List Selection) :
    (FieldSet.ofSelections s parent? path (addTypenames selections)).erased =
      (FieldSet.ofSelections s parent? path selections).erased := by
  have same := erased_setOf path (selectionListMembers s parent? path 0 selections) []
    (fun _ h => absurd h List.not_mem_nil)
  rw [List.map_nil, List.append_nil, ← selectionListMembers_addTypenames] at same
  exact same

theorem erased_ofSelections_sentUnder (s : Schema) (parent? : Option TypeDefinition)
    (path : List Nat) (selections : List Selection) :
    (FieldSet.ofSelections s parent? path (sentUnder selections)).erased =
      (FieldSet.ofSelections s parent? path selections).erased := by
  by_cases none : selections = []
  · rw [none, sentUnder_nil]
  · rw [sentUnder_eq none]
    unfold missingTypename
    split
    · rw [List.append_nil, erased_ofSelections_addTypenames]
    · let name : Member :=
        ⟨parent?, typenameHead, (parent?.bind (·.field? typenameHead.name)).map (·.type),
          (0 + (addTypenames selections).length) :: path, []⟩
      have same := erased_setOf path (selectionListMembers s parent? path 0 selections) [name]
        (fun m hm => by rw [List.mem_singleton.mp hm]; rfl)
      rw [← selectionListMembers_addTypenames] at same
      refine Eq.trans ?_ same
      unfold FieldSet.ofSelections
      rw [selectionListMembers_append, selectionListMembers, selectionListMembers,
        typenameSelection, selectionMembers]
      rfl

/-! ## Comparisons -/

/-- Fields with the response key of type names are compared. -/
def Comparison.ofTypenames : Comparison → Bool
  | .members key _ _ => key == typenameField
  | _ => false

/-- A comparison apart from type names. -/
def Comparison.erased : Comparison → Comparison
  | .members key a b => .members key (sentMember a) (sentMember b)
  | .sets a b => .sets a.erased b.erased
  | .setWithFragment a fragment => .setWithFragment a.erased fragment
  | .fragments a b => .fragments a b
  | .wholeSets a b => .wholeSets a.erased b.erased

/-- What is compared is plain. -/
def Comparison.Plain : Comparison → Prop
  | .members key a b =>
    (a.field.responseKey = key ∧ a.Plain) ∧ (b.field.responseKey = key ∧ b.Plain)
  | .sets a b => a.Plain ∧ b.Plain
  | .setWithFragment a _ => a.Plain
  | .fragments .. => True
  | .wholeSets a b => a.Plain ∧ b.Plain

/-- Comparisons apart from type names. -/
def erasedAll (comparisons : List Comparison) : List Comparison :=
  (comparisons.filter (!·.ofTypenames)).map Comparison.erased

theorem erasedAll_append (first rest : List Comparison) :
    erasedAll (first ++ rest) = erasedAll first ++ erasedAll rest := by
  unfold erasedAll
  rw [List.filter_append, List.map_append]

/-- Comparisons of other things than fields. -/
theorem erasedAll_map {items : List α} {f : α → Comparison}
    (other : ∀ a, (f a).ofTypenames = false) :
    erasedAll (items.map f) = items.map fun a => (f a).erased := by
  unfold erasedAll
  rw [List.filter_eq_self.mpr, List.map_map]
  · rfl
  · exact List.forall_mem_map.mpr fun a _ => by rw [other a]; rfl

theorem erasedAll_flatMap (items : List α) (f : α → List Comparison) :
    erasedAll (items.flatMap f) = items.flatMap fun a => erasedAll (f a) := by
  induction items with
  | nil => rfl
  | cons first rest ih => rw [List.flatMap_cons, List.flatMap_cons, erasedAll_append, ih]

/-- Of type names nothing is left. -/
theorem erasedAll_eq_nil {comparisons : List Comparison}
    (all : ∀ x ∈ comparisons, x.ofTypenames = true) : erasedAll comparisons = [] := by
  unfold erasedAll
  rw [List.filter_eq_nil_iff.mpr fun x hx => by simp [all x hx], List.map_nil]

/-- What is left of comparisons that are made group by group. -/
theorem erasedAll_flatMap_groups (compare compare' : String → List Member → List Comparison)
    (names : ∀ members, ∀ x ∈ compare typenameField members, x.ofTypenames = true)
    (others : ∀ key members, key ≠ typenameField →
      erasedAll (compare key members) = compare' key (members.map sentMember))
    (groups : List (String × List Member)) :
    erasedAll (groups.flatMap fun g => compare g.1 g.2) =
      (erasedGroups groups).flatMap fun g => compare' g.1 g.2 := by
  induction groups with
  | nil => rfl
  | cons g rest ih =>
    obtain ⟨key, members⟩ := g
    rw [List.flatMap_cons, erasedAll_append, ih]
    by_cases isName : key = typenameField
    · subst isName
      rw [erasedAll_eq_nil (names members), erasedGroups_cons_typename, List.nil_append]
    · rw [others key members isName, erasedGroups_cons_other isName, List.flatMap_cons]

theorem lookup_erasedGroups (groups : List (String × List Member)) {key : String}
    (other : key ≠ typenameField) :
    (erasedGroups groups).lookup key = (groups.lookup key).map (·.map sentMember) := by
  induction groups with
  | nil => rfl
  | cons g rest ih =>
    obtain ⟨k, members⟩ := g
    by_cases here : key = k
    · subst here
      rw [erasedGroups_cons_other other, List.lookup_cons_self, List.lookup_cons_self,
        Option.map_some]
    · have differs : (key == k) = false := by simpa using here
      have skip : ((k, members) :: rest).lookup key = rest.lookup key := by
        rw [List.lookup_cons, differs]
      rw [skip, ← ih]
      by_cases isName : k = typenameField
      · rw [isName, erasedGroups_cons_typename]
      · rw [erasedGroups_cons_other isName, List.lookup_cons, differs]

/-- What is left of the comparisons of the fields of two sets. -/
theorem erasedAll_pairsBetween (a b : FieldSet) :
    erasedAll (pairsBetween a b) = pairsBetween a.erased b.erased := by
  refine erasedAll_flatMap_groups
    (fun key members => members.flatMap fun x =>
      ((b.groups.lookup key).getD []).map fun y => .members key x y)
    (fun key members => members.flatMap fun x =>
      ((b.erased.groups.lookup key).getD []).map fun y => .members key x y)
    (fun members x hx => ?_) (fun key members other => ?_) a.groups
  · obtain ⟨m, -, hx⟩ := List.mem_flatMap.mp hx
    obtain ⟨y, -, rfl⟩ := List.mem_map.mp hx
    rfl
  · have differs (x y : Member) : (Comparison.members key x y).ofTypenames = false :=
      beq_eq_false_iff_ne.mpr other
    have found := lookup_erasedGroups b.groups other
    rw [erasedAll_flatMap, List.flatMap_map]
    refine List.flatMap_congr fun x _ => ?_
    rw [erasedAll_map (differs x), FieldSet.erased, found]
    cases b.groups.lookup key with
    | none => rfl
    | some ys =>
      rw [Option.map_some, Option.getD_some, Option.getD_some, List.map_map]
      rfl

/-- What is left of the comparisons of all of two sets. -/
theorem erasedAll_partsOfWholes (a b : FieldSet) :
    erasedAll (partsOfWholes a b) = partsOfWholes a.erased b.erased := by
  unfold partsOfWholes
  rw [← List.singleton_append, erasedAll_append, erasedAll_append, erasedAll_append,
    erasedAll_flatMap, erasedAll_map fun _ => rfl, erasedAll_map fun _ => rfl]
  have across (x : String) : erasedAll (b.spreads.map fun y => .fragments x y) =
      b.spreads.map fun y => .fragments x y := erasedAll_map fun _ => rfl
  simp only [across]
  rfl

/-- What is left of the comparisons of a set with a fragment. -/
theorem erasedAll_withFragment (a b : FieldSet) :
    erasedAll (.sets a b :: b.spreads.map (.setWithFragment a)) =
      .sets a.erased b.erased :: b.erased.spreads.map (.setWithFragment a.erased) := by
  rw [← List.singleton_append, erasedAll_append, erasedAll_map fun _ => rfl]
  rfl

/-- What is left of the comparisons of two fragments. -/
theorem erasedAll_ofFragments (a b : FieldSet) (first second : String) :
    erasedAll (.sets a b :: (b.spreads.map (.fragments first) ++
        a.spreads.map (.fragments · second))) =
      .sets a.erased b.erased :: (b.erased.spreads.map (.fragments first) ++
        a.erased.spreads.map (.fragments · second)) := by
  rw [← List.singleton_append, erasedAll_append, erasedAll_append, erasedAll_map fun _ => rfl,
    erasedAll_map fun _ => rfl]
  rfl

theorem erasedAll_pairsWithin {key : String} (other : key ≠ typenameField)
    (members : List Member) :
    erasedAll (pairsWithin key members) = pairsWithin key (members.map sentMember) := by
  induction members with
  | nil => rfl
  | cons a rest ih =>
    have others (b : Member) : (Comparison.members key a b).ofTypenames = false :=
      beq_eq_false_iff_ne.mpr other
    rw [pairsWithin, erasedAll_append, ih, erasedAll_map others, List.map_cons, pairsWithin,
      List.map_map]
    rfl

theorem exists_of_mem_pairsWithin {key : String} {members : List Member} {x : Comparison}
    (h : x ∈ pairsWithin key members) : ∃ a ∈ members, ∃ b ∈ members, x = .members key a b := by
  induction members with
  | nil => exact absurd h List.not_mem_nil
  | cons first rest ih =>
    rw [pairsWithin] at h
    rcases List.mem_append.mp h with h | h
    · obtain ⟨b, mem, rfl⟩ := List.mem_map.mp h
      exact ⟨first, List.mem_cons_self, b, List.mem_cons_of_mem _ mem, rfl⟩
    · obtain ⟨a, ha, b, hb, eq⟩ := ih h
      exact ⟨a, List.mem_cons_of_mem _ ha, b, List.mem_cons_of_mem _ hb, eq⟩

theorem erasedAll_spreadsWithin (a : FieldSet) (names : List String) :
    erasedAll (spreadsWithin a names) = spreadsWithin a.erased names := by
  induction names with
  | nil => rfl
  | cons name rest ih =>
    rw [spreadsWithin, spreadsWithin, ← ih, ← List.singleton_append, erasedAll_append,
      erasedAll_append, erasedAll_map fun _ => rfl]
    rfl

/-- What is left of the comparisons of a set with itself. -/
theorem erasedAll_comparisonsWithin (a : FieldSet) :
    erasedAll (comparisonsWithin a) = comparisonsWithin a.erased := by
  have groups : erasedAll (a.groups.flatMap fun g => pairsWithin g.1 g.2) =
      (erasedGroups a.groups).flatMap fun g => pairsWithin g.1 g.2 := by
    refine erasedAll_flatMap_groups pairsWithin pairsWithin (fun members x hx => ?_)
      (fun key members other => ?_) a.groups
    · obtain ⟨m, -, n, -, rfl⟩ := exists_of_mem_pairsWithin hx
      rfl
    · exact erasedAll_pairsWithin other members
  unfold comparisonsWithin
  rw [erasedAll_append, erasedAll_spreadsWithin]
  exact congrArg (· ++ _) groups

/-! ## Plain comparisons -/

variable {a b : FieldSet}

theorem plain_pairsBetween (ha : a.Plain) (hb : b.Plain) : ∀ x ∈ pairsBetween a b, x.Plain := by
  intro x hx
  obtain ⟨⟨key, members⟩, hg, hx⟩ := List.mem_flatMap.mp hx
  obtain ⟨m, hm, hx⟩ := List.mem_flatMap.mp hx
  obtain ⟨y, hy, rfl⟩ := List.mem_map.mp hx
  refine ⟨ha _ hg m hm, ?_⟩
  cases found : b.groups.lookup key with
  | none =>
    rw [found] at hy
    exact absurd hy List.not_mem_nil
  | some others =>
    rw [found] at hy
    obtain ⟨before, after, eq, -⟩ := List.lookup_eq_some_iff.mp found
    exact hb (key, others) (eq ▸ List.mem_append_right _ List.mem_cons_self) y hy

theorem plain_withFragment (ha : a.Plain) (hb : b.Plain) :
    ∀ x ∈ Comparison.sets a b :: b.spreads.map (.setWithFragment a), x.Plain :=
  List.forall_mem_cons.mpr ⟨⟨ha, hb⟩, List.forall_mem_map.mpr fun _ _ => ha⟩

theorem plain_ofFragments (ha : a.Plain) (hb : b.Plain) (first second : String) :
    ∀ x ∈ Comparison.sets a b :: (b.spreads.map (.fragments first) ++
      a.spreads.map (.fragments · second)), x.Plain :=
  List.forall_mem_cons.mpr ⟨⟨ha, hb⟩, List.forall_mem_append.mpr
    ⟨List.forall_mem_map.mpr fun _ _ => trivial, List.forall_mem_map.mpr fun _ _ => trivial⟩⟩

theorem plain_partsOfWholes (ha : a.Plain) (hb : b.Plain) : ∀ x ∈ partsOfWholes a b, x.Plain := by
  refine List.forall_mem_cons.mpr ⟨⟨ha, hb⟩, ?_⟩
  rw [List.forall_mem_append, List.forall_mem_append]
  refine ⟨⟨List.forall_mem_map.mpr fun _ _ => ha, List.forall_mem_map.mpr fun _ _ => hb⟩, ?_⟩
  intro x hx
  obtain ⟨_, -, hx⟩ := List.mem_flatMap.mp hx
  obtain ⟨_, -, rfl⟩ := List.mem_map.mp hx
  trivial

theorem plain_spreadsWithin (ha : a.Plain) (names : List String) :
    ∀ x ∈ spreadsWithin a names, x.Plain := by
  induction names with
  | nil => exact fun _ h => absurd h List.not_mem_nil
  | cons name rest ih =>
    rw [spreadsWithin, List.forall_mem_cons, List.forall_mem_append]
    exact ⟨ha, List.forall_mem_map.mpr fun _ _ => trivial, ih⟩

theorem plain_comparisonsWithin (ha : a.Plain) : ∀ x ∈ comparisonsWithin a, x.Plain := by
  unfold comparisonsWithin
  rw [List.forall_mem_append]
  refine ⟨fun x hx => ?_, plain_spreadsWithin ha a.spreads⟩
  obtain ⟨⟨key, members⟩, hg, hx⟩ := List.mem_flatMap.mp hx
  obtain ⟨m, hm, n, hn, rfl⟩ := exists_of_mem_pairsWithin hx
  exact ⟨ha _ hg m hm, ha _ hg n hn⟩

end QueryShape.Validation
