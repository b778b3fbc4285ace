import QueryShape.Document.Collect

/-!
# What is collected

`collectedWhere` is what an executor of the query language collects on an object type, given what
directives leave in, and `collected` is that for given conditions. `Done` says that a selection has
been collected: its field is there, or it is left out, or what is inside it has been collected.

* `goes_of_collectSelection`: the ways in which a selection is collected.
* `done_collected`: at the end all selections have been collected, and those of every fragment that
  has been spread on the way.
* `mem_collected_iff`: what is collected under a key are the fields of the key that are executed.
-/

namespace QueryShape.Document

/-! ## Conditions -/

/-- The condition of a directive holds, given the values of variables. -/
def Directive.holds (truth : String → Bool) (d : Directive) : Bool :=
  (d.arguments.find? (·.name == "if")).any fun a =>
    match a.value with
    | .boolean value => value
    | .variable name => truth name
    | _ => false

/-- The directives leave in what they stand on. -/
def leavesIn (truth : String → Bool) (directives : List Directive) : Bool :=
  directives.all fun d =>
    if d.name = "skip" then !d.holds truth
    else if d.name = "include" then d.holds truth
    else true

/-- The fields that a selection set selects on an object type, by response key, given what
directives leave in. -/
def collectedWhere (s : Schema) (fragments : List Fragment) (leaves : List Directive → Bool)
    (object : TypeDefinition) (selections : List Selection) : List Collected :=
  match collectFields s fragments (fun ds => (.ok (leaves ds) : Except Empty Bool)) object
    selections with
  | .ok groups => groups
  | .error e => e.elim

/-- The fields that a selection set selects on an object type, by response key. -/
def collected (s : Schema) (fragments : List Fragment) (truth : String → Bool)
    (object : TypeDefinition) (selections : List Selection) : List Collected :=
  match collectFields s fragments (fun ds => (.ok (leavesIn truth ds) : Except Empty Bool)) object
    selections with
  | .ok groups => groups
  | .error e => e.elim

/-! ## Growing -/

/-- What has been collected stays. -/
structure Collecting.Grows (before after : Collecting) : Prop where
  groups : ∀ key fields, (key, fields) ∈ before.groups →
    ∃ more, (key, more) ∈ after.groups ∧ ∀ x ∈ fields, x ∈ more
  seen : ∀ name ∈ before.seen, name ∈ after.seen

theorem Collecting.Grows.refl (state : Collecting) : state.Grows state :=
  ⟨fun _ fields h => ⟨fields, h, fun _ hx => hx⟩, fun _ h => h⟩

theorem Collecting.Grows.trans {a b c : Collecting} (hab : a.Grows b) (hbc : b.Grows c) :
    a.Grows c where
  groups := by
    intro key fields h
    obtain ⟨more, h, sub⟩ := hab.groups key fields h
    obtain ⟨most, h, sub'⟩ := hbc.groups key more h
    exact ⟨most, h, fun x hx => sub' x (sub x hx)⟩
  seen := fun name h => hbc.seen name (hab.seen name h)

/-- A field is put with those of its response key, and all others stay. -/
theorem addCollected_spec (groups : List Collected) (f : Field) (selections : List Selection) :
    (∃ fields, (f.responseKey, fields) ∈ addCollected groups f selections ∧
      (f, selections) ∈ fields) ∧
    ∀ key fields, (key, fields) ∈ groups →
      ∃ more, (key, more) ∈ addCollected groups f selections ∧ ∀ x ∈ fields, x ∈ more := by
  unfold addCollected
  split
  · next there =>
    obtain ⟨⟨key, fields⟩, mem, same⟩ := List.any_eq_true.mp there
    refine ⟨⟨fields ++ [(f, selections)], List.mem_map.mpr ⟨_, mem, ?_⟩, by simp⟩, ?_⟩
    · rw [if_pos same]
      simp only [beq_iff_eq] at same
      rw [same]
    · intro key fields mem
      by_cases same : key = f.responseKey
      · exact ⟨fields ++ [(f, selections)], List.mem_map.mpr ⟨_, mem, by simp [same]⟩,
          fun x hx => List.mem_append_left _ hx⟩
      · exact ⟨fields, List.mem_map.mpr ⟨_, mem, by simp [same]⟩, fun _ hx => hx⟩
  · exact ⟨⟨[(f, selections)], by simp, by simp⟩,
      fun key fields mem => ⟨fields, List.mem_append_left _ mem, fun _ hx => hx⟩⟩

/-! ## Collecting -/

variable {s : Schema} {fragments : List Fragment} {leaves : List Directive → Bool}
  {object : TypeDefinition}

/-- The selection has been collected. -/
inductive Done (s : Schema) (leaves : List Directive → Bool) (object : TypeDefinition)
    (state : Collecting) : Selection → Prop
  | field {f : Field} {inner : List Selection} {fields : List (Field × List Selection)}
      (group : (f.responseKey, fields) ∈ state.groups) (mem : (f, inner) ∈ fields) :
      Done s leaves object state (.field f inner)
  | leftOut {a : Selection} (h : leaves a.directives = false) : Done s leaves object state a
  | unmet {condition : String} {directives : List Directive} {selections : List Selection}
      (h : meetsCondition s object condition = false) :
      Done s leaves object state (.inline (some condition) directives selections)
  | inside {condition? : Option String} {directives : List Directive} {selections : List Selection}
      (all : ∀ a ∈ selections, Done s leaves object state a) :
      Done s leaves object state (.inline condition? directives selections)
  | spread {name : String} {directives : List Directive} (seen : name ∈ state.seen) :
      Done s leaves object state (.spread name directives)

/-- If objects of the type meet the condition of the fragment with the name, its selections have
been collected. -/
def DoneInside (s : Schema) (fragments : List Fragment) (leaves : List Directive → Bool)
    (object : TypeDefinition) (state : Collecting) (name : String) : Prop :=
  ∀ f, fragments.reverse.find? (·.name == name) = some f →
    meetsCondition s object f.condition = true → ∀ a ∈ f.selections, Done s leaves object state a

theorem Done.of_grows {before after : Collecting} {a : Selection} (grows : before.Grows after)
    (h : Done s leaves object before a) : Done s leaves object after a := by
  induction h with
  | field group mem =>
    obtain ⟨more, group, sub⟩ := grows.groups _ _ group
    exact .field group (sub _ mem)
  | leftOut h => exact .leftOut h
  | unmet h => exact .unmet h
  | inside _ ih => exact .inside ih
  | spread seen => exact .spread (grows.seen _ seen)

/-- From one state to the other the selections have been collected, and those of all fragments that
have been spread for the first time. -/
structure Collects (s : Schema) (fragments : List Fragment) (leaves : List Directive → Bool)
    (object : TypeDefinition) (before after : Collecting) (selections : List Selection) : Prop where
  grows : before.Grows after
  done : ∀ a ∈ selections, Done s leaves object after a
  inside : ∀ name ∈ after.seen, name ∉ before.seen →
    DoneInside s fragments leaves object after name

/-- A selection that need not be gone into changes nothing. -/
theorem Collects.stay {state : Collecting} {a : Selection} (h : Done s leaves object state a) :
    Collects s fragments leaves object state state [a] where
  grows := .refl state
  done := fun _ hb => List.mem_singleton.mp hb ▸ h
  inside := fun _ mem new => absurd mem new

/-- The fragments that have not been spread. -/
def unspread (fragments : List Fragment) (state : Collecting) : List Fragment :=
  fragments.filter fun f => decide (f.name ∉ state.seen)

theorem length_unspread_mono {before after : Collecting} (grows : before.Grows after) :
    (unspread fragments after).length ≤ (unspread fragments before).length := by
  unfold unspread
  rw [← List.countP_eq_length_filter, ← List.countP_eq_length_filter]
  refine List.countP_mono_left fun f _ h => ?_
  simp only [decide_eq_true_eq] at *
  exact fun seen => h (grows.seen _ seen)

theorem length_unspread_lt {state : Collecting} {name : String} {f : Fragment}
    (new : name ∉ state.seen) (h : fragments.reverse.find? (·.name == name) = some f) :
    (unspread fragments { state with seen := name :: state.seen }).length <
      (unspread fragments state).length := by
  have isNamed : f.name = name := by simpa using List.find?_some h
  have mem : f ∈ fragments := List.mem_reverse.mp (List.mem_of_find?_eq_some h)
  have fewer : unspread fragments { state with seen := name :: state.seen } =
      (unspread fragments state).filter (·.name != name) := by
    unfold unspread
    rw [List.filter_filter]
    refine List.filter_congr fun x _ => ?_
    by_cases hx : x.name = name <;> simp [hx]
  rw [fewer]
  refine List.length_filter_lt_length_iff_exists.mpr ⟨f, ?_, by simpa using isNamed⟩
  exact List.mem_filter.mpr ⟨mem, by simpa [isNamed] using new⟩

/-! ## All that is collected -/

/-- What decides, where no condition is unknown. -/
abbrev decides (leaves : List Directive → Bool) (directives : List Directive) : Except Empty Bool :=
  .ok (leaves directives)

section Steps

variable {limit : Nat} {state : Collecting}

theorem collectSelection_leftOut {a : Selection} (out : leaves a.directives = false) :
    collectSelection s fragments (decides leaves) object limit state a = .ok state := by
  cases a with
  | field f inner =>
    change leaves f.directives = false at out
    rw [collectSelection]
    simp [out, bind, Except.bind, pure, Except.pure]
  | inline condition? directives selections =>
    change leaves directives = false at out
    rw [collectSelection]
    simp [out, bind, Except.bind, pure, Except.pure]
  | spread name directives =>
    change leaves directives = false at out
    rw [collectSelection]
    simp [out, bind, Except.bind, pure, Except.pure]

theorem collectSelection_field {f : Field} {inner : List Selection}
    (left : leaves f.directives = true) :
    collectSelection s fragments (decides leaves) object limit state (.field f inner) =
      .ok { state with groups := addCollected state.groups f inner } := by
  rw [collectSelection]
  simp [left, bind, Except.bind, pure, Except.pure]

theorem collectSelection_inline {condition? : Option String} {directives : List Directive}
    {selections : List Selection} (left : leaves directives = true) :
    collectSelection s fragments (decides leaves) object limit state
        (.inline condition? directives selections) =
      if condition?.all (meetsCondition s object) then
        collectSelections s fragments (decides leaves) object limit state selections
      else .ok state := by
  rw [collectSelection]
  simp [left, bind, Except.bind, pure, Except.pure]

theorem collectSelection_seen {name : String} {directives : List Directive}
    (seen : name ∈ state.seen) :
    collectSelection s fragments (decides leaves) object limit state (.spread name directives) =
      .ok state := by
  rw [collectSelection]
  simp [seen, pure, Except.pure]

theorem collectSelection_unknown {name : String} {directives : List Directive}
    (left : leaves directives = true) (new : name ∉ state.seen)
    (unknown : fragments.reverse.find? (·.name == name) = none) :
    collectSelection s fragments (decides leaves) object limit state (.spread name directives) =
      .ok { state with seen := name :: state.seen } := by
  rw [collectSelection]
  simp [left, new, unknown, bind, Except.bind, pure, Except.pure]

theorem collectSelection_spread {name : String} {directives : List Directive} {f : Fragment}
    (left : leaves directives = true) (new : name ∉ state.seen)
    (known : fragments.reverse.find? (·.name == name) = some f) :
    collectSelection s fragments (decides leaves) object (limit + 1) state
        (.spread name directives) =
      if meetsCondition s object f.condition then
        collectSelections s fragments (decides leaves) object limit
          { state with seen := name :: state.seen } f.selections
      else .ok { state with seen := name :: state.seen } := by
  rw [collectSelection]
  simp [left, new, known, bind, Except.bind, pure, Except.pure]

end Steps

/-- What becomes of a state when a selection is collected, and what is gone into for that. -/
inductive Goes (s : Schema) (fragments : List Fragment) (leaves : List Directive → Bool)
    (object : TypeDefinition) : (limit : Nat) → Collecting → Selection → Collecting → Prop
  | leftOut {limit : Nat} {state : Collecting} {a : Selection}
      (out : leaves a.directives = false) : Goes s fragments leaves object limit state a state
  | field {limit : Nat} {state : Collecting} {f : Field} {inner : List Selection}
      (left : leaves f.directives = true) :
      Goes s fragments leaves object limit state (.field f inner)
        { state with groups := addCollected state.groups f inner }
  | inline {limit : Nat} {state after : Collecting} {condition? : Option String}
      {directives : List Directive} {selections : List Selection}
      (left : leaves directives = true) (meets : condition?.all (meetsCondition s object) = true)
      (inside : collectSelections s fragments (decides leaves) object limit state selections =
        .ok after) :
      Goes s fragments leaves object limit state (.inline condition? directives selections) after
  | unmet {limit : Nat} {state : Collecting} {condition : String} {directives : List Directive}
      {selections : List Selection} (unmet : meetsCondition s object condition = false) :
      Goes s fragments leaves object limit state
        (.inline (some condition) directives selections) state
  | seen {limit : Nat} {state : Collecting} {name : String} {directives : List Directive}
      (seen : name ∈ state.seen) :
      Goes s fragments leaves object limit state (.spread name directives) state
  | spread {limit : Nat} {state after : Collecting} {name : String} {directives : List Directive}
      {f : Fragment} (left : leaves directives = true) (new : name ∉ state.seen)
      (known : fragments.reverse.find? (·.name == name) = some f)
      (meets : meetsCondition s object f.condition = true)
      (inside : collectSelections s fragments (decides leaves) object limit
        { state with seen := name :: state.seen } f.selections = .ok after) :
      Goes s fragments leaves object (limit + 1) state (.spread name directives) after
  /-- A fragment is marked only, for lack of room or because the type does not meet it. -/
  | marked {limit : Nat} {state : Collecting} {name : String} {directives : List Directive}
      (new : name ∉ state.seen)
      (without : ∀ f, fragments.reverse.find? (·.name == name) = some f →
        limit = 0 ∨ meetsCondition s object f.condition = false) :
      Goes s fragments leaves object limit state (.spread name directives)
        { state with seen := name :: state.seen }

/-- **Collecting a selection goes one of these ways.** -/
theorem goes_of_collectSelection {limit : Nat} {state after : Collecting} {a : Selection}
    (h : collectSelection s fragments (decides leaves) object limit state a = .ok after) :
    Goes s fragments leaves object limit state a after := by
  by_cases out : leaves a.directives = false
  · rw [collectSelection_leftOut out] at h
    cases h
    exact .leftOut out
  have left : leaves a.directives = true := by simpa using out
  cases a with
  | field f inner =>
    rw [collectSelection_field left] at h
    cases h
    exact .field left
  | inline condition? directives selections =>
    change leaves directives = true at left
    rw [collectSelection_inline left] at h
    split at h
    · next meets => exact .inline left meets h
    · next unmet =>
      cases h
      cases condition? with
      | none => exact absurd rfl unmet
      | some condition => exact .unmet (by simpa using unmet)
  | spread name directives =>
    change leaves directives = true at left
    by_cases seen : name ∈ state.seen
    · rw [collectSelection_seen seen] at h
      cases h
      exact .seen seen
    cases known : fragments.reverse.find? (·.name == name) with
    | none =>
      rw [collectSelection_unknown left seen known] at h
      cases h
      exact .marked seen fun f known' => nomatch known.symm.trans known'
    | some f =>
      cases limit with
      | zero =>
        rw [collectSelection] at h
        simp only [List.contains_eq_mem, seen, left, bind, Except.bind] at h
        cases h
        exact .marked seen fun _ _ => Or.inl rfl
      | succ limit =>
        rw [collectSelection_spread left seen known] at h
        split at h
        · next meets => exact .spread left seen known meets h
        · next unmet =>
          cases h
          refine .marked seen fun f' known' => Or.inr ?_
          cases known.symm.trans known'
          simpa using unmet

/-- Collecting selections collects the first, and then the others. -/
theorem exists_of_collectSelections_cons {limit : Nat} {state after : Collecting}
    {first : Selection} {rest : List Selection}
    (h : collectSelections s fragments (decides leaves) object limit state (first :: rest) =
      .ok after) :
    ∃ between,
      collectSelection s fragments (decides leaves) object limit state first = .ok between ∧
      collectSelections s fragments (decides leaves) object limit between rest = .ok after := by
  rw [collectSelections] at h
  cases step : collectSelection s fragments (decides leaves) object limit state first with
  | error e => exact e.elim
  | ok between =>
    rw [step] at h
    exact ⟨between, rfl, h⟩

/-- Spreading a fragment collects what it selects, which stays out if the type does not meet its
condition. -/
theorem Collects.spread {state after : Collecting} {name : String} {directives : List Directive}
    (grows : Collecting.Grows { state with seen := name :: state.seen } after)
    (inside : ∀ n ∈ after.seen, n ∉ name :: state.seen →
      DoneInside s fragments leaves object after n)
    (here : DoneInside s fragments leaves object after name) :
    Collects s fragments leaves object state after [.spread name directives] where
  grows := ⟨grows.groups, fun n h => grows.seen n (List.mem_cons_of_mem _ h)⟩
  done := fun _ ha => List.mem_singleton.mp ha ▸ .spread (grows.seen name List.mem_cons_self)
  inside := by
    intro n mem new
    by_cases same : n = name
    · exact same ▸ here
    · exact inside n mem (by simp [same, new])

mutual

/-- Collecting a selection collects it, while there is room for all fragments that are left. -/
theorem collects_selection {limit : Nat} {state after : Collecting} {a : Selection}
    (room : (unspread fragments state).length ≤ limit)
    (h : collectSelection s fragments (decides leaves) object limit state a = .ok after) :
    Collects s fragments leaves object state after [a] := by
  cases goes_of_collectSelection h with
  | leftOut out => exact .stay (.leftOut out)
  | @field _ _ f inner left =>
    obtain ⟨⟨fields, group, mem⟩, keeps⟩ := addCollected_spec state.groups f inner
    exact ⟨⟨keeps, fun _ h => h⟩, fun _ ha => List.mem_singleton.mp ha ▸ .field group mem,
      fun _ mem new => absurd mem new⟩
  | inline left meets inside =>
    have inner := collects_selections room inside
    exact ⟨inner.grows, fun _ ha => List.mem_singleton.mp ha ▸ .inside inner.done, inner.inside⟩
  | unmet unmet => exact .stay (.unmet unmet)
  | seen seen => exact .stay (.spread seen)
  | spread left new known meets inside =>
    have fewer := length_unspread_lt new known
    have inner := collects_selections (by omega) inside
    refine .spread inner.grows inner.inside fun f' known' _ => ?_
    cases known.symm.trans known'
    exact inner.done
  | marked new without =>
    refine .spread (.refl _) (fun n mem new => absurd mem new) fun f known meets => ?_
    have fewer := length_unspread_lt new known
    rcases without f known with none | unmet
    · omega
    · rw [meets] at unmet
      cases unmet
termination_by (limit, sizeOf a)

/-- Collecting selections collects them all. -/
theorem collects_selections {limit : Nat} {state after : Collecting} {selections : List Selection}
    (room : (unspread fragments state).length ≤ limit)
    (h : collectSelections s fragments (decides leaves) object limit state selections = .ok after) :
    Collects s fragments leaves object state after selections := by
  cases selections with
  | nil =>
    rw [collectSelections] at h
    cases h
    exact ⟨.refl _, fun a ha => absurd ha List.not_mem_nil, fun _ mem new => absurd mem new⟩
  | cons first rest =>
    obtain ⟨between, step, h⟩ := exists_of_collectSelections_cons h
    have one := collects_selection room step
    have others := collects_selections (Nat.le_trans (length_unspread_mono one.grows) room) h
    refine ⟨one.grows.trans others.grows, fun a ha => ?_, fun name mem new => ?_⟩
    · rcases List.mem_cons.mp ha with rfl | ha
      · exact (one.done a List.mem_cons_self).of_grows others.grows
      · exact others.done a ha
    · by_cases earlier : name ∈ between.seen
      · exact fun f known meets a ha =>
          (one.inside name earlier new f known meets a ha).of_grows others.grows
      · exact others.inside name mem earlier
termination_by (limit, sizeOf selections)

end

/-- **At the end all selections have been collected**, and those of every fragment that has been
spread on the way. -/
theorem done_collected (s : Schema) (fragments : List Fragment) (leaves : List Directive → Bool)
    (object : TypeDefinition) (selections : List Selection) :
    ∃ state : Collecting, collectedWhere s fragments leaves object selections = state.groups ∧
      (∀ a ∈ selections, Done s leaves object state a) ∧
      ∀ name ∈ state.seen, DoneInside s fragments leaves object state name := by
  cases h : collectSelections s fragments (decides leaves) object fragments.length {}
      selections with
  | error e => exact e.elim
  | ok state =>
    have room : (unspread fragments {}).length ≤ fragments.length := List.length_filter_le _ _
    have collects := collects_selections room h
    refine ⟨state, ?_, collects.done, fun name mem => collects.inside name mem List.not_mem_nil⟩
    unfold collectedWhere collectFields
    rw [h]
    rfl

/-! ## What is executed -/

/-- The selections execute the field on objects of the type: they have it, in fragments whose
conditions the type meets, and nothing on the way is left out. -/
inductive Executes (s : Schema) (fragments : List Fragment) (leaves : List Directive → Bool)
    (object : TypeDefinition) : List Selection → Field → List Selection → Prop
  | field {selections inner : List Selection} {f : Field} (mem : .field f inner ∈ selections)
      (left : leaves f.directives = true) :
      Executes s fragments leaves object selections f inner
  | inline {selections under inner : List Selection} {f : Field} {condition? : Option String}
      {directives : List Directive} (mem : .inline condition? directives under ∈ selections)
      (left : leaves directives = true)
      (meets : condition?.all (meetsCondition s object) = true)
      (next : Executes s fragments leaves object under f inner) :
      Executes s fragments leaves object selections f inner
  | spread {selections inner : List Selection} {f : Field} {name : String}
      {directives : List Directive} {fragment : Fragment}
      (mem : .spread name directives ∈ selections)
      (left : leaves directives = true)
      (named : fragments.reverse.find? (·.name == name) = some fragment)
      (meets : meetsCondition s object fragment.condition = true)
      (next : Executes s fragments leaves object fragment.selections f inner) :
      Executes s fragments leaves object selections f inner

theorem Executes.of_subset {some all inner : List Selection} {f : Field} (sub : some ⊆ all)
    (h : Executes s fragments leaves object some f inner) :
    Executes s fragments leaves object all f inner := by
  cases h with
  | field mem left => exact .field (sub mem) left
  | inline mem left meets next => exact .inline (sub mem) left meets next
  | spread mem left named meets next => exact .spread (sub mem) left named meets next

/-- A field that is executed is there when all selections are done. -/
theorem exists_group_of_executes {state : Collecting} {selections inner : List Selection}
    {f : Field}
    (executes : Executes s fragments leaves object selections f inner)
    (done : ∀ a ∈ selections, Done s leaves object state a)
    (inside : ∀ name ∈ state.seen, DoneInside s fragments leaves object state name) :
    ∃ group, (f.responseKey, group) ∈ state.groups ∧ (f, inner) ∈ group := by
  induction executes with
  | @field selections inner f mem left =>
    cases done _ mem with
    | field group mem => exact ⟨_, group, mem⟩
    | leftOut out =>
      change leaves f.directives = false at out
      rw [left] at out
      cases out
  | @inline selections under inner f condition? directives mem left meets _ ih =>
    cases done _ mem with
    | leftOut out =>
      change leaves directives = false at out
      rw [left] at out
      cases out
    | unmet unmet =>
      change meetsCondition s object _ = true at meets
      rw [unmet] at meets
      cases meets
    | inside all => exact ih all
  | @spread selections inner f name directives fragment mem left named meets _ ih =>
    cases done _ mem with
    | leftOut out =>
      change leaves directives = false at out
      rw [left] at out
      cases out
    | spread seen => exact ih (inside name seen fragment named meets)

/-- Every group has fields, all of its key and with the property. -/
def Groups (P : Field → List Selection → Prop) (groups : List Collected) : Prop :=
  ∀ key group, (key, group) ∈ groups →
    group ≠ [] ∧ ∀ x ∈ group, x.1.responseKey = key ∧ P x.1 x.2

theorem groups_addCollected {P : Field → List Selection → Prop} {groups : List Collected}
    (h : Groups P groups) {f : Field} {inner : List Selection} (hf : P f inner) :
    Groups P (addCollected groups f inner) := by
  unfold addCollected
  split
  · intro key group mem
    obtain ⟨⟨key', before⟩, mem', eq⟩ := List.mem_map.mp mem
    obtain ⟨some, all⟩ := h key' before mem'
    split at eq
    · next same =>
      cases eq
      rw [beq_iff_eq] at same
      refine ⟨by simp, fun x hx => ?_⟩
      rcases List.mem_append.mp hx with hx | hx
      · exact all x hx
      · rw [List.mem_singleton.mp hx]
        exact ⟨same.symm, hf⟩
    · cases eq
      exact ⟨some, all⟩
  · intro key group mem
    rcases List.mem_append.mp mem with mem | mem
    · exact h key group mem
    · cases List.mem_singleton.mp mem
      refine ⟨by simp, fun x hx => ?_⟩
      rw [List.mem_singleton.mp hx]
      exact ⟨rfl, hf⟩

mutual

/-- Collecting a selection adds only fields that it executes. -/
theorem groups_selection {P : Field → List Selection → Prop} {limit : Nat}
    {state after : Collecting} {a : Selection} (before : Groups P state.groups)
    (executed : ∀ f inner, Executes s fragments leaves object [a] f inner → P f inner)
    (h : collectSelection s fragments (decides leaves) object limit state a = .ok after) :
    Groups P after.groups := by
  cases goes_of_collectSelection h with
  | leftOut => exact before
  | @field _ _ f inner left =>
    exact groups_addCollected before (executed f inner (.field List.mem_cons_self left))
  | inline left meets inside =>
    exact groups_selections before
      (fun f inner next => executed f inner (.inline List.mem_cons_self left meets next)) inside
  | unmet => exact before
  | seen => exact before
  | @spread _ _ _ name _ _ left new known meets inside =>
    have marked : Groups P { state with seen := name :: state.seen }.groups := before
    exact groups_selections marked
      (fun f' inner next => executed f' inner (.spread List.mem_cons_self left known meets next))
      inside
  | marked => exact before
termination_by (limit, sizeOf a)

theorem groups_selections {P : Field → List Selection → Prop} {limit : Nat}
    {state after : Collecting} {selections : List Selection} (before : Groups P state.groups)
    (executed : ∀ f inner, Executes s fragments leaves object selections f inner → P f inner)
    (h : collectSelections s fragments (decides leaves) object limit state selections = .ok after) :
    Groups P after.groups := by
  cases selections with
  | nil =>
    rw [collectSelections] at h
    cases h
    exact before
  | cons first rest =>
    obtain ⟨between, step, h⟩ := exists_of_collectSelections_cons h
    have one := groups_selection before
      (fun f inner next => executed f inner (next.of_subset (by simp))) step
    exact groups_selections one
      (fun f inner next => executed f inner (next.of_subset (List.subset_cons_self _ _))) h
termination_by (limit, sizeOf selections)

end

/-- Every group that is collected has fields, all of its key and executed. -/
theorem groups_collected (s : Schema) (fragments : List Fragment) (leaves : List Directive → Bool)
    (object : TypeDefinition) (selections : List Selection) :
    Groups (Executes s fragments leaves object selections)
      (collectedWhere s fragments leaves object selections) := by
  cases h : collectSelections s fragments (decides leaves) object fragments.length {}
      selections with
  | error e => exact e.elim
  | ok state =>
    have eq : collectedWhere s fragments leaves object selections = state.groups := by
      unfold collectedWhere collectFields
      rw [h]
      rfl
    rw [eq]
    exact groups_selections (fun _ _ mem => absurd mem List.not_mem_nil) (fun _ _ next => next) h

/-- **What is collected under a key are the fields of the key that are executed.** -/
theorem mem_collected_iff {selections inner : List Selection} {f : Field} {key : String} :
    (∃ group, (key, group) ∈ collectedWhere s fragments leaves object selections ∧
      (f, inner) ∈ group) ↔
      f.responseKey = key ∧ Executes s fragments leaves object selections f inner := by
  constructor
  · rintro ⟨group, mem, hf⟩
    exact (groups_collected s fragments leaves object selections key group mem).2 _ hf
  · rintro ⟨rfl, executes⟩
    obtain ⟨state, eq, done, inside⟩ := done_collected s fragments leaves object selections
    rw [eq]
    exact exists_group_of_executes executes done inside

end QueryShape.Document
