import QueryShape.Proofs.Registry.Order
import QueryShape.Proofs.Search

/-!
# What sorting comes to

`Record.sort` on records with names of their own has three outcomes. A record that depends on
names outside is reported, the first one with all that it misses. If there is none, a cycle of
dependencies is reported exactly if there is one. Otherwise the records come back in an order in
which each stands after all it depends on.

* `Waiting.ends_of_findCycle_eq_none`: where no cycle is found, every way along dependents ends.
* `Waiting.findCycle_isSome_iff`: a cycle is found exactly if there is one.
* `Waiting.nodup_order`, `Waiting.mem_before`: no name is emitted twice, and none before what it
  waits for.
* `Record.sort_outcomes`: the three outcomes.
-/

namespace QueryShape

open Relation Search

namespace Waiting

variable {g : Waiting}

/-- A name waits for another. -/
def WaitsFor (g : Waiting) (a b : String) : Prop := a ∈ g.dependents b

/-! ## A cycle is found if there is one -/

/-- Every way on from a name, along what waits for it, comes to an end. -/
abbrev Ends (g : Waiting) (name : String) : Prop := Acc g.WaitsFor name

/-- **Going on without meeting a cycle keeps the invariant**, and sees all that was to be gone on
to. -/
theorem exploring_of_explore {limit : Nat} {way seen next seen' : List String}
    (h : Exploring g.WaitsFor g.names way seen) (enough : g.length ≤ way.length + limit)
    (hnext : next ⊆ g.names)
    (done : explore g limit way seen next = .ok seen') :
    Exploring g.WaitsFor g.names way seen' ∧ seen ⊆ seen' ∧ ∀ n ∈ next, n ∈ seen' ∧ n ∉ way := by
  induction limit, way, seen, next using explore.induct g generalizing seen' with
  | case1 limit way seen =>
    unfold explore at done
    cases done
    exact ⟨h, List.Subset.refl _, fun n hn => absurd hn List.not_mem_nil⟩
  | case2 limit way seen name rest hseen hway =>
    unfold explore at done
    rw [if_pos hseen, if_pos hway] at done
    cases done
  | case3 limit way seen name rest hseen hway ih =>
    unfold explore at done
    rw [if_pos hseen, if_neg hway] at done
    obtain ⟨h', more, all⟩ := ih h enough (List.cons_subset.mp hnext).2 done
    exact ⟨h', more, List.forall_mem_cons.mpr ⟨⟨more hseen, hway⟩, all⟩⟩
  | case4 way seen name rest hseen =>
    have := h.length_lt hseen (List.cons_subset.mp hnext).1
    rw [names, List.length_map] at this
    omega
  | case5 way seen name rest hseen limit ihInner ihRest =>
    obtain ⟨hname, hrest⟩ := List.cons_subset.mp hnext
    unfold explore at done
    rw [if_neg hseen] at done
    cases hi : explore g limit (name :: way) (name :: seen) (g.dependents name) with
    | error c =>
      simp only [hi] at done
      cases done
    | ok inner =>
      simp only [hi] at done
      have known : g.dependents name ⊆ g.names := fun n hn => by
        obtain ⟨deps, hg, -⟩ := mem_dependents.mp hn
        exact List.mem_map.mpr ⟨_, hg, rfl⟩
      obtain ⟨hin, moreIn, allIn⟩ := ihInner (h.push hseen hname)
        (by rw [List.length_cons]; omega) known hi
      have ends : g.Ends name :=
        ⟨_, fun n hn => hin.left n (allIn n hn).1 (allIn n hn).2⟩
      obtain ⟨h', more, all⟩ := ihRest inner (hin.pop ends) enough hrest done
      have seenIn := List.cons_subset.mp moreIn
      refine ⟨h', List.Subset.trans seenIn.2 more, List.forall_mem_cons.mpr ⟨⟨?_, ?_⟩, all⟩⟩
      · exact more seenIn.1
      · exact fun hw => hseen (h.onWay hw)

/-- **Where no cycle is found, every way ends.** -/
theorem ends_of_findCycle_eq_none (h : g.findCycle = none) {name : String}
    (hname : name ∈ g.names) : g.Ends name := by
  unfold findCycle at h
  cases he : explore g g.length [] [] (g.map (·.1)) with
  | error cycle =>
    rw [he] at h
    cases h
  | ok seen =>
    obtain ⟨done, -, all⟩ := exploring_of_explore (exploring_start g.WaitsFor g.names) (by simp)
      (List.Subset.refl _) he
    exact done.left name (all name hname).1 List.not_mem_nil

theorem isCycle_of_findCycle {cycle : List String} (h : g.findCycle = some cycle) :
    g.IsCycle cycle := by
  unfold findCycle at h
  cases he : explore g g.length [] [] (g.map (·.1)) with
  | ok seen =>
    rw [he] at h
    cases h
  | error found =>
    rw [he] at h
    cases h
    exact isCycle_of_explore (fun n _ => List.isChain_singleton n) he

/-- A name on a cycle waits for itself, directly or through others. -/
theorem IsCycle.exists_transGen {cycle : List String} (h : g.IsCycle cycle) :
    ∃ name, TransGen g.WaitsFor name name := by
  obtain ⟨name, between, rfl, chain⟩ := h
  have waits : (name :: between ++ [name]).IsChain fun a b => TransGen g.WaitsFor b a :=
    chain.imp fun a b hb => .single hb
  have : IsTrans String fun a b => TransGen g.WaitsFor b a := ⟨fun _ _ _ ab bc => bc.trans ab⟩
  have apart := List.rel_of_pairwise_cons (List.isChain_iff_pairwise.mp waits)
    (List.mem_append_right between (List.mem_singleton.mpr rfl))
  exact ⟨name, apart⟩

/-- Whatever waits for something is one of the names. -/
theorem mem_names_of_transGen {a b : String} (h : TransGen g.WaitsFor a b) : a ∈ g.names := by
  obtain ⟨c, hac, -⟩ := TransGen.head'_iff.mp h
  obtain ⟨deps, hg, -⟩ := mem_dependents.mp hac
  exact List.mem_map.mpr ⟨_, hg, rfl⟩

/-- **A cycle is found exactly if there is one.** -/
theorem findCycle_isSome_iff :
    (∃ cycle, g.findCycle = some cycle) ↔ ∃ name, TransGen g.WaitsFor name name := by
  constructor
  · rintro ⟨cycle, h⟩
    exact (isCycle_of_findCycle h).exists_transGen
  · rintro ⟨name, loop⟩
    cases h : g.findCycle with
    | some cycle => exact ⟨cycle, rfl⟩
    | none =>
      exact absurd loop (not_transGen_of_acc (ends_of_findCycle_eq_none h
        (mem_names_of_transGen loop)))

/-! ## Without a cycle what names wait for is ranked -/

theorem ranked_of_acyclic (acyclic : ∀ name, ¬ TransGen g.WaitsFor name name)
    (known : ∀ n deps, (n, deps) ∈ g → ∀ d ∈ deps, d ∈ g.names) : g.Ranked :=
  ⟨depth g.WaitsFor g.names, fun n deps hg d hd =>
    depth_lt acyclic (mem_dependents.mpr ⟨deps, hg, hd⟩) (known n deps hg d hd)⟩

/-! ## No name is emitted twice, and none before what it waits for -/

theorem nodup_dependents (distinct : g.names.Nodup) (name : String) :
    (g.dependents name).Nodup :=
  distinct.sublist (List.filter_sublist.map _)

/-- A name is released once only. -/
theorem nodup_released (distinct : g.names.Nodup) {emitted ready : List String}
    (once : ready.Nodup) (new : ∀ n ∈ ready, n ∉ emitted) : (released g emitted ready).Nodup := by
  induction ready generalizing emitted with
  | nil => exact List.nodup_nil
  | cons x rest ih =>
    obtain ⟨hx, hrest⟩ := List.nodup_cons.mp once
    have later : ∀ n ∈ rest, n ∉ x :: emitted := by
      intro n hn he
      rcases List.mem_cons.mp he with rfl | he
      · exact hx hn
      · exact new n (List.mem_cons_of_mem _ hn) he
    unfold released
    refine List.nodup_append.mpr ⟨(nodup_dependents distinct x).filter _, ih hrest later, ?_⟩
    rintro a ha b hb rfl
    -- what is released later waits for a name that has not been emitted yet
    obtain ⟨-, ⟨y, hy, hya⟩, -⟩ := of_mem_released distinct hb
    have := List.all_eq_true.mp (List.mem_filter.mp ha).2 y hya
    exact later y hy (of_decide_eq_true this)

/-- The rounds hold names only, and none that has been emitted before. -/
theorem new_of_mem_rounds (distinct : g.names.Nodup) {limit : Nat} {emitted ready : List String}
    (h : g.Emitting emitted ready) {n : String}
    (hn : n ∈ (rounds g limit emitted ready).flatten) : n ∈ g.names ∧ n ∉ emitted := by
  induction limit, emitted, ready using rounds.induct g with
  | case1 => exact absurd hn List.not_mem_nil
  | case2 => simp [rounds] at hn
  | case3 limit emitted ready _ ih =>
    rw [rounds, List.flatten_cons, List.mem_append] at hn
    · rcases hn with hn | hn
      · exact ⟨h.known n hn, h.new n hn⟩
      · obtain ⟨hname, hnew⟩ := ih (h.next distinct) hn
        exact ⟨hname, fun he => hnew (List.mem_append_right _ he)⟩
    · assumption

theorem nodup_rounds (distinct : g.names.Nodup) {limit : Nat} {emitted ready : List String}
    (h : g.Emitting emitted ready) (once : ready.Nodup) :
    (rounds g limit emitted ready).flatten.Nodup := by
  induction limit, emitted, ready using rounds.induct g with
  | case1 => exact List.nodup_nil
  | case2 => simp [rounds]
  | case3 limit emitted ready _ ih =>
    rw [rounds, List.flatten_cons, List.nodup_append]
    · refine ⟨once, ih (h.next distinct) (nodup_released distinct once h.new), ?_⟩
      rintro a ha b hb rfl
      refine (new_of_mem_rounds distinct (h.next distinct) hb).2 ?_
      exact List.mem_append_left _ (List.mem_reverse.mpr ha)
    · assumption

/-- What a name of the rounds waits for has been emitted before, or is in front of it. -/
theorem mem_before_rounds (distinct : g.names.Nodup) {limit : Nat} {emitted ready : List String}
    (h : g.Emitting emitted ready) {before after : List String} {n : String}
    (eq : (rounds g limit emitted ready).flatten = before ++ n :: after) {d : String}
    (hd : d ∈ g.dependencies n) : d ∈ emitted ∨ d ∈ before := by
  induction limit, emitted, ready using rounds.induct g generalizing before with
  | case1 => simp [rounds] at eq
  | case2 => simp [rounds] at eq
  | case3 limit emitted ready _ ih =>
    rw [rounds, List.flatten_cons] at eq
    · rcases List.append_eq_append_iff.mp eq with ⟨between, rfl, rest⟩ | ⟨between, rfl, rest⟩
      · -- the name is of a later round
        rcases ih (h.next distinct) rest with he | hb
        · rcases List.mem_append.mp he with hr | he
          · exact Or.inr (List.mem_append_left _ (List.mem_reverse.mp hr))
          · exact Or.inl he
        · exact Or.inr (List.mem_append_right _ hb)
      · rcases List.cons_eq_append_iff.mp rest with ⟨rfl, rest⟩ | ⟨between', rfl, -⟩
        · rcases ih (h.next distinct) (rest.trans (List.nil_append _).symm) with he | hb
          · rcases List.mem_append.mp he with hr | he
            · exact Or.inr (by simpa using hr)
            · exact Or.inl he
          · exact absurd hb List.not_mem_nil
        · -- the name is of this round
          exact Or.inl (h.free n (by simp) d hd)
    · assumption

theorem mem_names_of_mem_order (distinct : g.names.Nodup) {n : String} (h : n ∈ g.order) :
    n ∈ g.names :=
  (new_of_mem_rounds distinct (emitting_first distinct) h).1

/-- **No name is emitted twice.** -/
theorem nodup_order (distinct : g.names.Nodup) : g.order.Nodup :=
  nodup_rounds distinct (emitting_first distinct) (distinct.sublist (List.filter_sublist.map _))

/-- **No name is emitted before what it waits for.** -/
theorem mem_before (distinct : g.names.Nodup) {before after : List String} {n : String}
    (eq : g.order = before ++ n :: after) {d : String} (hd : d ∈ g.dependencies n) : d ∈ before :=
  (mem_before_rounds distinct (emitting_first distinct) eq hd).resolve_left List.not_mem_nil

end Waiting

/-! ## Sorting records -/

namespace Record

variable {records : List Record}

/-- A record of the list depends directly on a name. -/
def DependsOn (records : List Record) (a b : String) : Prop :=
  ∃ r ∈ records, r.name = a ∧ b ∈ r.dependencies

/-- The names of records, each with what it depends on. -/
def waiting (records : List Record) : Waiting :=
  records.map fun r => (r.name, r.dependencies)

theorem names_waiting : (waiting records).names = records.map name := by
  simp [waiting, Waiting.names]

theorem waitsFor_waiting : (waiting records).WaitsFor = DependsOn records := by
  funext a b
  rw [Waiting.WaitsFor, Waiting.mem_dependents, DependsOn]
  simp only [waiting, List.mem_map, eq_iff_iff]
  constructor
  · rintro ⟨deps, ⟨r, hr, e⟩, hb⟩
    cases e
    exact ⟨r, hr, rfl, hb⟩
  · rintro ⟨r, hr, rfl, hb⟩
    exact ⟨r.dependencies, ⟨r, hr, rfl⟩, hb⟩

theorem mem_missingFrom {r : Record} {d : String} :
    d ∈ missingFrom records r ↔ d ∈ r.dependencies ∧ d ∉ records.map name := by
  unfold missingFrom
  rw [List.mem_filter]
  simp

/-- Some record depends on names outside: the test that sorting makes of it. -/
theorem missingFrom_isEmpty_iff {r : Record} :
    (missingFrom records r).isEmpty ↔ ∀ d ∈ r.dependencies, d ∈ records.map name := by
  rw [List.isEmpty_iff, List.eq_nil_iff_forall_not_mem]
  simp only [mem_missingFrom, not_and, not_not]

/-- The records of names, where each is the name of one. -/
theorem map_name_filterMap_find? {names : List String} (h : ∀ n ∈ names, n ∈ records.map name) :
    (names.filterMap fun n => records.find? (·.name == n)).map name = names := by
  induction names with
  | nil => rfl
  | cons n rest ih =>
    obtain ⟨hn, hrest⟩ := List.forall_mem_cons.mp h
    cases found : records.find? (·.name == n) with
    | none =>
      obtain ⟨r, hr, e⟩ := List.mem_map.mp hn
      exact absurd (List.find?_eq_none.mp found r hr) (by simp [e])
    | some r =>
      have : r.name = n := by simpa using List.find?_some found
      rw [List.filterMap_cons, found, List.map_cons, ih hrest, this]

theorem known_waiting (known : ∀ r ∈ records, ∀ d ∈ r.dependencies, d ∈ records.map name) :
    ∀ n deps, (n, deps) ∈ waiting records → ∀ d ∈ deps, d ∈ (waiting records).names := by
  intro n deps hg d hd
  obtain ⟨r, hr, e⟩ := List.mem_map.mp hg
  cases e
  exact names_waiting ▸ known r hr d hd

theorem map_name_order (distinct : (records.map name).Nodup) :
    ((waiting records).order.filterMap fun n => records.find? (·.name == n)).map name =
      (waiting records).order :=
  map_name_filterMap_find? fun _ hn => names_waiting ▸
    Waiting.mem_names_of_mem_order (names_waiting ▸ distinct) hn

/-- What sorting comes to where nothing is missing. -/
theorem sort_of_known (distinct : (records.map name).Nodup)
    (known : ∀ r ∈ records, ∀ d ∈ r.dependencies, d ∈ records.map name) :
    sort records = match (waiting records).findCycle with
      | some cycle => .error (.cycle cycle)
      | none => .ok ((waiting records).order.filterMap fun n => records.find? (·.name == n)) := by
  have complete : records.find? (fun r => !(missingFrom records r).isEmpty) = none := by
    refine List.find?_eq_none.mpr fun r hr => ?_
    simpa using missingFrom_isEmpty_iff.mpr (known r hr)
  unfold sort
  simp only [distinctByName_of_nodup distinct, complete]
  rfl

/-- Where nothing is missing, the cycle that is reported is the one that is found. -/
theorem sort_cycle_iff (distinct : (records.map name).Nodup)
    (known : ∀ r ∈ records, ∀ d ∈ r.dependencies, d ∈ records.map name) {cycle : List String} :
    sort records = .error (.cycle cycle) ↔ (waiting records).findCycle = some cycle := by
  rw [sort_of_known distinct known]
  cases (waiting records).findCycle <;> simp

/-- If records depend on names outside, one of them is the first that does. -/
theorem exists_first_missing
    (h : ∃ r ∈ records, ∃ d ∈ r.dependencies, d ∉ records.map name) :
    ∃ before r after, records = before ++ r :: after ∧
      (∀ b ∈ before, ∀ d ∈ b.dependencies, d ∈ records.map name) ∧
      ∃ d ∈ r.dependencies, d ∉ records.map name := by
  cases found : records.find? fun r => !(missingFrom records r).isEmpty with
  | none =>
    obtain ⟨r, hr, d, hd, missing⟩ := h
    have complete := List.find?_eq_none.mp found r hr
    exact absurd (missingFrom_isEmpty_iff.mp (by simpa using complete) d hd) missing
  | some r =>
    obtain ⟨lacking, before, after, eq, complete⟩ := List.find?_eq_some_iff_append.mp found
    refine ⟨before, r, after, eq, fun b hb => ?_, ?_⟩
    · exact missingFrom_isEmpty_iff.mp (by simpa using complete b hb)
    · by_contra none
      rw [missingFrom_isEmpty_iff.mpr (by simpa using none)] at lacking
      exact absurd lacking (by decide)

/-- **The first record that depends on names outside is reported, with exactly those.** -/
theorem sort_of_missing (distinct : (records.map name).Nodup) {before after : List Record}
    {r : Record} (eq : records = before ++ r :: after)
    (known : ∀ b ∈ before, ∀ d ∈ b.dependencies, d ∈ records.map name)
    (missing : missingFrom records r ≠ []) :
    sort records = .error (.undefinedDependencies r.name (missingFrom records r)) := by
  have first : records.find? (fun r => !(missingFrom records r).isEmpty) = some r := by
    refine List.find?_eq_some_iff_append.mpr ⟨by simpa using missing, before, after, eq, ?_⟩
    exact fun b hb => by simpa using missingFrom_isEmpty_iff.mpr (known b hb)
  unfold sort
  simp only [distinctByName_of_nodup distinct, first]

/-- **Without a cycle the records come back in an order** in which each stands after all it depends
on, none lost and none twice. -/
theorem sort_of_acyclic (distinct : (records.map name).Nodup)
    (known : ∀ r ∈ records, ∀ d ∈ r.dependencies, d ∈ records.map name)
    (acyclic : ∀ name, ¬ TransGen (DependsOn records) name name) :
    ∃ sorted, sort records = .ok sorted ∧ sorted.Perm records ∧
      ∀ before r after, sorted = before ++ r :: after →
        ∀ d ∈ r.dependencies, d ∈ before.map name := by
  have once : (waiting records).names.Nodup := names_waiting ▸ distinct
  have waits := known_waiting known
  have ranked := Waiting.ranked_of_acyclic (waitsFor_waiting ▸ acyclic) waits
  have inOrder := map_name_order distinct
  refine ⟨_, by rw [sort_of_known distinct known, Waiting.findCycle_eq_none ranked], ?_, ?_⟩
  · refine (List.perm_ext_iff_of_nodup ?_ (List.Nodup.of_map name distinct)).mpr fun r => ?_
    · refine List.Nodup.of_map name ?_
      rw [inOrder]
      exact Waiting.nodup_order once
    · rw [List.mem_filterMap]
      constructor
      · rintro ⟨n, -, found⟩
        exact List.mem_of_find?_eq_some found
      · intro hr
        refine ⟨r.name, Waiting.mem_order once ranked waits ?_, ?_⟩
        · exact names_waiting ▸ List.mem_map.mpr ⟨r, hr, rfl⟩
        · exact (find?_name_eq_some_iff distinct).mpr ⟨hr, rfl⟩
  · intro before r after eq d hd
    have hr : r ∈ records := by
      have := eq ▸ List.mem_append_right before List.mem_cons_self
      obtain ⟨n, -, found⟩ := List.mem_filterMap.mp this
      exact List.mem_of_find?_eq_some found
    have place : (waiting records).order = before.map name ++ r.name :: after.map name := by
      rw [← inOrder, eq, List.map_append, List.map_cons]
    refine Waiting.mem_before once place ?_
    rwa [Waiting.dependencies_eq once (List.mem_map.mpr ⟨r, hr, rfl⟩)]

/-- Records that can be sorted depend on each other only, and none is lost and none twice. -/
theorem of_sort_eq_ok (distinct : (records.map name).Nodup) {sorted : List Record}
    (h : sort records = .ok sorted) :
    (∀ r ∈ records, ∀ d ∈ r.dependencies, d ∈ records.map name) ∧ sorted.Perm records := by
  by_cases known : ∀ r ∈ records, ∀ d ∈ r.dependencies, d ∈ records.map name
  · refine ⟨known, ?_⟩
    by_cases acyclic : ∀ name, ¬ TransGen (DependsOn records) name name
    · obtain ⟨other, same, perm, -⟩ := sort_of_acyclic distinct known acyclic
      rw [h] at same
      cases same
      exact perm
    · push Not at acyclic
      obtain ⟨cycle, found⟩ := Waiting.findCycle_isSome_iff.mpr (waitsFor_waiting ▸ acyclic)
      rw [(sort_cycle_iff distinct known).mpr found] at h
      cases h
  · push Not at known
    obtain ⟨before, r, after, eq, complete, d, hd, missing⟩ := exists_first_missing known
    rw [sort_of_missing distinct eq complete
      (List.ne_nil_of_mem (mem_missingFrom.mpr ⟨hd, missing⟩))] at h
    cases h

/-- **The three outcomes of sorting.** If records depend on names that none has, the first that does
is reported with exactly those, in order. Otherwise a cycle is reported if and only if there is one,
and what is reported is one: its ends are the same, and each entry is what the next depends on.
Otherwise the records come back in an order in which each stands after all it depends on. -/
theorem sort_outcomes (distinct : (records.map name).Nodup) :
    ((∃ r ∈ records, ∃ d ∈ r.dependencies, d ∉ records.map name) →
      ∃ before r after missing, records = before ++ r :: after ∧
        (∀ b ∈ before, ∀ d ∈ b.dependencies, d ∈ records.map name) ∧
        sort records = .error (.undefinedDependencies r.name missing) ∧ missing ≠ [] ∧
        missing.Pairwise (· < ·) ∧ ∀ d, d ∈ missing ↔ d ∈ r.dependencies ∧ d ∉ records.map name) ∧
    ((∀ r ∈ records, ∀ d ∈ r.dependencies, d ∈ records.map name) →
      ((∃ cycle, sort records = .error (.cycle cycle)) ↔
        ∃ name, TransGen (DependsOn records) name name) ∧
      (∀ cycle, sort records = .error (.cycle cycle) → ∃ first between,
        cycle = first :: between ++ [first] ∧ cycle.IsChain fun a b => DependsOn records b a) ∧
      ((∀ name, ¬ TransGen (DependsOn records) name name) →
        ∃ sorted, sort records = .ok sorted ∧ sorted.Perm records ∧
          ∀ before r after, sorted = before ++ r :: after →
            ∀ d ∈ r.dependencies, d ∈ before.map name)) := by
  refine ⟨fun incomplete => ?_,
    fun known => ⟨?_, fun cycle h => ?_, sort_of_acyclic distinct known⟩⟩
  · obtain ⟨before, r, after, eq, known, d, hd, missing⟩ := exists_first_missing incomplete
    have some := List.ne_nil_of_mem (mem_missingFrom.mpr ⟨hd, missing⟩)
    exact ⟨before, r, after, missingFrom records r, eq, known,
      sort_of_missing distinct eq known some, some, r.dependencies.sorted.filter _, fun _ =>
      mem_missingFrom⟩
  · rw [← waitsFor_waiting, ← Waiting.findCycle_isSome_iff]
    simp only [sort_cycle_iff distinct known]
  · obtain ⟨first, between, eq, chain⟩ :=
      Waiting.isCycle_of_findCycle ((sort_cycle_iff distinct known).mp h)
    exact ⟨first, between, eq, chain.imp fun a b hb => waitsFor_waiting ▸ hb⟩

/-- Classes with nothing but names and dependencies. -/
def leaves (classes : List (String × List String)) : List Record :=
  classes.map fun (name, dependencies) =>
    .leaf { name, graphqlType := name, possibleTypes := [], dependencies := .ofList dependencies }

theorem sort_outcomes_leaves :
    (∃ missing,
      sort (leaves [("Op", ["Missing"])]) = .error (.undefinedDependencies "Op" missing)) ∧
    (∃ cycle, sort (leaves [("A", ["B"]), ("B", ["A"])]) = .error (.cycle cycle)) ∧
    ∃ sorted, sort (leaves [("A", ["C"]), ("B", []), ("C", [])]) = .ok sorted := by
  refine ⟨?_, ?_, ?_⟩
  · have distinct : ((leaves [("Op", ["Missing"])]).map name).Nodup := by decide
    obtain ⟨before, r, after, missing, eq, -, h, -⟩ :=
      (sort_outcomes distinct).1 ⟨_, List.mem_cons_self, "Missing", by decide, by decide⟩
    have : r ∈ leaves [("Op", ["Missing"])] := eq ▸ List.mem_append_right before List.mem_cons_self
    rw [List.mem_singleton.mp this] at h
    exact ⟨missing, h⟩
  · have edges : DependsOn (leaves [("A", ["B"]), ("B", ["A"])]) "A" "B" ∧
        DependsOn (leaves [("A", ["B"]), ("B", ["A"])]) "B" "A" :=
      ⟨⟨_, List.mem_cons_self, rfl, by decide⟩,
        ⟨_, List.mem_cons_of_mem _ List.mem_cons_self, rfl, by decide⟩⟩
    exact ((sort_outcomes (by decide)).2 (by decide)).1.mpr ⟨"A", .tail (.single edges.1) edges.2⟩
  · have edge : ∀ r ∈ leaves [("A", ["C"]), ("B", []), ("C", [])], ∀ d ∈ r.dependencies,
        r.name = "A" ∧ d = "C" := by decide
    have acyclic : ∀ name, ¬ TransGen (DependsOn (leaves [("A", ["C"]), ("B", []), ("C", [])]))
        name name := by
      intro name loop
      obtain ⟨d, ⟨r, hr, rfl, hd⟩, back⟩ := TransGen.head'_iff.mp loop
      rw [(edge r hr d hd).1, (edge r hr d hd).2] at back
      rcases back.cases_head with same | ⟨c, ⟨x, hx, named, hc⟩, -⟩
      · exact absurd same (by decide)
      · exact absurd (named.symm.trans (edge x hx c hc).1) (by decide)
    obtain ⟨sorted, h, -⟩ := ((sort_outcomes (by decide)).2 (by decide)).2.2 acyclic
    exact ⟨sorted, h⟩

end Record

end QueryShape
