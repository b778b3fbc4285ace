import Mathlib.Data.List.Chain
import Mathlib.Data.List.Count
import Mathlib.Data.List.Nodup
import QueryShape.Proofs.Record.Merge
import QueryShape.Registry.Order

/-!
# The emission order exists

What names wait for is ranked if each name has a number above those of all it waits for.

* `isCycle_of_explore`: a cycle that is found is one.
* `findCycle_eq_none`: where what names wait for is ranked, no cycle is found.
* `mem_order`: the rounds then emit every name.
* `exists_sort`: records with names of their own, that depend on each other only and are ranked,
  can be sorted, and no record is lost or added.
-/

namespace QueryShape

namespace Waiting

/-- The names that wait for others. -/
def names (g : Waiting) : List String := g.map (·.1)

variable {g : Waiting}

/-! ## Dependents -/

theorem mem_dependents {x n : String} :
    n ∈ g.dependents x ↔ ∃ deps, (n, deps) ∈ g ∧ x ∈ deps := by
  unfold dependents
  simp only [List.mem_map, List.mem_filter, decide_eq_true_eq, Prod.exists]
  constructor
  · rintro ⟨n', deps, ⟨hg, hx⟩, rfl⟩
    exact ⟨deps, hg, hx⟩
  · rintro ⟨deps, hg, hx⟩
    exact ⟨n, deps, ⟨hg, hx⟩, rfl⟩

/-- A name waits for what its entry says. -/
theorem dependencies_eq (distinct : g.names.Nodup) {n : String} {deps : NameSet}
    (h : (n, deps) ∈ g) : g.dependencies n = deps := by
  induction g with
  | nil => exact absurd h List.not_mem_nil
  | cons first rest ih =>
    obtain ⟨m, ds⟩ := first
    simp only [names, List.map_cons, List.nodup_cons] at distinct
    unfold dependencies
    rcases List.mem_cons.mp h with e | later
    · cases e
      simp
    · have hne : n ≠ m := by
        rintro rfl
        exact distinct.1 (List.mem_map.mpr ⟨(n, deps), later, rfl⟩)
      rw [List.lookup_cons, beq_false_of_ne hne]
      exact ih distinct.2 later

theorem mem_dependents_iff (distinct : g.names.Nodup) {x n : String} :
    n ∈ g.dependents x ↔ n ∈ g.names ∧ x ∈ g.dependencies n := by
  rw [mem_dependents]
  constructor
  · rintro ⟨deps, hg, hx⟩
    exact ⟨List.mem_map.mpr ⟨(n, deps), hg, rfl⟩, by rwa [dependencies_eq distinct hg]⟩
  · rintro ⟨hn, hx⟩
    obtain ⟨⟨m, deps⟩, hg, rfl⟩ := List.mem_map.mp hn
    exact ⟨deps, hg, by rwa [dependencies_eq distinct hg] at hx⟩

/-! ## Cycles -/

/-- The list leads from a name back to it, each name after the first waiting for the one before. -/
def IsCycle (g : Waiting) (cycle : List String) : Prop :=
  ∃ name between, cycle = name :: between ++ [name] ∧
    cycle.IsChain fun a b => b ∈ g.dependents a

/-- A way along dependents, nearest first. -/
abbrev IsWay (g : Waiting) (way : List String) : Prop :=
  way.IsChain fun a b => a ∈ g.dependents b

/-- A way that comes back to a name on it holds a cycle. -/
theorem isCycle_cycleOn {way : List String} {name : String} (h : g.IsWay (name :: way))
    (back : name ∈ way) : g.IsCycle (cycleOn way name) := by
  obtain ⟨before, after, rfl, new⟩ := List.eq_append_cons_of_mem back
  have front : (before ++ name :: after).takeWhile (· ≠ name) = before := by
    rw [List.takeWhile_append_of_pos fun x hx => by
      simpa using fun e : x = name => new (e ▸ hx)]
    simp
  unfold cycleOn
  rw [front]
  refine ⟨name, before.reverse, rfl, ?_⟩
  have loop : g.IsWay (name :: before ++ [name]) :=
    h.prefix ⟨after, by simp⟩
  have reversed : name :: before.reverse ++ [name] = (name :: before ++ [name]).reverse := by simp
  rw [reversed, List.isChain_reverse]
  exact loop

/-- **A cycle that is found is one.** -/
theorem isCycle_of_explore {limit : Nat} {way seen next cycle : List String}
    (hnext : ∀ n ∈ next, g.IsWay (n :: way)) (h : explore g limit way seen next = .error cycle) :
    g.IsCycle cycle := by
  induction limit, way, seen, next using explore.induct g with
  | case1 => simp [explore] at h
  | case2 limit way seen name rest hseen hway =>
    unfold explore at h
    rw [if_pos hseen, if_pos hway] at h
    cases h
    exact isCycle_cycleOn (hnext name List.mem_cons_self) hway
  | case3 limit way seen name rest hseen hway ih =>
    unfold explore at h
    rw [if_pos hseen, if_neg hway] at h
    exact ih (fun n hn => hnext n (List.mem_cons_of_mem _ hn)) h
  | case4 way seen name rest hseen =>
    unfold explore at h
    rw [if_neg hseen] at h
    cases h
  | case5 way seen name rest hseen limit ihInner ihRest =>
    unfold explore at h
    rw [if_neg hseen] at h
    cases hi : explore g limit (name :: way) (name :: seen) (g.dependents name) with
    | error c =>
      simp only [hi] at h
      cases h
      refine ihInner (fun n hn => ?_) hi
      exact List.isChain_cons_cons.mpr ⟨hn, hnext name List.mem_cons_self⟩
    | ok seen' =>
      simp only [hi] at h
      exact ihRest seen' (fun n hn => hnext n (List.mem_cons_of_mem _ hn)) h

/-- Each name has a number above those of all it waits for. -/
def Ranked (g : Waiting) : Prop :=
  ∃ rank : String → Nat, ∀ n deps, (n, deps) ∈ g → ∀ d ∈ deps, rank d < rank n

theorem not_isCycle (ranked : g.Ranked) (cycle : List String) : ¬ g.IsCycle cycle := by
  rintro ⟨name, between, rfl, chain⟩
  obtain ⟨rank, below⟩ := ranked
  have climbs : (name :: between ++ [name]).IsChain fun a b => rank a < rank b := by
    refine chain.imp fun a b hb => ?_
    obtain ⟨deps, hg, ha⟩ := mem_dependents.mp hb
    exact below b deps hg a ha
  have : IsTrans String fun a b => rank a < rank b := ⟨fun _ _ _ => Nat.lt_trans⟩
  have apart := List.rel_of_pairwise_cons (List.isChain_iff_pairwise.mp climbs)
    (List.mem_append_right between (List.mem_singleton.mpr rfl))
  exact absurd apart (Nat.lt_irrefl _)

/-- **Where what names wait for is ranked, no cycle is found.** -/
theorem findCycle_eq_none (ranked : g.Ranked) : g.findCycle = none := by
  unfold findCycle
  cases h : explore g g.length [] [] (g.map (·.1)) with
  | ok => rfl
  | error cycle =>
    exact absurd (isCycle_of_explore (fun n _ => List.isChain_singleton n) h)
      (not_isCycle ranked cycle)

/-! ## Rounds -/

/-- What holds before each round: the names of the round are new, and are those that wait for
emitted names only. -/
structure Emitting (g : Waiting) (emitted ready : List String) : Prop where
  new : ∀ n ∈ ready, n ∉ emitted
  known : ∀ n ∈ ready, n ∈ g.names
  closed : ∀ n ∈ emitted, ∀ d ∈ g.dependencies n, d ∈ emitted
  free : ∀ n ∈ ready, ∀ d ∈ g.dependencies n, d ∈ emitted
  all : ∀ n ∈ g.names, (∀ d ∈ g.dependencies n, d ∈ emitted) → n ∈ emitted ∨ n ∈ ready

/-- A name is released only if it waited for a name of the round, and waits for nothing else. -/
theorem of_mem_released (distinct : g.names.Nodup) {emitted ready : List String} {n : String}
    (h : n ∈ released g emitted ready) :
    n ∈ g.names ∧ (∃ x ∈ ready, x ∈ g.dependencies n) ∧
      ∀ d ∈ g.dependencies n, d ∈ ready.reverse ++ emitted := by
  induction ready generalizing emitted with
  | nil => exact absurd h List.not_mem_nil
  | cons x rest ih =>
    unfold released at h
    rcases List.mem_append.mp h with h | h
    · obtain ⟨hd, hall⟩ := List.mem_filter.mp h
      obtain ⟨hn, hx⟩ := (mem_dependents_iff distinct).mp hd
      refine ⟨hn, ⟨x, List.mem_cons_self, hx⟩, fun d hd => ?_⟩
      have := of_decide_eq_true (List.all_eq_true.mp hall d hd)
      simp only [List.reverse_cons, List.append_assoc, List.singleton_append]
      exact List.mem_append_right _ this
    · obtain ⟨hn, ⟨y, hy, hyn⟩, hall⟩ := ih h
      exact ⟨hn, ⟨y, List.mem_cons_of_mem _ hy, hyn⟩, by simpa using hall⟩

/-- A name is released with the last of the names that it waited for. -/
theorem mem_released (distinct : g.names.Nodup) {emitted ready : List String} {n : String}
    (hn : n ∈ g.names) (hall : ∀ d ∈ g.dependencies n, d ∈ ready.reverse ++ emitted)
    (waits : ∃ d ∈ g.dependencies n, d ∉ emitted) : n ∈ released g emitted ready := by
  induction ready generalizing emitted with
  | nil =>
    obtain ⟨d, hd, hne⟩ := waits
    exact absurd (by simpa using hall d hd) hne
  | cons x rest ih =>
    unfold released
    by_cases last : ∀ d ∈ g.dependencies n, d ∈ x :: emitted
    · obtain ⟨d, hd, hne⟩ := waits
      have hx : x ∈ g.dependencies n := by
        rcases List.mem_cons.mp (last d hd) with rfl | he
        · exact hd
        · exact absurd he hne
      refine List.mem_append_left _ (List.mem_filter.mpr ⟨?_, ?_⟩)
      · exact (mem_dependents_iff distinct).mpr ⟨hn, hx⟩
      · exact List.all_eq_true.mpr fun d hd => decide_eq_true (last d hd)
    · refine List.mem_append_right _ (ih (by simpa using hall) ?_)
      simpa using last

/-- **A round keeps the invariant.** -/
theorem Emitting.next (distinct : g.names.Nodup) {emitted ready : List String}
    (h : g.Emitting emitted ready) :
    g.Emitting (ready.reverse ++ emitted) (released g emitted ready) where
  new := by
    intro n hn he
    obtain ⟨-, ⟨x, hx, hxn⟩, -⟩ := of_mem_released distinct hn
    -- a name that was emitted, or is in the round, does not wait for one of the round
    rcases List.mem_append.mp he with hr | he
    · exact h.new x hx (h.free n (List.mem_reverse.mp hr) x hxn)
    · exact h.new x hx (h.closed n he x hxn)
  known := fun n hn => (of_mem_released distinct hn).1
  closed := by
    intro n hn d hd
    refine List.mem_append_right _ ?_
    rcases List.mem_append.mp hn with hr | he
    · exact h.free n (List.mem_reverse.mp hr) d hd
    · exact h.closed n he d hd
  free := fun n hn => (of_mem_released distinct hn).2.2
  all := by
    intro n hn hall
    by_cases waits : ∃ d ∈ g.dependencies n, d ∉ emitted
    · exact Or.inr (mem_released distinct hn hall waits)
    · left
      refine List.mem_append.mpr ?_
      rcases h.all n hn (by simpa using waits) with he | hr
      · exact Or.inr he
      · exact Or.inl (List.mem_reverse.mpr hr)

/-- The names that are left to be emitted. -/
def left (g : Waiting) (emitted : List String) : Nat := g.names.countP (· ∉ emitted)

theorem left_lt {emitted ready : List String} (h : g.Emitting emitted ready) (some : ready ≠ []) :
    g.left (ready.reverse ++ emitted) < g.left emitted := by
  obtain ⟨x, hx⟩ := List.exists_mem_of_ne_nil ready some
  have within : g.left (ready.reverse ++ emitted) =
      (g.names.filter (· ∉ emitted)).countP (· ∉ ready.reverse ++ emitted) := by
    unfold left
    rw [List.countP_filter]
    refine List.countP_congr fun n _ => ?_
    simp only [List.mem_append, not_or, decide_eq_true_eq, Bool.and_eq_true]
    tauto
  unfold left at *
  rw [within, List.countP_eq_length_filter (l := g.names), List.countP_lt_length_iff]
  refine ⟨x, List.mem_filter.mpr ⟨h.known x hx, by simpa using h.new x hx⟩, ?_⟩
  simp [hx]

/-- With nothing to be emitted next, everything has been. -/
theorem Emitting.mem_of_nil (distinct : g.names.Nodup) (ranked : g.Ranked)
    (known : ∀ n deps, (n, deps) ∈ g → ∀ d ∈ deps, d ∈ g.names) {emitted : List String}
    (h : g.Emitting emitted []) : ∀ n ∈ g.names, n ∈ emitted := by
  obtain ⟨rank, below⟩ := ranked
  suffices ∀ k n, rank n < k → n ∈ g.names → n ∈ emitted from
    fun n hn => this (rank n + 1) n (Nat.lt_succ_self _) hn
  intro k
  induction k with
  | zero => exact fun n hk => absurd hk (Nat.not_lt_zero _)
  | succ k ih =>
    intro n hk hn
    obtain ⟨⟨m, deps⟩, hg, rfl⟩ := List.mem_map.mp hn
    have emittedBefore : ∀ d ∈ g.dependencies m, d ∈ emitted := by
      rw [dependencies_eq distinct hg]
      intro d hd
      have := below m deps hg d hd
      exact ih d (by simp only at hk; omega) (known m deps hg d hd)
    exact (h.all m hn emittedBefore).resolve_right List.not_mem_nil

theorem mem_rounds (distinct : g.names.Nodup) (ranked : g.Ranked)
    (known : ∀ n deps, (n, deps) ∈ g → ∀ d ∈ deps, d ∈ g.names) {limit : Nat}
    {emitted ready : List String} (h : g.Emitting emitted ready) (enough : g.left emitted < limit)
    {n : String} (hn : n ∈ g.names) : n ∈ emitted ∨ n ∈ (rounds g limit emitted ready).flatten := by
  induction limit generalizing emitted ready with
  | zero => exact absurd enough (Nat.not_lt_zero _)
  | succ limit ih =>
    cases ready with
    | nil => exact Or.inl (h.mem_of_nil distinct ranked known n hn)
    | cons x rest =>
      have fewer := left_lt h (List.cons_ne_nil x rest)
      unfold rounds
      rw [List.flatten_cons, List.mem_append]
      rcases ih (h.next distinct) (by omega) with he | hr
      · rcases List.mem_append.mp he with hx | he
        · exact Or.inr (Or.inl (List.mem_reverse.mp hx))
        · exact Or.inl he
      · exact Or.inr (Or.inr hr)

/-- The first round: the names that wait for nothing. -/
theorem emitting_first (distinct : g.names.Nodup) :
    g.Emitting [] ((g.filter (·.2.toList.isEmpty)).map (·.1)) where
  new := fun _ _ => List.not_mem_nil
  known := by
    intro n hn
    obtain ⟨e, he, rfl⟩ := List.mem_map.mp hn
    exact List.mem_map.mpr ⟨e, (List.mem_filter.mp he).1, rfl⟩
  closed := fun n hn => absurd hn List.not_mem_nil
  free := by
    intro n hn d hd
    obtain ⟨⟨m, deps⟩, he, rfl⟩ := List.mem_map.mp hn
    obtain ⟨hg, empty⟩ := List.mem_filter.mp he
    rw [dependencies_eq distinct hg] at hd
    rw [List.isEmpty_iff] at empty
    exact absurd (empty ▸ NameSet.mem_toList.mpr hd) List.not_mem_nil
  all := by
    intro n hn none
    obtain ⟨⟨m, deps⟩, hg, rfl⟩ := List.mem_map.mp hn
    rw [dependencies_eq distinct hg] at none
    refine Or.inr (List.mem_map.mpr ⟨_, List.mem_filter.mpr ⟨hg, ?_⟩, rfl⟩)
    rw [List.isEmpty_iff]
    exact List.eq_nil_iff_forall_not_mem.mpr fun d hd => absurd (none d hd) List.not_mem_nil

/-- **Every name is emitted**, where what names wait for is ranked and waits as well. -/
theorem mem_order (distinct : g.names.Nodup) (ranked : g.Ranked)
    (known : ∀ n deps, (n, deps) ∈ g → ∀ d ∈ deps, d ∈ g.names) {n : String}
    (hn : n ∈ g.names) : n ∈ g.order := by
  have enough : g.left [] < g.length + 1 := by
    have : g.left [] ≤ g.names.length := List.countP_le_length
    rw [names, List.length_map] at this
    omega
  exact (mem_rounds distinct ranked known (emitting_first distinct) enough hn).resolve_left
    List.not_mem_nil

end Waiting

/-! ## Sorting records -/

namespace Record

theorem distinctByName_of_nodup {records : List Record} (h : (records.map name).Nodup) :
    distinctByName records = records := by
  have key : ((([] : List Record) ++ records).map name).Nodup := h
  exact foldl_addByKey_of_nodup records [] key

/-- A record is found by its name. -/
theorem find?_name_eq_some_iff {records : List Record} (distinct : (records.map name).Nodup)
    {n : String} {r : Record} :
    records.find? (·.name == n) = some r ↔ r ∈ records ∧ r.name = n := by
  constructor
  · intro h
    exact ⟨List.mem_of_find?_eq_some h, by simpa using List.find?_some h⟩
  · rintro ⟨hr, rfl⟩
    cases h : records.find? (·.name == r.name) with
    | none => exact absurd (List.find?_eq_none.mp h r hr) (by simp)
    | some y =>
      have hy : y.name = r.name := by simpa using List.find?_some h
      rw [List.inj_on_of_nodup_map distinct (List.mem_of_find?_eq_some h) hr hy]

/-- **Records that depend on each other only, and are ranked, can be sorted**: none is lost and
none added. -/
theorem exists_sort {records : List Record} (distinct : (records.map name).Nodup)
    (known : ∀ r ∈ records, ∀ d ∈ r.dependencies, d ∈ records.map name) (rank : String → Nat)
    (below : ∀ r ∈ records, ∀ d ∈ r.dependencies, rank d < rank r.name) :
    ∃ sorted, sort records = .ok sorted ∧ ∀ r, r ∈ sorted ↔ r ∈ records := by
  unfold sort
  rw [distinctByName_of_nodup distinct]
  have complete : records.find? (fun r => !(missingFrom records r).isEmpty) = none := by
    refine List.find?_eq_none.mpr fun r hr => ?_
    suffices missingFrom records r = [] by simp [this]
    refine List.filter_eq_nil_iff.mpr fun d hd => ?_
    simpa using List.mem_map.mp (known r hr d hd)
  have waitingNames : Waiting.names (records.map fun r => (r.name, r.dependencies)) =
      records.map name := by
    simp [Waiting.names]
  have ranked : Waiting.Ranked (records.map fun r => (r.name, r.dependencies)) := by
    refine ⟨rank, fun n deps hg d hd => ?_⟩
    obtain ⟨r, hr, e⟩ := List.mem_map.mp hg
    cases e
    exact below r hr d hd
  simp only [complete, Waiting.findCycle_eq_none ranked]
  refine ⟨_, rfl, fun r => ?_⟩
  rw [List.mem_filterMap]
  constructor
  · rintro ⟨n, -, hr⟩
    exact List.mem_of_find?_eq_some hr
  · intro hr
    refine ⟨r.name, Waiting.mem_order (waitingNames ▸ distinct) ranked ?_ ?_, ?_⟩
    · intro n deps hg d hd
      obtain ⟨r, hr, e⟩ := List.mem_map.mp hg
      cases e
      exact waitingNames ▸ known r hr d hd
    · exact waitingNames ▸ List.mem_map.mpr ⟨r, hr, rfl⟩
    · exact (find?_name_eq_some_iff distinct).mpr ⟨hr, rfl⟩

end Record

end QueryShape
