import Mathlib
import QueryShape.Proofs.Registry.Sorting

/-!
# The order inside a round

The emission order goes round by round: a record is in the round after the last round of its
dependencies. Inside a round it is the dependencies that decide: records stand in the order in which
the last of their dependencies have been emitted, and only those with the same last dependency stand
in the order of their registration.

* `Waiting.pairwise_order`: the order of names, by the places of what they wait for.
* `Waiting.before_iff`: when one name is emitted before another.
* `Waiting.before_of_round_lt`: the order goes round by round.
* `Record.sort_order`: the same of records, and when all rounds keep the order of registration.
* `Record.ready_out_of_order`: records of one round in another order.
-/

namespace QueryShape

open Relation

/-! ## Peaks -/

/-- One more than the greatest number that some names have, or zero if there are no names. -/
def peak (number : String → Nat) (names : List String) : Nat :=
  (names.map (number · + 1)).foldr max 0

theorem lt_peak_iff {number : String → Nat} {names : List String} {k : Nat} :
    k < peak number names ↔ ∃ n ∈ names, k ≤ number n := by
  induction names with
  | nil => simp [peak]
  | cons first rest ih =>
    change k < max (number first + 1) (peak number rest) ↔ _
    rw [lt_max_iff, ih, Nat.lt_succ_iff]
    simp

theorem peak_le_iff {number : String → Nat} {names : List String} {k : Nat} :
    peak number names ≤ k ↔ ∀ n ∈ names, number n < k := by
  rw [← not_lt, lt_peak_iff]
  simp

theorem peak_congr {number other : String → Nat} {names : List String}
    (h : ∀ n ∈ names, number n = other n) : peak number names = peak other names := by
  unfold peak
  rw [List.map_congr_left fun n hn => by rw [h n hn]]

/-! ## Places -/

theorem pairwise_idxOf {names : List String} (once : names.Nodup) :
    names.Pairwise fun a b => names.idxOf a < names.idxOf b := by
  rw [List.pairwise_iff_getElem]
  intro i j hi hj lt
  rwa [once.idxOf_getElem i hi, once.idxOf_getElem j hj]

/-- Where a list goes by a relation that no two of its items have both ways, that tells which item
is in front of which. -/
theorem idxOf_lt_iff {names : List String} {R : String → String → Prop} (sorted : names.Pairwise R)
    (asymm : ∀ a b, R a b → ¬ R b a) {a b : String}
    (ha : a ∈ names) (hb : b ∈ names) : names.idxOf a < names.idxOf b ↔ R a b := by
  have inOrder {x y : String} (hy : y ∈ names) (lt : names.idxOf x < names.idxOf y) : R x y := by
    have hj := List.idxOf_lt_length_iff.mpr hy
    have := List.pairwise_iff_getElem.mp sorted _ _ (lt.trans hj) hj lt
    rwa [List.getElem_idxOf, List.getElem_idxOf] at this
  refine ⟨inOrder hb, fun h => ?_⟩
  rcases lt_trichotomy (names.idxOf a) (names.idxOf b) with lt | eq | gt
  · exact lt
  · obtain rfl : a = b := (List.idxOf_inj ha).mp eq
    exact absurd h (asymm a a h)
  · exact absurd (inOrder ha gt) (asymm a b h)

namespace Waiting

variable {g : Waiting} {order emitted ready rest : List String}

/-- The number of places up to the last name that a name waits for. -/
def readyAt (g : Waiting) (order : List String) (n : String) : Nat :=
  peak order.idxOf (g.dependencies n).toList

/-- What decides which of two names is emitted first. -/
def Precedes (g : Waiting) (order : List String) (a b : String) : Prop :=
  g.readyAt order a < g.readyAt order b ∨
    g.readyAt order a = g.readyAt order b ∧ g.names.idxOf a < g.names.idxOf b

/-! ## Names that become ready together -/

theorem pairwise_names {some : List (String × NameSet)} (distinct : g.names.Nodup)
    (sub : some.Sublist g) :
    (some.map (·.1)).Pairwise fun a b => g.names.idxOf a < g.names.idxOf b :=
  (pairwise_idxOf distinct).sublist (sub.map _)

theorem idxOf_lt_of_emitted {n : String} (eq : order = emitted.reverse ++ rest) (h : n ∈ emitted) :
    order.idxOf n < emitted.length := by
  have mem : n ∈ emitted.reverse := List.mem_reverse.mpr h
  rw [eq, List.idxOf_append_of_mem mem, ← List.length_reverse]
  exact List.idxOf_lt_length_iff.mpr mem

theorem le_idxOf_of_not_emitted {n : String} (eq : order = emitted.reverse ++ rest)
    (h : n ∉ emitted) : emitted.length ≤ order.idxOf n := by
  rw [eq, List.idxOf_append_of_notMem (mt List.mem_reverse.mp h), List.length_reverse]
  exact Nat.le_add_right _ _

/-- What waits for emitted names only is ready when those have their places. -/
theorem readyAt_le {n : String} (eq : order = emitted.reverse ++ rest)
    (free : ∀ d ∈ g.dependencies n, d ∈ emitted) : g.readyAt order n ≤ emitted.length :=
  peak_le_iff.mpr fun d hd => idxOf_lt_of_emitted eq (free d hd)

/-- What waits for a name that has not been emitted is ready later. -/
theorem lt_readyAt {n d : String} (eq : order = emitted.reverse ++ rest)
    (waits : d ∈ g.dependencies n) (new : d ∉ emitted) : emitted.length < g.readyAt order n :=
  lt_peak_iff.mpr ⟨d, waits, le_idxOf_of_not_emitted eq new⟩

/-- **What a round releases stands in order**: by the names that release it, and behind one name as
registered. -/
theorem pairwise_released (distinct : g.names.Nodup) (once : ready.Nodup)
    (new : ∀ n ∈ ready, n ∉ emitted) (eq : order = emitted.reverse ++ (ready ++ rest)) :
    (released g emitted ready).Pairwise (g.Precedes order) := by
  induction ready generalizing emitted with
  | nil => exact List.Pairwise.nil
  | cons x later ih =>
    obtain ⟨hx, onceLater⟩ := List.nodup_cons.mp once
    have eqNext : order = (x :: emitted).reverse ++ (later ++ rest) := by
      rw [eq, List.reverse_cons, List.append_assoc]
      rfl
    have newLater : ∀ n ∈ later, n ∉ x :: emitted := by
      rintro n hn (_ | ⟨_, he⟩)
      · exact hx hn
      · exact new n (List.mem_cons_of_mem _ hn) he
    -- what the first name releases was waiting for it last
    have first : ∀ n ∈ (g.dependents x).filter
        (fun n => (g.dependencies n).toList.all (· ∈ x :: emitted)),
        g.readyAt order n = emitted.length + 1 := by
      intro n hn
      obtain ⟨waits, free⟩ := List.mem_filter.mp hn
      refine le_antisymm (readyAt_le eqNext fun d hd => ?_) ?_
      · exact of_decide_eq_true (List.all_eq_true.mp free d hd)
      · exact lt_readyAt eq ((mem_dependents_iff distinct).mp waits).2 (new x List.mem_cons_self)
    unfold released
    refine List.pairwise_append.mpr ⟨?_, ih onceLater newLater eqNext, fun a ha b hb => ?_⟩
    · have registered := (pairwise_names distinct (List.filter_sublist (l := g)
        (p := fun e => decide (x ∈ e.2)))).sublist (List.filter_sublist
          (p := fun n => (g.dependencies n).toList.all (· ∈ x :: emitted)))
      refine registered.imp_of_mem fun ha hb lt => Or.inr ⟨?_, lt⟩
      rw [first _ ha, first _ hb]
    · obtain ⟨-, ⟨y, hy, waits⟩, -⟩ := of_mem_released distinct hb
      refine Or.inl ?_
      rw [first a ha]
      exact lt_readyAt eqNext waits (newLater y hy)

/-! ## Rounds after each other -/

/-- **All rounds from one on stand in order** if the first of them does. -/
theorem pairwise_rounds (distinct : g.names.Nodup) {limit : Nat} (h : g.Emitting emitted ready)
    (eq : order = emitted.reverse ++ (rounds g limit emitted ready).flatten) (once : ready.Nodup)
    (sorted : ready.Pairwise (g.Precedes order)) :
    (rounds g limit emitted ready).flatten.Pairwise (g.Precedes order) := by
  induction limit, emitted, ready using rounds.induct g with
  | case1 => exact List.Pairwise.nil
  | case2 => simp [rounds]
  | case3 limit emitted ready _ ih =>
    rw [rounds, List.flatten_cons] at eq ⊢
    · have eqNext : order = (ready.reverse ++ emitted).reverse ++
          (rounds g limit (ready.reverse ++ emitted) (released g emitted ready)).flatten := by
        rw [eq, List.reverse_append, List.reverse_reverse, List.append_assoc]
      refine List.pairwise_append.mpr ⟨sorted, ih (h.next distinct) eqNext
        (nodup_released distinct once h.new) (pairwise_released distinct once h.new eq), ?_⟩
      intro a ha b hb
      obtain ⟨known, new⟩ := new_of_mem_rounds distinct (h.next distinct) hb
      obtain ⟨notReady, notEmitted⟩ : b ∉ ready ∧ b ∉ emitted := by simpa using new
      -- a name of a later round waits for one that is emitted in this round or later
      obtain ⟨d, waits, newD⟩ : ∃ d ∈ g.dependencies b, d ∉ emitted := by
        by_contra none
        push Not at none
        exact (h.all b known none).elim notEmitted notReady
      exact Or.inl (lt_of_le_of_lt (readyAt_le eq (h.free a ha)) (lt_readyAt eq waits newD))
    · assumption
    · assumption

/-- **Names stand by the places of what they wait for**, and as registered where these are equal. -/
theorem pairwise_order (distinct : g.names.Nodup) : g.order.Pairwise (g.Precedes g.order) := by
  refine pairwise_rounds distinct (emitting_first distinct) rfl
    (distinct.sublist (List.filter_sublist.map _)) ?_
  have zero : ∀ n ∈ (g.filter (·.2.toList.isEmpty)).map (·.1), g.readyAt g.order n = 0 := by
    intro n hn
    have none := (emitting_first distinct).free n hn
    exact Nat.le_zero.mp (peak_le_iff.mpr fun d hd => absurd (none d hd) List.not_mem_nil)
  refine (pairwise_names distinct List.filter_sublist).imp_of_mem fun ha hb lt => Or.inr ⟨?_, lt⟩
  rw [zero _ ha, zero _ hb]

theorem Precedes.asymm {a b : String} (h : g.Precedes order a b) : ¬ g.Precedes order b a := by
  unfold Precedes at *
  omega

/-- **One name is emitted before another** exactly if the last name that it waits for is, or that is
the same and it is registered before the other. -/
theorem before_iff (distinct : g.names.Nodup) (all : ∀ n ∈ g.names, n ∈ g.order) {a b : String}
    (ha : a ∈ g.names) (hb : b ∈ g.names) :
    g.order.idxOf a < g.order.idxOf b ↔ g.Precedes g.order a b :=
  idxOf_lt_iff (pairwise_order distinct) (fun _ _ => Precedes.asymm) (all a ha) (all b hb)

theorem idxOf_lt_of_waits (distinct : g.names.Nodup) {n d : String} (hn : n ∈ g.order)
    (hd : d ∈ g.dependencies n) : g.order.idxOf d < g.order.idxOf n := by
  obtain ⟨before, after, split, new⟩ := List.eq_append_cons_of_mem hn
  have front := mem_before distinct split hd
  rw [split, List.idxOf_append_of_mem front, List.idxOf_append_of_notMem new]
  exact (List.idxOf_lt_length_iff.mpr front).trans_le (Nat.le_add_right _ _)

/-! ## Rounds by number -/

/-- The numbers of rounds: zero for names that wait for nothing, and one more than the greatest
number of what they wait for for all others. -/
def IsRounds (g : Waiting) (round : String → Nat) : Prop :=
  ∀ n ∈ g.names, round n = peak round (g.dependencies n).toList

/-- The numbers of rounds, followed along so many names. -/
def roundWithin (g : Waiting) : (limit : Nat) → String → Nat
  | 0, _ => 0
  | limit + 1, n => peak (roundWithin g limit) (g.dependencies n).toList

section
variable (distinct : g.names.Nodup) (known : ∀ n deps, (n, deps) ∈ g → ∀ d ∈ deps, d ∈ g.names)
include distinct known

theorem mem_names_of_waits {n d : String} (hn : n ∈ g.names) (hd : d ∈ g.dependencies n) :
    d ∈ g.names := by
  obtain ⟨⟨m, deps⟩, hg, rfl⟩ := List.mem_map.mp hn
  rw [dependencies_eq distinct hg] at hd
  exact known m deps hg d hd

/-- **Rounds can be numbered** where what names wait for is ranked. -/
theorem exists_isRounds (ranked : g.Ranked) : ∃ round, g.IsRounds round := by
  obtain ⟨rank, ranks⟩ := ranked
  have below : ∀ n ∈ g.names, ∀ d ∈ g.dependencies n, rank d < rank n := by
    intro n hn d hd
    obtain ⟨⟨m, deps⟩, hg, rfl⟩ := List.mem_map.mp hn
    rw [dependencies_eq distinct hg] at hd
    exact ranks m deps hg d hd
  -- following more names than the rank says makes no difference
  have enough : ∀ k n, rank n < k → n ∈ g.names → ∀ limit, rank n < limit →
      roundWithin g limit n = roundWithin g (rank n + 1) n := by
    intro k
    induction k with
    | zero => exact fun n lt => absurd lt (Nat.not_lt_zero _)
    | succ k ih =>
      intro n lt hn limit more
      obtain ⟨limit, rfl⟩ := Nat.exists_eq_add_one_of_ne_zero (Nat.ne_zero_of_lt more)
      refine peak_congr fun d hd => ?_
      have less := below n hn d hd
      have hd' := mem_names_of_waits distinct known hn hd
      rw [ih d (by omega) hd' limit (by omega), ih d (by omega) hd' (rank n) less]
  refine ⟨fun n => roundWithin g (rank n + 1) n, fun n hn => peak_congr fun d hd => ?_⟩
  exact enough _ d (Nat.lt_succ_self _) (mem_names_of_waits distinct known hn hd) _
    (below n hn d hd)

variable (all : ∀ n ∈ g.names, n ∈ g.order) {round : String → Nat} (rounds : g.IsRounds round)
  {a b : String}
include all rounds

/-- What is emitted first is in no later round. -/
theorem round_le_of_le (ha : a ∈ g.names) (hb : b ∈ g.names)
    (h : g.order.idxOf a ≤ g.order.idxOf b) : round a ≤ round b := by
  rcases h.lt_or_eq with lt | eq
  case inr => exact ((List.idxOf_inj (all a ha)).mp eq) ▸ le_refl _
  -- by induction on the place of the first name
  generalize place : g.order.idxOf a = k at lt
  induction k using Nat.strong_induction_on generalizing a b with
  | _ k ih =>
    subst place
    have ready : g.readyAt g.order a ≤ g.readyAt g.order b := by
      rcases (before_iff distinct all ha hb).mp lt with less | ⟨same, -⟩
      · exact less.le
      · exact same.le
    rw [rounds a ha, rounds b hb]
    refine peak_le_iff.mpr fun d hd => ?_
    -- the other name waits for something that is not emitted before this dependency
    have placed : g.order.idxOf d < g.readyAt g.order a := lt_peak_iff.mpr ⟨d, hd, le_refl _⟩
    obtain ⟨e, he, notBefore⟩ := lt_peak_iff.mp (placed.trans_le ready)
    refine lt_peak_iff.mpr ⟨e, he, ?_⟩
    have hd' := mem_names_of_waits distinct known ha hd
    have he' := mem_names_of_waits distinct known hb he
    rcases notBefore.lt_or_eq with less | eq
    · exact ih _ (idxOf_lt_of_waits distinct (all a ha) hd) hd' he' less.le rfl less
    · exact ((List.idxOf_inj (all d hd')).mp eq) ▸ le_refl _

/-- **The order goes round by round.** -/
theorem before_of_round_lt (ha : a ∈ g.names) (hb : b ∈ g.names) (h : round a < round b) :
    g.order.idxOf a < g.order.idxOf b := by
  by_contra notBefore
  have := round_le_of_le distinct known all rounds hb ha (not_lt.mp notBefore)
  omega

end

end Waiting

/-! ## Records -/

namespace Record

variable {records : List Record}

/-- The place of a name among those of records. -/
def place (records : List Record) (n : String) : Nat := (records.map name).idxOf n

/-- The number of places up to the last record that a record depends on. -/
def readyAt (sorted : List Record) (r : Record) : Nat := peak (place sorted) r.dependencies.toList

/-- The numbers of rounds: zero for records without dependencies, and one more than the greatest
number of their dependencies for all others. -/
def IsRounds (records : List Record) (round : String → Nat) : Prop :=
  ∀ r ∈ records, round r.name = peak round r.dependencies.toList

theorem dependencies_waiting (distinct : (records.map name).Nodup) {r : Record} (hr : r ∈ records) :
    (waiting records).dependencies r.name = r.dependencies :=
  Waiting.dependencies_eq (names_waiting ▸ distinct) (List.mem_map.mpr ⟨r, hr, rfl⟩)

theorem isRounds_waiting_iff (distinct : (records.map name).Nodup) {round : String → Nat} :
    (waiting records).IsRounds round ↔ IsRounds records round := by
  unfold Waiting.IsRounds
  rw [names_waiting, List.forall_mem_map]
  exact forall₂_congr fun r hr => by rw [dependencies_waiting distinct hr]

/-- **The order inside a round.** Records that depend on each other only, and not in a cycle, come
back round by round. In a round a record is in front of another if the last of its dependencies is,
and if they have the same last dependency, or none, if it is registered before the other. So all
rounds keep the order of registration exactly if no record of a round is registered before another
whose last dependency is in front of its own. -/
theorem sort_order (distinct : (records.map name).Nodup)
    (known : ∀ r ∈ records, ∀ d ∈ r.dependencies, d ∈ records.map name)
    (acyclic : ∀ name, ¬ TransGen (DependsOn records) name name) :
    ∃ sorted, sort records = .ok sorted ∧
      (∀ a ∈ records, ∀ b ∈ records, place sorted a.name < place sorted b.name ↔
        readyAt sorted a < readyAt sorted b ∨
          readyAt sorted a = readyAt sorted b ∧ place records a.name < place records b.name) ∧
      (∃ round, IsRounds records round) ∧
      ∀ round, IsRounds records round →
        (∀ a ∈ records, ∀ b ∈ records, round a.name < round b.name →
          place sorted a.name < place sorted b.name) ∧
        ((∀ a ∈ records, ∀ b ∈ records, round a.name = round b.name →
            place records a.name < place records b.name →
            place sorted a.name < place sorted b.name) ↔
          ∀ a ∈ records, ∀ b ∈ records, round a.name = round b.name →
            place records a.name < place records b.name →
            readyAt sorted a ≤ readyAt sorted b) := by
  have once : (waiting records).names.Nodup := names_waiting ▸ distinct
  have waits := known_waiting known
  have ranked := Waiting.ranked_of_acyclic (waitsFor_waiting ▸ acyclic) waits
  have all : ∀ n ∈ (waiting records).names, n ∈ (waiting records).order :=
    fun n hn => Waiting.mem_order once ranked waits hn
  have mem {r : Record} (hr : r ∈ records) : r.name ∈ (waiting records).names :=
    names_waiting ▸ List.mem_map.mpr ⟨r, hr, rfl⟩
  refine ⟨_, by rw [sort_of_known distinct known, Waiting.findCycle_eq_none ranked], ?_⟩
  set sorted := (waiting records).order.filterMap fun n => records.find? (·.name == n)
  have placed : place sorted = (waiting records).order.idxOf :=
    funext fun n => by rw [place, map_name_order distinct]
  have ready {r : Record} (hr : r ∈ records) :
      readyAt sorted r = (waiting records).readyAt (waiting records).order r.name := by
    rw [readyAt, Waiting.readyAt, placed, dependencies_waiting distinct hr]
  have before : ∀ a ∈ records, ∀ b ∈ records, place sorted a.name < place sorted b.name ↔
      readyAt sorted a < readyAt sorted b ∨
        readyAt sorted a = readyAt sorted b ∧ place records a.name < place records b.name := by
    intro a ha b hb
    rw [placed, Waiting.before_iff once all (mem ha) (mem hb), ready ha, ready hb,
      Waiting.Precedes, names_waiting]
    rfl
  refine ⟨before, ?_, fun round rounds => ⟨fun a ha b hb lt => ?_, ?_⟩⟩
  · obtain ⟨round, rounds⟩ := Waiting.exists_isRounds once waits ranked
    exact ⟨round, (isRounds_waiting_iff distinct).mp rounds⟩
  · rw [placed]
    exact Waiting.before_of_round_lt once waits all ((isRounds_waiting_iff distinct).mpr rounds)
      (mem ha) (mem hb) lt
  · refine forall₄_congr fun a ha b hb => forall₂_congr fun _ registered => ?_
    rw [before a ha b hb]
    omega

/-- Records whose dependencies are of lower rank have no cycle. -/
theorem acyclic_of_rank {rank : String → Nat}
    (below : ∀ r ∈ records, ∀ d ∈ r.dependencies, rank d < rank r.name) (name : String) :
    ¬ TransGen (DependsOn records) name name := by
  suffices ∀ a b, TransGen (DependsOn records) a b → rank b < rank a from
    fun loop => Nat.lt_irrefl _ (this name name loop)
  intro a b h
  induction h with
  | single h =>
    obtain ⟨r, hr, rfl, hd⟩ := h
    exact below r hr _ hd
  | tail _ h ih =>
    obtain ⟨r, hr, rfl, hd⟩ := h
    exact (below r hr _ hd).trans ih

/-- Two records with the same dependency stand as they are registered, and so do two without any. -/
theorem sort_order_leaves :
    let records := leaves [("A", ["C"]), ("B", ["C"]), ("C", []), ("D", [])]
    ∃ sorted, sort records = .ok sorted ∧ place sorted "C" < place sorted "D" ∧
      place sorted "A" < place sorted "B" := by
  intro records
  have below : ∀ r ∈ records, ∀ d ∈ r.dependencies,
      (if d = "C" then 0 else 1) < (if r.name = "C" then 0 else 1) := by decide
  obtain ⟨sorted, eq, before, -⟩ := sort_order (by decide) (by decide) (acyclic_of_rank below)
  let leaf (name : String) (dependencies : List String) : Record :=
    .leaf { name, graphqlType := name, possibleTypes := [], dependencies := .ofList dependencies }
  refine ⟨sorted, eq, ?_, ?_⟩
  · exact (before (leaf "C" []) (by decide) (leaf "D" []) (by decide)).mpr
      (Or.inr ⟨rfl, by decide⟩)
  · exact (before (leaf "A" ["C"]) (by decide) (leaf "B" ["C"]) (by decide)).mpr
      (Or.inr ⟨rfl, by decide⟩)

/-- **Records of one round can stand in another order** than they are registered in: `A` and `B` are
both in the round after that of `C` and `D`, but what `B` depends on is emitted first. -/
theorem ready_out_of_order :
    let records := leaves [("A", ["D"]), ("B", ["C"]), ("C", []), ("D", [])]
    (records.map name).Nodup ∧ (∀ r ∈ records, ∀ d ∈ r.dependencies, d ∈ records.map name) ∧
      (∀ name, ¬ TransGen (DependsOn records) name name) ∧
      (∃ round, IsRounds records round ∧ round "A" = round "B") ∧
      place records "A" < place records "B" ∧
      ∃ sorted, sort records = .ok sorted ∧ place sorted "B" < place sorted "A" := by
  intro records
  have below : ∀ r ∈ records, ∀ d ∈ r.dependencies,
      (if d ∈ ["A", "B"] then 1 else 0) < (if r.name ∈ ["A", "B"] then 1 else 0) := by decide
  refine ⟨by decide, by decide, acyclic_of_rank below,
    ⟨fun n => if n ∈ ["A", "B"] then 1 else 0, by unfold IsRounds; decide, rfl⟩, by decide,
    leaves [("C", []), ("D", []), ("B", ["C"]), ("A", ["D"])], by cbv, by decide⟩

end Record

end QueryShape
