import Mathlib.Data.List.Nodup
import QueryShape.Proofs.Search
import QueryShape.Proofs.Validation.Passing

/-!
# Fragments that do not spread themselves

The rule on cycles searches the fragments depth first. If it has no complaint then from every
fragment every way of spreads ends, and so a fragment is never met again inside itself.

* `acc_of_cyclesFrom`, `acc_of_cyclesThrough`: what the search finds from a fragment and from the
  spreads of one.
* `acc_of_passes`: every way of spreads ends in a document that all rules pass.
* `noFragmentInItself_of_passes`: so no fragment of such a document is spread inside itself.
-/

namespace QueryShape.Validation

open Document Relation Search

/-- The second fragment is spread in the first. -/
def SpreadIn (c : Context) (inner outer : String) : Prop :=
  ∃ f, c.fragment? outer = some f ∧ inner ∈ spreads f.selections

/-- The names of the fragments of the document. -/
def Context.fragmentNames (c : Context) : List String := (fragments c.document).map (·.name)

variable {c : Context}

theorem name_of_fragment? {name : String} {f : Fragment} (h : c.fragment? name = some f) :
    f ∈ fragments c.document ∧ f.name = name :=
  ⟨List.mem_reverse.mp (List.mem_of_find?_eq_some h), by simpa using List.find?_some h⟩

theorem acc_of_unknown {name : String} (h : c.fragment? name = none) : Acc (SpreadIn c) name :=
  ⟨_, fun _ ⟨_, known, _⟩ => absurd (h.symm.trans known) nofun⟩

/-- A name is not among the fragments under way exactly if the search finds no start for it. -/
theorem lookup_eq_none_iff {starts : List (String × Nat)} {name : String} :
    starts.lookup name = none ↔ name ∉ starts.map (·.1) := by
  rw [List.lookup_eq_none_iff, List.mem_map]
  constructor
  · rintro h ⟨pair, mem, rfl⟩
    simpa using h pair mem
  · intro h pair mem
    rw [bne_iff_ne]
    rintro rfl
    exact h ⟨pair, mem, rfl⟩

mutual

/-- **The search from a fragment** that has no complaint: every way from it ends. -/
theorem acc_of_cyclesFrom (limit : Nat) {path : List String} {starts : List (String × Nat)}
    {visited : Visited} (h : Exploring (SpreadIn c) c.fragmentNames (starts.map (·.1)) visited)
    {f : Fragment} (known : c.fragment? f.name = some f) (new : f.name ∉ starts.map (·.1))
    (enough : c.fragmentNames.length < starts.length + limit)
    (none : (cyclesFrom c limit path starts visited f).1 = []) :
    Acc (SpreadIn c) f.name ∧ Exploring (SpreadIn c) c.fragmentNames (starts.map (·.1))
      (cyclesFrom c limit path starts visited f).2 := by
  have mem : f.name ∈ c.fragmentNames := List.mem_map_of_mem (name_of_fragment? known).1
  cases limit with
  | zero =>
    have := h.length_le
    rw [List.length_map] at this
    omega
  | succ limit =>
    rw [cyclesFrom] at none ⊢
    by_cases seen : f.name ∈ visited
    · rw [if_pos (List.contains_iff_mem.mpr seen)]
      exact ⟨h.left _ seen new, h⟩
    · rw [if_neg (by simpa using seen)] at none ⊢
      have further : Exploring (SpreadIn c) c.fragmentNames
          (((f.name, path.length) :: starts).map (·.1)) (f.name :: visited) := h.push seen mem
      obtain ⟨ends, explored⟩ := acc_of_cyclesThrough limit further (spreads f.selections)
        (by rw [List.length_cons]; omega) none
      have here : Acc (SpreadIn c) f.name :=
        ⟨_, fun inner ⟨f', known', isSpread⟩ => ends inner (by
          cases known.symm.trans known'
          exact isSpread)⟩
      exact ⟨here, explored.pop here⟩
termination_by (limit, 0)

/-- The search through spreads that has no complaint: every way from them ends. -/
theorem acc_of_cyclesThrough (limit : Nat) {path : List String} {starts : List (String × Nat)}
    {visited : Visited} (h : Exploring (SpreadIn c) c.fragmentNames (starts.map (·.1)) visited)
    (names : List String) (enough : c.fragmentNames.length < starts.length + limit)
    (none : (cyclesThrough c limit path starts visited names).1 = []) :
    (∀ name ∈ names, Acc (SpreadIn c) name) ∧
      Exploring (SpreadIn c) c.fragmentNames (starts.map (·.1))
        (cyclesThrough c limit path starts visited names).2 := by
  cases names with
  | nil =>
    rw [cyclesThrough]
    exact ⟨fun _ hn => absurd hn List.not_mem_nil, h⟩
  | cons name rest =>
    rw [cyclesThrough] at none ⊢
    cases start : starts.lookup name with
    | some position =>
      simp only [start, List.cons_append] at none
      cases none
    | none =>
      rw [start] at none
      cases known : c.fragment? name with
      | none =>
        simp only [known, List.nil_append] at none ⊢
        obtain ⟨others, explored⟩ := acc_of_cyclesThrough limit h rest enough none
        exact ⟨List.forall_mem_cons.mpr ⟨acc_of_unknown known, others⟩, explored⟩
      | some f =>
        obtain ⟨-, rfl⟩ := name_of_fragment? known
        simp only [known, List.append_eq_nil_iff] at none ⊢
        obtain ⟨here, between⟩ := acc_of_cyclesFrom limit h known (lookup_eq_none_iff.mp start)
          enough none.1
        obtain ⟨others, explored⟩ := acc_of_cyclesThrough limit between rest enough none.2
        exact ⟨List.forall_mem_cons.mpr ⟨here, others⟩, explored⟩
termination_by (limit, names.length + 1)

end

/-! ## All fragments -/

/-- The search from a fragment, after those from others. -/
def searchNext (c : Context) (state : List (List String) × Visited) (f : Fragment) :
    List (List String) × Visited :=
  let found := cyclesFrom c ((fragments c.document).length + 1) [] [] state.2 f
  (state.1 ++ [found.1], found.2)

theorem cyclesOf_eq (c : Context) :
    cyclesOf c = ((fragments c.document).foldl (searchNext c) ([], [])).1 := rfl

/-- What has been found stays, and every fragment adds what is found from it. -/
theorem exists_found (c : Context) (list : List Fragment) (state : List (List String) × Visited) :
    ∃ more, (list.foldl (searchNext c) state).1 = state.1 ++ more ∧ more.length = list.length := by
  induction list generalizing state with
  | nil => exact ⟨[], (List.append_nil _).symm, rfl⟩
  | cons f rest ih =>
    obtain ⟨more, eq, same⟩ := ih (searchNext c state f)
    rw [searchNext, List.append_assoc] at eq
    exact ⟨_, eq, congrArg Nat.succ same⟩

theorem length_cyclesOf (c : Context) : (cyclesOf c).length = (fragments c.document).length := by
  obtain ⟨more, eq, same⟩ := exists_found c (fragments c.document) ([], [])
  rw [cyclesOf_eq, eq, List.nil_append, same]

theorem acc_of_foldl {list : List Fragment} {found : List (List String)} {visited : Visited}
    (h : Exploring (SpreadIn c) c.fragmentNames [] visited)
    (known : ∀ f ∈ list, c.fragment? f.name = some f)
    (none : ∀ complaints ∈ (list.foldl (searchNext c) (found, visited)).1, complaints = []) :
    ∀ f ∈ list, Acc (SpreadIn c) f.name := by
  induction list generalizing found visited with
  | nil => exact fun _ hf => absurd hf List.not_mem_nil
  | cons f rest ih =>
    obtain ⟨isKnown, others⟩ := List.forall_mem_cons.mp known
    rw [List.foldl_cons] at none
    obtain ⟨more, eq, -⟩ := exists_found c rest (searchNext c (found, visited) f)
    have here := none _ (eq ▸ List.mem_append_left _ (List.mem_append_right _ List.mem_cons_self))
    have start : Exploring (SpreadIn c) c.fragmentNames (([] : List (String × Nat)).map (·.1))
        visited := h
    obtain ⟨ends, explored⟩ := acc_of_cyclesFrom ((fragments c.document).length + 1) start isKnown
      List.not_mem_nil (by simp [Context.fragmentNames]) here
    exact List.forall_mem_cons.mpr ⟨ends, ih explored others none⟩

/-! ## Documents -/

/-- Every fragment stands in the document after some others. -/
theorem exists_before {document : Document} {k : Nat} (h : k < (fragments document).length) :
    ∃ before f after, document = before ++ .fragment f :: after ∧ (fragments before).length = k ∧
      (fragments document)[k] = f := by
  induction document generalizing k with
  | nil => exact absurd h (Nat.not_lt_zero k)
  | cons d rest ih =>
    cases isFragment : d.fragment? with
    | none =>
      have eq : fragments (d :: rest) = fragments rest := List.filterMap_cons_none isFragment
      obtain ⟨before, f, after, same, count, isIt⟩ := ih (eq ▸ h)
      refine ⟨d :: before, f, after, by rw [same, List.cons_append], ?_, by simpa [eq] using isIt⟩
      rw [← count]
      exact congrArg List.length (List.filterMap_cons_none isFragment)
    | some f =>
      have eq : fragments (d :: rest) = f :: fragments rest := List.filterMap_cons_some isFragment
      have is : d = .fragment f := by
        cases d <;> cases isFragment
        rfl
      cases k with
      | zero => exact ⟨[], f, rest, by rw [is, List.nil_append], rfl, by simp [eq]⟩
      | succ k =>
        obtain ⟨before, f', after, same, count, isIt⟩ := ih (by simpa [eq] using h)
        refine ⟨d :: before, f', after, by rw [same, List.cons_append], ?_,
          by simpa [eq] using isIt⟩
        rw [← count]
        exact congrArg List.length (List.filterMap_cons_some isFragment)

variable {s : Schema} {document : Document}

/-- The rules pass a fragment where it is defined. -/
theorem passes_fragment (passes : ∀ v ∈ visits s document, Passes ⟨s, document⟩ v)
    {before after : Document} {f : Fragment} (eq : document = before ++ .fragment f :: after) :
    ∀ v ∈ fragmentVisits s before.length f, Passes ⟨s, document⟩ v :=
  fun v hv => passes v (definitionVisits_subset eq hv)

/-- No two fragments of a document that passes have one name. -/
theorem nodup_fragmentNames (passes : ∀ v ∈ visits s document, Passes ⟨s, document⟩ v) :
    ((fragments document).map (·.name)).Nodup := by
  rw [List.Nodup, List.pairwise_map, List.pairwise_iff_getElem]
  intro i j hi hj lt same
  obtain ⟨before, f, after, eq, count, isIt⟩ := exists_before hj
  have all : fragments document = fragments before ++ f :: fragments after := by
    rw [eq]
    exact List.filterMap_append
  have earlier : (fragments document)[i] ∈ fragments before := by
    simp only [all, List.getElem_append_left (count ▸ lt)]
    exact List.getElem_mem _
  have here := passes_fragment passes eq ⟨_, .fragment before.length f⟩ List.mem_cons_self
    uniqueFragmentNames (by simp [rulesBeforeOverlap])
  unfold uniqueFragmentNames at here
  have front : document.take before.length = before := by rw [eq, List.take_left]
  have twice : (fragments before).any (·.name == f.name) = true :=
    List.any_eq_true.mpr ⟨_, earlier, by rw [same, isIt]; exact beq_self_eq_true _⟩
  simp only [front, twice, if_true] at here
  cases here

theorem fragment?_of_mem (passes : ∀ v ∈ visits s document, Passes ⟨s, document⟩ v) {f : Fragment}
    (mem : f ∈ fragments document) : (⟨s, document⟩ : Context).fragment? f.name = some f := by
  cases found : (⟨s, document⟩ : Context).fragment? f.name with
  | none =>
    have other := List.find?_eq_none.mp found f (List.mem_reverse.mpr mem)
    simp at other
  | some f' =>
    obtain ⟨mem', same⟩ := name_of_fragment? found
    rw [List.inj_on_of_nodup_map (nodup_fragmentNames passes) mem' mem same]

/-- **Every way of spreads ends** in a document that all rules pass. -/
theorem acc_of_passes (passes : ∀ v ∈ visits s document, Passes ⟨s, document⟩ v) (name : String) :
    Acc (SpreadIn ⟨s, document⟩) name := by
  cases known : (⟨s, document⟩ : Context).fragment? name with
  | none => exact acc_of_unknown known
  | some f =>
    obtain ⟨mem, rfl⟩ := name_of_fragment? known
    suffices none : ∀ complaints ∈ cyclesOf ⟨s, document⟩, complaints = [] from
      acc_of_foldl (exploring_start _ _) (fun f hf => fragment?_of_mem passes hf) none f mem
    intro complaints hc
    obtain ⟨k, hk, rfl⟩ := List.mem_iff_getElem.mp hc
    have bound : k < (fragments document).length := length_cyclesOf ⟨s, document⟩ ▸ hk
    obtain ⟨before, f', after, eq, count, -⟩ := exists_before bound
    have here := passes_fragment passes eq ⟨_, .fragment before.length f'⟩ List.mem_cons_self
      noFragmentCycles (by simp [rulesBeforeOverlap])
    unfold noFragmentCycles at here
    have front : document.take before.length = before := by rw [eq, List.take_left]
    simp only [front, count] at here
    rw [List.getElem?_eq_getElem hk] at here
    exact here

/-- No fragment of the document is spread inside itself, through others or not. -/
def NoFragmentInItself (c : Context) : Prop := ∀ name, ¬ TransGen (SpreadIn c) name name

theorem noFragmentInItself_of_passes
    (passes : ∀ v ∈ visits s document, Passes ⟨s, document⟩ v) :
    NoFragmentInItself ⟨s, document⟩ :=
  fun name => not_transGen_of_acc (acc_of_passes passes name)

end QueryShape.Validation
