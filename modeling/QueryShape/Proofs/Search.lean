import Mathlib.Data.List.Count
import Mathlib.Data.List.Perm.Subperm
import Mathlib.Logic.Relation

/-!
# Depth-first search

A search goes on from a name to the names after it, along one way at a time, and marks what it has
seen. `Exploring` is what holds on the way, whatever is searched: from all that has been left every
way ends. So a search that meets no name on its own way has found that there is no cycle.

* `Exploring.push`, `Exploring.pop`: a step forward and a step back.
* `not_transGen_of_acc`: where every way ends, no way comes back.
* `depth_lt`: names without a cycle are ranked by how many names are reached from them.
-/

namespace QueryShape.Search

open Relation

variable {α : Type} {after : α → α → Prop} {names : List α}

/-- What holds on the way: the names on it are among those that have been seen, each once, and
every way ends from those that have been left. -/
structure Exploring (after : α → α → Prop) (names way seen : List α) : Prop where
  onWay : way ⊆ seen
  once : way.Nodup
  known : way ⊆ names
  left : ∀ n ∈ seen, n ∉ way → Acc after n

theorem exploring_start (after : α → α → Prop) (names : List α) : Exploring after names [] [] :=
  ⟨List.nil_subset _, List.nodup_nil, List.nil_subset _, fun _ hn => absurd hn List.not_mem_nil⟩

namespace Exploring

variable {way seen : List α} {name : α}

/-- A name that has not been seen can be gone on to. -/
theorem push (h : Exploring after names way seen) (new : name ∉ seen) (hname : name ∈ names) :
    Exploring after names (name :: way) (name :: seen) where
  onWay := List.cons_subset_cons name h.onWay
  once := List.nodup_cons.mpr ⟨fun hw => new (h.onWay hw), h.once⟩
  known := List.cons_subset.mpr ⟨hname, h.known⟩
  left := by
    intro n hn off
    rw [List.mem_cons, not_or] at off
    exact h.left n ((List.mem_cons.mp hn).resolve_left off.1) off.2

/-- A name is left when every way ends from all that is after it. -/
theorem pop (h : Exploring after names (name :: way) seen) (ends : Acc after name) :
    Exploring after names way seen where
  onWay := (List.cons_subset.mp h.onWay).2
  once := h.once.of_cons
  known := (List.cons_subset.mp h.known).2
  left := by
    intro n hn off
    by_cases same : n = name
    · exact same ▸ ends
    · exact h.left n hn (by simp [same, off])

/-- A way is never longer than there are names. -/
theorem length_le (h : Exploring after names way seen) : way.length ≤ names.length :=
  (h.once.subperm h.known).length_le

theorem length_lt (h : Exploring after names way seen) (new : name ∉ seen) (hname : name ∈ names) :
    way.length < names.length := (h.push new hname).length_le

end Exploring

/-! ## Cycles -/

/-- Where every way ends, no way comes back. -/
theorem not_transGen_of_acc {name : α} (h : Acc after name) : ¬ TransGen after name name := by
  induction h.transGen with
  | intro x _ ih => exact fun loop => ih x loop (acc_transGen_iff.mp (h.transGen.inv loop)) loop

open Classical in
/-- The number of names that are reached from a name. -/
noncomputable def depth (reaches : α → α → Prop) (names : List α) (name : α) : Nat :=
  names.countP fun n => TransGen reaches name n

/-- Without a cycle, a name reaches more names than those after it. -/
theorem depth_lt {reaches : α → α → Prop} (acyclic : ∀ name, ¬ TransGen reaches name name)
    {a b : α} (h : reaches a b) (hb : b ∈ names) :
    depth reaches names b < depth reaches names a := by
  classical
  unfold depth
  have fewer : names.countP (fun n => decide (TransGen reaches b n)) =
      (names.filter fun n => decide (TransGen reaches a n)).countP
        fun n => decide (TransGen reaches b n) := by
    rw [List.countP_filter]
    refine List.countP_congr fun n _ => ?_
    simp only [decide_eq_true_eq, Bool.and_eq_true]
    exact ⟨fun hn => ⟨hn, hn.head h⟩, And.left⟩
  rw [fewer, List.countP_eq_length_filter (l := names), List.countP_lt_length_iff]
  refine ⟨b, List.mem_filter.mpr ⟨hb, ?_⟩, ?_⟩
  · exact decide_eq_true (.single h)
  · exact decide_eq_false (acyclic b)

end QueryShape.Search
