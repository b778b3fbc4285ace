import Mathlib.Data.List.TakeWhile
import QueryShape.Validation.Check

/-!
# What a valid document passes

A document without complaints is checked against a sound schema, and every rule is silent at every
place.

* `passes_of_validate`: which is what there being no complaints comes to.
* `definitionVisits_subset`: the places of a definition are places of the document.
* `passes_selection`: the places of a selection are among those of its selection set.
-/

namespace QueryShape.Validation

open Document

/-- No rule has a complaint about the place. -/
def Passes (c : Context) (v : Visit) : Prop := ∀ rule ∈ rulesBeforeOverlap, rule c v = []

/-! ## No complaints -/

theorem overlapComplaints_cons (c : Context) (limit : Nat) (v : Visit) (rest : List Visit)
    (compared : Compared) : ∃ here later,
      ((overlapComplaints c limit (v :: rest)).run compared).1 =
        here :: ((overlapComplaints c limit rest).run later).1 := by
  obtain ⟨scope, site⟩ := v
  cases site <;> exact ⟨_, _, rfl⟩

theorem length_overlapComplaints (c : Context) (limit : Nat) (places : List Visit)
    (compared : Compared) :
    ((overlapComplaints c limit places).run compared).1.length = places.length := by
  induction places generalizing compared with
  | nil => rfl
  | cons v rest ih =>
    obtain ⟨here, later, eq⟩ := overlapComplaints_cons c limit v rest compared
    rw [eq, List.length_cons, ih, List.length_cons]

theorem passes_of_complaintsAt {c : Context} {places : List Visit} (h : complaintsAt c places = [])
    {v : Visit} (hv : v ∈ places) : Passes c v := by
  obtain ⟨i, hi, rfl⟩ := List.mem_iff_getElem.mp hv
  unfold complaintsAt at h
  rw [List.flatMap_eq_nil_iff] at h
  have same := length_overlapComplaints c (comparisonLimit places) places {}
  have hj : i < ((overlapComplaints c (comparisonLimit places) places).run {}).1.length := by omega
  have none := h (places[i], _) (List.mem_iff_getElem.mpr ⟨i, by simp; omega, List.getElem_zip⟩)
  simp only [List.append_eq_nil_iff, List.flatMap_eq_nil_iff] at none
  exact none.1.1

theorem eq_nil_of_limitComplaints {list : List String} (h : limitComplaints list = []) :
    list = [] := by
  unfold limitComplaints at h
  split at h
  · exact h
  · exact absurd h (by simp)

/-- A document without complaints is checked against a sound schema, can be read everywhere, and
has no complaints at any place. -/
theorem silent_of_validate {s : Schema} {document : Document}
    (h : s.validate document = .complaints []) :
    s.isSound = true ∧ (∀ v ∈ visits s document, unreadAt? ⟨s, document⟩ v = none) ∧
      complaintsAt ⟨s, document⟩ (visits s document) = [] := by
  unfold Schema.validate at h
  by_cases sound : s.isSound = true
  · refine ⟨sound, ?_⟩
    simp only [sound, Bool.not_true, Bool.false_eq_true, if_false] at h
    cases unread : (visits s document).findSome? (unreadAt? ⟨s, document⟩) with
    | some words =>
      rw [unread] at h
      dsimp only at h
      split at h
      · next many =>
        have := eq_nil_of_limitComplaints (Outcome.complaints.inj h)
        rw [this] at many
        cases many
      · cases h
    | none =>
      rw [unread] at h
      have all := List.findSome?_eq_none_iff.mp unread
      rw [List.takeWhile_eq_self_iff.mpr fun v hv => Option.isNone_iff_eq_none.mpr (all v hv)] at h
      exact ⟨all, eq_nil_of_limitComplaints (Outcome.complaints.inj h)⟩
  · rw [if_pos (by simpa using sound)] at h
    cases h

/-- **Every rule is silent everywhere** in a document without complaints, and the schema is
sound. -/
theorem passes_of_validate {s : Schema} {document : Document}
    (h : s.validate document = .complaints []) :
    s.isSound = true ∧ ∀ v ∈ visits s document, Passes ⟨s, document⟩ v :=
  have ⟨sound, _, silent⟩ := silent_of_validate h
  ⟨sound, fun _ hv => passes_of_complaintsAt silent hv⟩

/-- A sound schema validates a document that every rule can be asked about and none complains of. -/
theorem validate_of_silent {s : Schema} {document : Document} (sound : s.isSound = true)
    (read : (visits s document).all (fun v => (unreadAt? ⟨s, document⟩ v).isNone) = true)
    (silent : complaintsAt ⟨s, document⟩ (visits s document) = []) :
    s.validate document = .complaints [] := by
  have all := List.all_eq_true.mp read
  have unread : (visits s document).findSome? (unreadAt? ⟨s, document⟩) = none :=
    List.findSome?_eq_none_iff.mpr fun v hv => Option.isNone_iff_eq_none.mp (all v hv)
  unfold Schema.validate
  dsimp only
  rw [sound, List.takeWhile_eq_self_iff.mpr all, unread, silent]
  rfl

/-! ## Places of definitions -/

theorem definitionListVisits_append (s : Schema) (before first rest : Document) (index : Nat) :
    definitionListVisits s before index (first ++ rest) =
      definitionListVisits s before index first ++
        definitionListVisits s (before ++ first) (index + first.length) rest := by
  induction first generalizing before index with
  | nil => simp [definitionListVisits]
  | cons d first ih =>
    rw [List.cons_append, definitionListVisits, definitionListVisits, ih, List.append_assoc,
      List.append_assoc, List.length_cons, List.singleton_append]
    rw [Nat.add_assoc, Nat.add_comm 1]

/-- The places of a definition are places of the document. -/
theorem definitionVisits_subset {s : Schema} {document before after : Document} {d : Definition}
    (eq : document = before ++ d :: after) :
    definitionVisits s before before.length d ⊆ visits s document := by
  intro v hv
  unfold visits
  rw [eq, definitionListVisits_append, definitionListVisits, List.nil_append, Nat.zero_add]
  simp only [List.mem_cons, List.mem_append]
  exact Or.inr (Or.inl (Or.inr (Or.inl hv)))

/-! ## Places of selections -/

/-- The places of a selection are among those of its selection set. -/
theorem selectionVisits_subset (s : Schema) (scope : Scope) (path : List Nat)
    {selections : List Selection} {a : Selection} (mem : a ∈ selections) : ∃ path',
      selectionVisits s (scope.selecting s) path' a ⊆
        selectionSetVisits s scope path selections := by
  have inList : ∀ rest position, a ∈ rest → ∃ path', selectionVisits s (scope.selecting s) path' a ⊆
      selectionListVisits s (scope.selecting s) path position rest := by
    intro rest
    induction rest with
    | nil => exact fun _ h => absurd h List.not_mem_nil
    | cons first rest ih =>
      intro position h
      rw [selectionListVisits]
      rcases List.mem_cons.mp h with rfl | h
      · exact ⟨_, List.subset_append_left _ _⟩
      · obtain ⟨path', sub⟩ := ih (position + 1) h
        exact ⟨path', List.Subset.trans sub (List.subset_append_right _ _)⟩
  cases selections with
  | nil => exact absurd mem List.not_mem_nil
  | cons first rest =>
    rw [selectionSetVisits]
    rcases List.mem_cons.mp mem with rfl | h
    · exact ⟨_, List.subset_cons_of_subset _ (List.subset_append_left _ _)⟩
    · obtain ⟨path', sub⟩ := inList rest 1 h
      exact ⟨path', List.subset_cons_of_subset _
        (List.Subset.trans sub (List.subset_append_right _ _))⟩

end QueryShape.Validation
