import QueryShape.Proofs.Document.Typename
import QueryShape.Proofs.Generation.Execution
import QueryShape.Proofs.Generation.Generate
import QueryShape.Proofs.Generation.Narrow

/-!
# What has to come back

The text that an operation sends asks for type names in addition, so an executor collects from the
selections that are sent. A field that no directive may leave out is executed wherever it is
selected for the type of the object.

* `Request.execution`: how the text that is sent is executed.
* `executes_sent`: what selections execute, they execute as they are sent.
* `Request.collects`: a field that has to come back is collected.
-/

namespace QueryShape.Generation

open Document

/-- How the text of what a document asks for is executed, given which conditions hold. -/
def Request.execution (q : Request) (s : Schema) (distinct : (s.types.map (·.name)).Nodup)
    (truth : String → Bool) : Execution where
  schema := s
  distinct := distinct
  fragments := q.fragments.map sentFragment
  truth := truth

/-! ## What is collected -/

theorem leavesIn_of_always {directives : List Directive} (h : mayLeaveOut directives = false)
    (truth : String → Bool) : leavesIn truth directives = true := by
  unfold mayLeaveOut at h
  unfold leavesIn
  rw [List.any_eq_false] at h
  rw [List.all_eq_true]
  intro d hd
  have other := h d hd
  simp only [conditionalDirectives, List.contains_cons, List.contains_nil, Bool.or_false,
    Bool.or_eq_true, beq_iff_eq, not_or] at other
  rw [if_neg other.2, if_neg other.1]

variable {s : Schema} {fragments : List Fragment} {leaves : List Directive → Bool}
  {object : TypeDefinition}

/-- What selections execute, they execute as they are sent. -/
theorem executes_sent {selections inner : List Selection} {f : Field}
    (h : Executes s fragments leaves object selections f inner) :
    Executes s (fragments.map sentFragment) leaves object (addTypenames selections) f
      (sentUnder inner) := by
  induction h with
  | field mem left =>
    have sent := mem_addTypenames mem
    rw [addTypename_field] at sent
    exact .field sent left
  | inline mem left meets _ ih =>
    have sent := mem_addTypenames mem
    unfold Selection.addTypename at sent
    exact .inline sent left meets ih
  | @spread _ _ _ name _ fragment mem left named meets _ ih =>
    have sent := mem_addTypenames mem
    unfold Selection.addTypename at sent
    have named' : (fragments.map sentFragment).reverse.find? (·.name == name) =
        some (sentFragment fragment) := by
      rw [find?_sentFragment]
      exact congrArg (Option.map sentFragment) named
    exact .spread sent left named' meets ih

/-- The response key of a field that has to come back is collected from selections that hold those
of its selection set. -/
theorem Request.collects {q : Request} {p place : Place} {selections all inner : List Selection}
    {f : Field} (distinct : (s.types.map (·.name)).Nodup) (truth : String → Bool)
    (isType : object ∈ s.types) (sub : addTypenames selections ⊆ all)
    (selected : Selects s q.fragments p selections place f inner)
    (isFor : object.name ∈ place.typenames) (always : place.isConditional = false)
    (alwaysHere : mayLeaveOut f.directives = false) :
    ∃ group, (f.responseKey, group) ∈ (q.execution s distinct truth).groups object all ∧
      (f, sentUnder inner) ∈ group :=
  have executes := executes_of_selects distinct isType selected isFor fun directives may =>
    leavesIn_of_always (by simpa [always, alwaysHere] using may) truth
  mem_collected_iff.mpr ⟨rfl, (executes_sent executes).of_subset sub⟩

end QueryShape.Generation
