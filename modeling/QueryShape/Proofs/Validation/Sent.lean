import QueryShape.Proofs.Validation.Conflicts
import QueryShape.Proofs.Validation.Rules

/-!
# Documents stay valid when they are sent

A document without complaints has none when it asks for type names in addition, as long as its
fields with the response key of type names are plain type names.
-/

namespace QueryShape.Validation

open Document Schema

variable {s : Schema} {document : Document}

/-- No two fields of what is sent conflict, if no two fields of the document do. -/
theorem overlapComplaints_sent (sound : s.isSound = true) (plain : PlainDocument document)
    (none : ∀ words ∈ ((overlapComplaints ⟨s, document⟩ (comparisonLimit (visits s document))
      (visits s document)).run {}).1, words = []) :
    ∀ words ∈ ((overlapComplaints ⟨s, addTypename document⟩
      (comparisonLimit (visits s (addTypename document)))
      (visits s (addTypename document))).run {}).1, words = [] := by
  have sent := sentVisits_visits s document
  rw [sent.comparisonLimit_eq]
  have agrees := agrees_overlapComplaints (c := ⟨s, document⟩) sound plain.fragments
    (comparisonLimit (visits s document)) sent (plainPlace_visits s plain)
  exact (agrees {} {} ⟨.nil, rfl, rfl⟩).1 none

/-- **A valid document stays valid when it asks for type names.** -/
theorem validate_addTypename (made : IsMade s) (plain : PlainDocument document)
    (valid : s.validate document = .complaints []) :
    s.validate (addTypename document) = .complaints [] := by
  obtain ⟨sound, read, silent⟩ := silent_of_validate valid
  obtain ⟨rules, overlaps⟩ := complaintsAt_eq_nil_iff.mp silent
  refine validate_of_silent sound (List.all_eq_true.mpr fun v hv => ?_)
    (complaintsAt_eq_nil_iff.mpr ⟨rule_sent_eq_nil (c := ⟨s, document⟩) made rules,
      overlapComplaints_sent sound plain overlaps⟩)
  rw [Option.isNone_iff_eq_none]
  obtain ⟨scope, x'⟩ := v
  rcases (sentVisits_visits s document).exists_of_mem hv with ⟨x, isPlace, site⟩ | added
  · exact (unreadAt?_sent ⟨s, document⟩ site scope).trans (read _ isPlace)
  · obtain ⟨outer, -, rfl | rfl⟩ := added
    · rfl
    · rfl

end QueryShape.Validation
