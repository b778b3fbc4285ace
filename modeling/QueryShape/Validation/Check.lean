import QueryShape.Schema.Sound
import QueryShape.Validation.Arguments
import QueryShape.Validation.Fields
import QueryShape.Validation.Fragments
import QueryShape.Validation.Operations
import QueryShape.Validation.Overlap
import QueryShape.Validation.Subscriptions
import QueryShape.Validation.Values

/-!
# Checking a document against a schema

`validate` goes through the places of a document and lists the complaints of all rules, place by
place and at each place rule by rule.

A schema that is not sound cannot be checked against, and a subscription with a condition that
cannot be read ends the check.
-/

namespace QueryShape.Validation

open Document

/-! ## The rules -/

/-- The rules before the comparison of fields that share a response key. -/
def rulesBeforeOverlap : List Rule :=
  [executableDefinitions, uniqueOperationNames, loneAnonymousOperation, singleFieldSubscriptions,
   knownTypeNames, fragmentsOnCompositeTypes, variablesAreInputTypes, scalarLeafs,
   fieldsOnCorrectType, uniqueFragmentNames, knownFragmentNames, noUnusedFragments,
   possibleFragmentSpreads, noFragmentCycles, uniqueVariableNames, noUndefinedVariables,
   noUnusedVariables, knownDirectives, uniqueDirectivesPerLocation, knownArgumentNames,
   uniqueArgumentNames, valuesOfCorrectType, providedRequiredArguments, variablesInAllowedPosition]

/-- The rules after it. -/
def rulesAfterOverlap : List Rule := [uniqueInputFieldNames, maxIntrospectionDepth]

/-- The complaints about the given places, in order. -/
def complaintsAt (c : Context) (places : List Visit) : List String :=
  let overlaps := ((overlapComplaints c (comparisonLimit places) places).run {}).1
  (places.zip overlaps).flatMap fun (v, overlap) =>
    rulesBeforeOverlap.flatMap (fun rule => rule c v) ++ overlap ++
      rulesAfterOverlap.flatMap (fun rule => rule c v)

/-! ## The outcome -/

/-- What checking a document comes to. -/
inductive Outcome
  /-- The schema itself is not sound. -/
  | unsoundSchema
  /-- A condition of a subscription cannot be read. -/
  | unreadCondition (words : String)
  /-- The complaints about the document; there are none if it is valid. -/
  | complaints (list : List String)
  deriving Repr

/-- The greatest number of complaints. -/
def complaintLimit : Nat := 100

/-- Complaints up to the limit, and a remark if there are more. -/
def limitComplaints (list : List String) : List String :=
  if list.length ≤ complaintLimit then list
  else list.take complaintLimit ++
    ["Too many validation errors, error limit reached. Validation aborted."]

/-- The place is a subscription with a condition that cannot be read. -/
def unreadAt? (c : Context) (v : Visit) : Option String :=
  match v.site with
  | .operation _ o =>
    match topFields c o with
    | .ok _ => none
    | .error words => some words
  | _ => none

end QueryShape.Validation

namespace QueryShape

/-- Check a document against a schema. -/
def Schema.validate (s : Schema) (document : Document) : Validation.Outcome :=
  let c : Validation.Context := ⟨s, document⟩
  if !s.isSound then .unsoundSchema
  else
    let places := Validation.visits s document
    let read := places.takeWhile fun v => (Validation.unreadAt? c v).isNone
    let found := Validation.complaintsAt c read
    match places.findSome? (Validation.unreadAt? c) with
    | some words =>
      if Validation.complaintLimit < found.length then
        .complaints (Validation.limitComplaints found)
      else .unreadCondition words
    | none => .complaints (Validation.limitComplaints found)

end QueryShape
