import QueryShape.Proofs.Validation.Places

/-!
# What rules know of a document that asks for type names

A rule looks at the document around a place by way of its fragments and of what is reached from
selections. Asking for type names in addition changes none of that.

* `reachedFragments_sent`, `variableUses_sent`: what an operation reaches, and the variables it
  uses.
* `cyclesOf_sent`, `goesTooDeep_sent`: the fragments that spread themselves, and how deep
  introspection goes.
* `topFields_sent`: the fields at the top of a subscription.
-/

namespace QueryShape.Validation

open Document

/-- The document as it is sent. -/
def Context.sent (c : Context) : Context := ⟨c.schema, addTypename c.document⟩

theorem fragment?_sent (c : Context) (name : String) :
    c.sent.fragment? name = (c.fragment? name).map sentFragment := by
  unfold Context.fragment? Context.sent
  dsimp only
  rw [fragments_addTypename, find?_sentFragment]

/-- The definitions before an index are sent before it. -/
theorem take_sent (c : Context) (index : Nat) :
    c.sent.document.take index = addTypename (c.document.take index) := List.map_take.symm

/-! ## Spreads -/

theorem spreadOf?_addTypename (a : Selection) : spreadOf? a.addTypename = spreadOf? a := by
  cases a with
  | field f inner =>
    rw [addTypename_field]
    rfl
  | spread => rfl
  | inline => rfl

theorem filterMap_spreadOf?_addTypenames (selections : List Selection) :
    (addTypenames selections).filterMap spreadOf? = selections.filterMap spreadOf? := by
  rw [addTypenames_eq_map, List.filterMap_map]
  exact List.filterMap_congr fun a _ => spreadOf?_addTypename a

theorem spreadsOfRest_append (first rest : List Selection) :
    spreadsOfRest (first ++ rest) = spreadsOfRest rest ++ spreadsOfRest first := by
  induction first with
  | nil => rw [List.nil_append, spreadsOfRest, List.append_nil]
  | cons a first ih =>
    rw [List.cons_append, spreadsOfRest, spreadsOfRest, ih, List.append_assoc]

/-- A type name that is added spreads nothing. -/
theorem spreads_append_missingTypename (first selections : List Selection) :
    spreads (first ++ missingTypename selections) = spreads first := by
  unfold missingTypename
  split
  · rw [List.append_nil]
  · have rest : spreadsOfRest [typenameSelection] = [] := by
      rw [spreadsOfRest, spreadsOfRest, typenameSelection, spreadsInside, spreads, spreadsOfRest]
      rfl
    rw [spreads, spreads, List.filterMap_append, spreadsOfRest_append, rest]
    exact congrArg (· ++ _) (List.append_nil _)

mutual

theorem spreadsInside_addTypename (a : Selection) :
    spreadsInside a.addTypename = spreadsInside a := by
  cases a with
  | field f inner =>
    rw [addTypename_field, spreadsInside, spreadsInside]
    by_cases none : inner = []
    · rw [none, sentUnder_nil]
    · rw [sentUnder_eq none, spreads_append_missingTypename, spreads, spreads,
        filterMap_spreadOf?_addTypenames, spreadsOfRest_addTypenames inner]
  | spread => rfl
  | inline condition? directives inner =>
    rw [Selection.addTypename, spreadsInside, spreadsInside, spreads, spreads,
      filterMap_spreadOf?_addTypenames, spreadsOfRest_addTypenames inner]

theorem spreadsOfRest_addTypenames (selections : List Selection) :
    spreadsOfRest (addTypenames selections) = spreadsOfRest selections := by
  cases selections with
  | nil => rw [addTypenames]
  | cons first rest =>
    rw [addTypenames, spreadsOfRest, spreadsOfRest, spreadsOfRest_addTypenames rest,
      spreadsInside_addTypename first]

end

theorem spreads_addTypenames (selections : List Selection) :
    spreads (addTypenames selections) = spreads selections := by
  rw [spreads, spreads, filterMap_spreadOf?_addTypenames, spreadsOfRest_addTypenames]

/-! ## What an operation reaches -/

theorem reachedFrom_sent (c : Context) (limit : Nat) (seen : List String)
    (pending : List (List Selection)) :
    reachedFrom c.sent limit seen (pending.map addTypenames) =
      (reachedFrom c limit seen pending).map sentFragment := by
  induction limit generalizing seen pending with
  | zero => rw [reachedFrom, reachedFrom, List.map_nil]
  | succ limit ih =>
    cases pending with
    | nil => rfl
    | cons selections pending =>
      have found (names : List String) : names.filterMap c.sent.fragment? =
          (names.filterMap c.fragment?).map sentFragment := by
        rw [List.map_filterMap]
        exact List.filterMap_congr fun name _ => fragment?_sent c name
      have next (list : List Fragment) :
          ((list.map sentFragment).map (·.selections)).reverse ++ pending.map addTypenames =
            ((list.map (·.selections)).reverse ++ pending).map addTypenames := by
        rw [List.map_append, List.map_reverse, List.map_map, List.map_map]
        rfl
      rw [List.map_cons, reachedFrom, reachedFrom]
      simp only [spreads_addTypenames, found, next, List.map_append]
      rw [← List.map_append, ← ih, List.map_append]

/-- What is sent reaches the same fragments. -/
theorem reachedFragments_sent (c : Context) (selections : List Selection) :
    reachedFragments c.sent (addTypenames selections) =
      (reachedFragments c selections).map sentFragment := by
  have count : (fragments c.sent.document).length = (fragments c.document).length := by
    unfold Context.sent
    rw [fragments_addTypename, List.length_map]
  unfold reachedFragments
  rw [count]
  exact reachedFrom_sent c _ [] [selections]

theorem SentVisits.fragments (s : Schema) (list : List Fragment) :
    SentVisits s (list.flatMap (fragmentVisits s 0))
      ((list.map sentFragment).flatMap (fragmentVisits s 0)) := by
  induction list with
  | nil => exact .nil
  | cons f rest ih => exact (sentVisits_fragment s 0 f).append ih

/-- What is sent uses the same variables. -/
theorem variableUses_sent (c : Context) (o : Operation) :
    variableUses c.sent (sentOperation o) = variableUses c o := by
  have sent := (sentVisits_operationBody c.schema 0 o).append
    (SentVisits.fragments c.schema (reachedFragments c o.selections))
  rw [← reachedFragments_sent c o.selections] at sent
  exact sent.uses_eq

/-! ## Cycles -/

mutual

theorem cyclesFrom_sent (c : Context) (limit : Nat) (path : List String)
    (starts : List (String × Nat)) (visited : Visited) (f : Fragment) :
    cyclesFrom c.sent limit path starts visited (sentFragment f) =
      cyclesFrom c limit path starts visited f := by
  cases limit with
  | zero => rw [cyclesFrom, cyclesFrom]
  | succ limit =>
    have below := cyclesThrough_sent c limit path ((f.name, path.length) :: starts)
      (f.name :: visited) (spreads f.selections)
    have same : spreads (sentFragment f).selections = spreads f.selections :=
      spreads_addTypenames f.selections
    rw [cyclesFrom, cyclesFrom, same]
    exact if_congr Iff.rfl rfl below
termination_by (limit, 0)

theorem cyclesThrough_sent (c : Context) (limit : Nat) (path : List String)
    (starts : List (String × Nat)) (visited : Visited) (names : List String) :
    cyclesThrough c.sent limit path starts visited names =
      cyclesThrough c limit path starts visited names := by
  cases names with
  | nil => rw [cyclesThrough, cyclesThrough]
  | cons name rest =>
    rw [cyclesThrough, cyclesThrough, fragment?_sent]
    simp only [cyclesThrough_sent c limit path starts _ rest]
    cases c.fragment? name with
    | none => rfl
    | some f =>
      simp only [Option.map_some, cyclesFrom_sent c limit (path ++ [name]) starts visited f]
termination_by (limit, names.length + 1)

end

/-- What is sent has the same cycles. -/
theorem cyclesOf_sent (c : Context) : cyclesOf c.sent = cyclesOf c := by
  unfold cyclesOf Context.sent
  simp only [fragments_addTypename, List.foldl_map, List.length_map]
  exact congrArg (fun step => ((fragments c.document).foldl step ([], [])).1)
    (funext fun state => funext fun f => by rw [← Context.sent, cyclesFrom_sent])

/-! ## Introspection -/

theorem anyTooDeep_append (c : Context) (limit : Nat) (underWay : List String) (depth : Nat)
    (first rest : List Selection) : anyTooDeep c limit underWay depth (first ++ rest) =
      (anyTooDeep c limit underWay depth first || anyTooDeep c limit underWay depth rest) := by
  induction first with
  | nil => rw [List.nil_append, anyTooDeep, Bool.false_or]
  | cons a first ih => rw [List.cons_append, anyTooDeep, anyTooDeep, ih, Bool.or_assoc]

/-- A type name that is added does not go deep. -/
theorem anyTooDeep_missingTypename (c : Context) (limit : Nat) (underWay : List String)
    (depth : Nat) (selections : List Selection) :
    anyTooDeep c limit underWay depth (missingTypename selections) = false := by
  unfold missingTypename
  split
  · rw [anyTooDeep]
  · have other : listFields.contains typenameField = false := by decide
    rw [anyTooDeep, anyTooDeep, typenameSelection, goesTooDeep, anyTooDeep]
    simp only [other, Bool.false_and, Bool.or_false]

mutual

theorem goesTooDeep_sent (c : Context) (limit : Nat) (underWay : List String) (depth : Nat)
    (a : Selection) : goesTooDeep c.sent limit underWay depth a.addTypename =
      goesTooDeep c limit underWay depth a := by
  cases a with
  | field f inner =>
    rw [addTypename_field, goesTooDeep, goesTooDeep]
    by_cases none : inner = []
    · rw [none, sentUnder_nil, anyTooDeep, anyTooDeep]
    · rw [sentUnder_eq none, anyTooDeep_append, anyTooDeep_missingTypename, Bool.or_false,
        anyTooDeep_sent c limit underWay _ inner]
  | inline condition? directives inner =>
    rw [Selection.addTypename, goesTooDeep, goesTooDeep, anyTooDeep_sent c limit underWay _ inner]
  | spread name directives =>
    rw [Selection.addTypename]
    cases limit with
    | zero => simp only [goesTooDeep]
    | succ limit =>
      have sent := fragment?_sent c name
      cases found : c.fragment? name with
      | none =>
        rw [found] at sent
        rw [goesTooDeep.eq_4, goesTooDeep.eq_4]
        · intro _ _ _ known
          cases found.symm.trans known
        · intro _ _ _ known
          cases sent.symm.trans known
      | some f =>
        rw [found] at sent
        rw [goesTooDeep.eq_3 _ _ _ _ _ _ _ found, goesTooDeep.eq_3 _ _ _ _ _ _ _ sent]
        exact congrArg _ (anyTooDeep_sent c limit (name :: underWay) depth f.selections)
termination_by (limit, sizeOf a)

theorem anyTooDeep_sent (c : Context) (limit : Nat) (underWay : List String) (depth : Nat)
    (selections : List Selection) :
    anyTooDeep c.sent limit underWay depth (addTypenames selections) =
      anyTooDeep c limit underWay depth selections := by
  cases selections with
  | nil => rw [addTypenames, anyTooDeep, anyTooDeep]
  | cons first rest =>
    rw [addTypenames, anyTooDeep, anyTooDeep, goesTooDeep_sent c limit underWay depth first,
      anyTooDeep_sent c limit underWay depth rest]
termination_by (limit, sizeOf selections)

end

/-! ## Subscriptions -/

/-- Collected fields with the selections under them as they are sent. -/
def sentCollected (g : Collected) : Collected := (g.1, g.2.map fun x => (x.1, sentUnder x.2))

/-- The state of collecting from what is sent. -/
def sentCollecting (state : Collecting) : Collecting :=
  { state with groups := state.groups.map sentCollected }

theorem addCollected_sent (groups : List Collected) (f : Field) (selections : List Selection) :
    addCollected (groups.map sentCollected) f (sentUnder selections) =
      (addCollected groups f selections).map sentCollected := by
  have same : (groups.map sentCollected).any (·.1 == f.responseKey) =
      groups.any (·.1 == f.responseKey) := List.any_map
  unfold addCollected
  rw [same]
  by_cases there : groups.any (·.1 == f.responseKey) = true
  · rw [if_pos there, if_pos there, List.map_map, List.map_map]
    refine List.map_congr_left fun g _ => ?_
    rw [Function.comp_apply, Function.comp_apply]
    by_cases key : (g.1 == f.responseKey) = true
    · have sent : ((sentCollected g).1 == f.responseKey) = true := key
      rw [if_pos key, if_pos sent]
      simp only [sentCollected, List.map_append, List.map_cons, List.map_nil]
    · have sent : ¬((sentCollected g).1 == f.responseKey) = true := key
      rw [if_neg key, if_neg sent]
  · rw [if_neg there, if_neg there, List.map_append]
    rfl

section Collecting

variable (s : Schema) (list : List Fragment) (includes : List Directive → Except ε Bool)
  (object : TypeDefinition)

mutual

theorem collectSelection_sent (limit : Nat) (state : Collecting) (a : Selection) :
    collectSelection s (list.map sentFragment) includes object limit (sentCollecting state)
        a.addTypename =
      (collectSelection s list includes object limit state a).map sentCollecting := by
  cases a with
  | field f inner =>
    rw [addTypename_field, collectSelection, collectSelection]
    cases includes f.directives with
    | error e => rfl
    | ok included =>
      cases included
      · rfl
      · have groups := addCollected_sent state.groups f inner
        simp only [Bind.bind, Except.bind, if_true, sentCollecting, groups]
        rfl
  | inline condition? directives inner =>
    rw [Selection.addTypename, collectSelection, collectSelection]
    cases includes directives with
    | error e => rfl
    | ok included =>
      simp only [Bind.bind, Except.bind]
      split
      · exact collectSelections_sent limit state inner
      · rfl
  | spread name directives =>
    rw [Selection.addTypename, collectSelection, collectSelection]
    by_cases seen : state.seen.contains name = true
    · simp only [sentCollecting, seen, if_true]
      rfl
    · have new : ¬(sentCollecting state).seen.contains name = true := seen
      rw [if_neg seen, if_neg new, find?_sentFragment]
      cases includes directives with
      | error e => rfl
      | ok included =>
        cases included
        · rfl
        · cases limit with
          | zero => rfl
          | succ limit =>
            cases list.reverse.find? (·.name == name) with
            | none => rfl
            | some f =>
              have below := collectSelections_sent limit
                { state with seen := name :: state.seen } f.selections
              by_cases meets : meetsCondition s object f.condition = true
              · have sent : meetsCondition s object (sentFragment f).condition = true := meets
                simp only [Bind.bind, Except.bind, Bool.not_true, Bool.false_eq_true, if_false,
                  Option.map_some, if_pos meets, if_pos sent]
                exact below
              · have sent : ¬meetsCondition s object (sentFragment f).condition = true := meets
                simp only [Bind.bind, Except.bind, Bool.not_true, Bool.false_eq_true, if_false,
                  Option.map_some, if_neg meets, if_neg sent]
                rfl
termination_by (limit, sizeOf a)

theorem collectSelections_sent (limit : Nat) (state : Collecting) (selections : List Selection) :
    collectSelections s (list.map sentFragment) includes object limit (sentCollecting state)
        (addTypenames selections) =
      (collectSelections s list includes object limit state selections).map sentCollecting := by
  cases selections with
  | nil =>
    rw [addTypenames, collectSelections, collectSelections]
    rfl
  | cons first rest =>
    rw [addTypenames, collectSelections, collectSelections, collectSelection_sent limit state first]
    cases collectSelection s list includes object limit state first with
    | error e => rfl
    | ok state' => exact collectSelections_sent limit state' rest
termination_by (limit, sizeOf selections)

end

theorem collectFields_sent (selections : List Selection) :
    collectFields s (list.map sentFragment) includes object (addTypenames selections) =
      (collectFields s list includes object selections).map (·.map sentCollected) := by
  unfold collectFields
  rw [List.length_map]
  have all := collectSelections_sent s list includes object list.length {} selections
  rw [show sentCollecting {} = {} from rfl] at all
  rw [all]
  cases collectSelections s list includes object list.length {} selections <;> rfl

end Collecting

/-- What is sent selects the same fields at the top. -/
theorem topFields_sent (c : Context) (o : Operation) :
    topFields c.sent (sentOperation o) = (topFields c o).map (·.map sentCollected) := by
  have schema : c.sent.schema = c.schema := rfl
  have kind : (sentOperation o).kind = o.kind := rfl
  have selections : (sentOperation o).selections = addTypenames o.selections := rfl
  have fragments : fragments c.sent.document = (fragments c.document).map sentFragment :=
    fragments_addTypename c.document
  unfold topFields
  rw [schema, kind, selections, fragments]
  cases c.schema.subscription?.bind c.schema.type? with
  | none => rfl
  | some root =>
    dsimp only
    split
    · exact collectFields_sent ..
    · rfl

end QueryShape.Validation
