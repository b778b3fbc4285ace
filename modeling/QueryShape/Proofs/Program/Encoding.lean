import QueryShape.Proofs.Program.Serialize
import QueryShape.Proofs.Program.Substitution

/-!
# Serializers and the shape of values

A serializer is written without the layers that change nothing: the placeholder alone for values
that are sent as they are, and a copy for lists of such values. Inside a list the items have
numbered names, so that what is converted stands where other variables are bound.

* `value_spelledOut`, `value_toExpr`: whatever is left out, a serializer makes of a value what the
  layers make of it.
* `encodes_by_layers`: so does the text that refers to a value in the place of the placeholder,
  where a variable holds the value that is not one of the names that the serializer is written
  with.
-/

namespace QueryShape

namespace Code.Encoder

/-- The encoder as an expression over the placeholder, with all layers written out. -/
def spelledOut : Encoder → Expr
  | .convert template => template
  | .ifPresent body => .unlessNothing .hole body.spelledOut
  | .each item body => .forEach (body.spelledOut.fill (.name item)) item .hole

end Code.Encoder

namespace Program

open Code

variable {core : Expr} {stem : String} {base s : Scope} {bound : List String}

/-! ## Layers written out -/

/-- **With all layers written out**, a serializer makes of a value what the layers make of it. -/
theorem value_spelledOut (isTemplate : core.IsTemplate)
    (isWord : stem.toList.all Letter.isWord = true) (free : ∀ n ∈ core.names, n ∉ bound)
    (number : Nat) (layers : List Layer) (items : ∀ n ∈ itemNames stem number layers, n ∈ bound)
    (inside : Extends base s bound) {r : Expr} {v : Value} (refers : r.value s = .ok v) :
    ((Encoder.build core stem number layers).spelledOut.fill r).value s =
      encode (convertIn base core) layers v := by
  induction layers generalizing number s r v with
  | nil => exact (value_fill isTemplate refers).trans (convertIn_of_extends isTemplate inside free v)
  | cons layer rest ih =>
    cases layer with
    | nilable =>
      rw [Encoder.build, Encoder.spelledOut, value_fill_unlessNothing _ refers,
        ih number items inside refers]
      rfl
    | array =>
      have isItem := items _ List.mem_cons_self
      have inner (i : Value) := ih (number + 1) (fun n mem => items n (List.mem_cons_of_mem _ mem))
        (inside.with isItem i) (value_item s (itemName stem number) i)
      refine (value_fill_forEach _ (isWord_itemName isWord number)
        (itemName_ne_placeholder number) refers).trans ?_
      rw [funext inner]
      rfl

/-! ## Layers left out -/

theorem eq_hole_of_template (isTemplate : core.IsTemplate) (h : core.isHole = true) :
    core = .hole := by
  cases core with
  | name n =>
    obtain rfl : n = placeholder := by simpa [Expr.isHole] using h
    rfl
  | verbatim text => exact isTemplate.elim
  | _ => cases h

/-- What comes out as the placeholder alone comes from it. -/
theorem eq_hole_of_isHole (isTemplate : core.IsTemplate) (number : Nat) (layers : List Layer)
    (h : (Encoder.build core stem number layers).toExpr.isHole = true) :
    (Encoder.build core stem number layers).toExpr = .hole ∧ core.isHole = true := by
  induction layers with
  | nil => exact ⟨eq_hole_of_template isTemplate h, h⟩
  | cons layer rest ih =>
    cases layer with
    | nilable =>
      rw [Encoder.build, Encoder.toExpr] at h ⊢
      by_cases inner : (Encoder.build core stem number rest).toExpr.isHole = true
      · simp only [inner, if_true]
        exact ih inner
      · simp only [inner, Bool.false_eq_true, if_false] at h
        cases h
    | array =>
      rw [Encoder.build, Encoder.toExpr] at h
      split at h <;> cases h

/-- What a serializer needs where it copies lists: the name of what copies them stands for it. -/
def Copies (core : Expr) (layers : List Layer) (base : Scope) (bound : List String) : Prop :=
  core.isHole = true → .array ∈ layers →
    "list" ∉ bound ∧ base.meaning "list" = .ok (.thing (.tool .list))

/-- Copying gives the items as they are. -/
theorem value_copy {r : Expr} {v : Value} (refers : r.value s = .ok v)
    (list : s.meaning "list" = .ok (.thing (.tool .list))) :
    ((Expr.call (.name "list") .hole).fill r).value s = .list <$> v.items := by
  have function : (Expr.name "list").fill r = .name "list" := if_neg (by decide)
  rw [Expr.fill, function, fill_hole, value_call_of_refers refers, Expr.meaning, list]
  rfl

/-- **With layers left out** that change nothing, a serializer makes of a value what the layers make
of it. -/
theorem value_toExpr (isTemplate : core.IsTemplate)
    (isWord : stem.toList.all Letter.isWord = true) (free : ∀ n ∈ core.names, n ∉ bound)
    (number : Nat) (layers : List Layer) (items : ∀ n ∈ itemNames stem number layers, n ∈ bound)
    (copies : Copies core layers base bound) (inside : Extends base s bound) {r : Expr} {v : Value}
    (refers : r.value s = .ok v) :
    ((Encoder.build core stem number layers).toExpr.fill r).value s =
      encode (convertIn base core) layers v := by
  induction layers generalizing number s r v with
  | nil => exact (value_fill isTemplate refers).trans (convertIn_of_extends isTemplate inside free v)
  | cons layer rest ih =>
    have copiesRest : Copies core rest base bound :=
      fun isHole mem => copies isHole (List.mem_cons_of_mem _ mem)
    cases layer with
    | nilable =>
      have body := ih number items copiesRest inside refers
      rw [Encoder.build]
      cases isHole : (Encoder.build core stem number rest).toExpr.isHole with
      | false =>
        rw [toExpr_ifPresent isHole, value_fill_unlessNothing _ refers, body]
        rfl
      | true =>
        obtain ⟨eq, -⟩ := eq_hole_of_isHole isTemplate number rest isHole
        have same : (Encoder.ifPresent (Encoder.build core stem number rest)).toExpr = .hole := by
          rw [Encoder.toExpr, isHole, if_pos rfl, eq]
        rw [eq, fill_hole, refers] at body
        rw [same, fill_hole, refers, encode, ← body]
        cases v <;> rfl
    | array =>
      have isItem := items _ List.mem_cons_self
      have inner (i : Value) := ih (number + 1) (fun n mem => items n (List.mem_cons_of_mem _ mem))
        copiesRest (inside.with isItem i) (value_item s (itemName stem number) i)
      rw [Encoder.build]
      cases isHole : (Encoder.build core stem (number + 1) rest).toExpr.isHole with
      | false =>
        rw [toExpr_each isHole]
        refine (value_fill_forEach _ (isWord_itemName isWord number)
          (itemName_ne_placeholder number) refers).trans ?_
        rw [funext inner]
        rfl
      | true =>
        obtain ⟨eq, fromHole⟩ := eq_hole_of_isHole isTemplate (number + 1) rest isHole
        obtain ⟨unbound, list⟩ := copies fromHole List.mem_cons_self
        have same : (Encoder.each (stem ++ toString number)
            (Encoder.build core stem (number + 1) rest)).toExpr = .call (.name "list") .hole := by
          rw [Encoder.toExpr, isHole, if_pos rfl]
        have plain : encode (convertIn base core) rest = .ok := by
          funext i
          rw [← inner i, eq, fill_hole]
          exact value_item s _ i
        rw [same, value_copy refers (by rw [inside.meaning _ unbound, list]), encode, plain]
        cases v.items with
        | error fault => rfl
        | ok values =>
          have each : values.mapM (fun i => (pure i : Except Fault Value)) = pure values := by
            rw [List.mapM_pure, List.map_id']
          change _ = Except.bind (values.mapM fun i => (pure i : Except Fault Value)) _
          rw [each]
          rfl

/-! ## Serializers -/

theorem hasWords_toExpr {conversion : Expr} (words : conversion.HasWords)
    (isWord : stem.toList.all Letter.isWord = true) (number : Nat) (layers : List Layer) :
    (Encoder.build conversion stem number layers).toExpr.HasWords := by
  have hole : Expr.hole.HasWords := rfl
  induction layers generalizing number with
  | nil => exact words
  | cons layer rest ih =>
    cases layer with
    | nilable =>
      rw [Encoder.build, Encoder.toExpr]
      split
      · exact ih number
      · exact ⟨hole, ih number⟩
    | array =>
      rw [Encoder.build, Encoder.toExpr]
      split
      · exact ⟨rfl, hole⟩
      · exact ⟨(ih (number + 1)).fill (isWord_itemName isWord number), hole⟩

theorem exists_of_mem_itemNames {number : Nat} {layers : List Layer} {n : String}
    (h : n ∈ itemNames stem number layers) : ∃ k, n = itemName stem k := by
  fun_induction itemNames stem number layers with
  | case1 number => cases h
  | case2 number rest ih => exact ih h
  | case3 number rest ih =>
    rcases List.mem_cons.mp h with rfl | h
    · exact ⟨number, rfl⟩
    · exact ih h

/-- **A serializer makes of a value what the layers of its type make of it.**

The value is what an expression refers to that stands in the place of the placeholder, as the text
is with the word replaced. It is reached through a variable that is none of the names that the
conversion, or copying, is written with. -/
theorem encodes_by_layers (core : Expr) (isTemplate : core.IsTemplate) (layers : List Layer)
    (stem : String) (isWord : stem.toList.all Letter.isWord = true)
    (free : ∀ n ∈ itemNames stem 1 layers, n ∉ core.names) {s : Scope} {n : String}
    (other : n ∉ core.names)
    (copies : core.isHole = true → .array ∈ layers →
      n ≠ "list" ∧ s.meaning "list" = .ok (.thing (.tool .list)))
    {r : Expr} {u v : Value} (refers : r.value (s.with n u) = .ok v) :
    let e := Encoder.ofLayers core stem layers
    (e.toExpr.fill r).text = Code.fill e.toExpr.text r.text ∧
    (e.toExpr.fill r).value (s.with n u) =
      encode (fun w => core.value (s.with placeholder w)) layers v ∧
    (e.spelledOut.fill r).value (s.with n u) = (e.toExpr.fill r).value (s.with n u) := by
  intro e
  have apart (name : String) (mem : name ∈ core.names) : name ∉ n :: itemNames stem 1 layers := by
    intro among
    rcases List.mem_cons.mp among with rfl | item
    · exact other mem
    · exact free name item mem
  have items (item : String) (mem : item ∈ itemNames stem 1 layers) :
      item ∈ n :: itemNames stem 1 layers := List.mem_cons_of_mem _ mem
  have copying : Copies core layers s (n :: itemNames stem 1 layers) := by
    intro isHole mem
    obtain ⟨different, list⟩ := copies isHole mem
    refine ⟨fun among => ?_, list⟩
    rcases List.mem_cons.mp among with rfl | item
    · exact different rfl
    · obtain ⟨k, eq⟩ := exists_of_mem_itemNames item
      exact itemName_ne (c := 't') rfl rfl k eq.symm
  have inside : Extends s (s.with n u) (n :: itemNames stem 1 layers) :=
    (Extends.refl s _).with List.mem_cons_self u
  have encoded : (e.toExpr.fill r).value (s.with n u) = encode (convertIn s core) layers v :=
    value_toExpr isTemplate isWord apart 1 layers items copying inside refers
  have written : (e.spelledOut.fill r).value (s.with n u) = encode (convertIn s core) layers v :=
    value_spelledOut isTemplate isWord apart 1 layers items inside refers
  exact ⟨Expr.text_fill (hasWords_toExpr isTemplate.hasWords isWord 1 layers) r, encoded,
    written.trans encoded.symm⟩

/-- Lists of lists of identifiers, where the items are named after the placeholder. -/
theorem encodes_by_layers_identifiers :
    let layers : List Layer := [.nilable, .array, .array, .nilable]
    let e := (Encoder.ofLayers .hole placeholder layers).toExpr
    let s : Scope := { bindings := [], send := fun v => .ok v }
    let ids : Value := .list [.list [.text "7", .nothing], .list []]
    e.text = "None if raw_value is None else [list(raw_value1) for raw_value1 in raw_value]" ∧
    (e.fill (.name "ids")).value (s.with "ids" ids) = .ok ids := by
  intro layers e s ids
  have encoded := (encodes_by_layers .hole rfl layers placeholder rfl
    (by simp [Expr.names, Expr.hole]) (s := s) (n := "ids") (by simp [Expr.names, Expr.hole])
    (fun _ _ => ⟨by decide, rfl⟩) (r := .name "ids") (u := ids) rfl).2.1
  exact ⟨rfl, encoded.trans rfl⟩

end Program

end QueryShape
