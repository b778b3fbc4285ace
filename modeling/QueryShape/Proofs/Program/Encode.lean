import Mathlib.Data.List.TakeWhile
import QueryShape.Program.Send
import QueryShape.Proofs.Naming.Module
import QueryShape.Proofs.Program.Templates

/-!
# Running encoders

What a serializer makes of the value of a variable, in the scope of the method that sends it.

`encode` says what the layers of a type make of a value, given what is made of a bare one.
`value_toExpr_build` goes through a serializer layer by layer, with a name bound for the items of
each list, down to the bare values and the scope that they are converted in. What that scope hides
is not what the conversion is written with.

* `run_eq_encode`: the serializer makes of every value what the layers make of it, if the conversion
  does so for bare values wherever it comes to them.
* `run_nest`: a value with single items leads to one bare value and one scope, with a name for every
  list.
-/

namespace QueryShape

namespace Code

/-! ## Filling twice -/

/-- A text does not begin inside a word. -/
def StartsOutside (cs : List Char) : Prop := ∀ c ∈ cs.head?, Letter.isWord c = false

theorem startsOutside_dropWhile (cs : List Char) : StartsOutside (cs.dropWhile Letter.isWord) := by
  intro c hc
  have := List.head?_dropWhile_not Letter.isWord cs
  rw [Option.mem_def.mp hc] at this
  exact this

theorem StartsOutside.replaceWord {cs : List Char} (h : StartsOutside cs)
    (word replacement : List Char) : StartsOutside (Code.replaceWord word replacement cs) := by
  cases cs with
  | nil => rwa [Code.replaceWord]
  | cons c rest =>
    have outside := h c rfl
    rw [Code.replaceWord, if_neg (by rw [outside]; decide)]
    exact fun x hx => Option.some.inj hx ▸ outside

/-- A whole word other than the one that is replaced stays. -/
theorem replaceWord_append {word replacement piece tail : List Char}
    (isWord : piece.all Letter.isWord = true) (other : piece ≠ word)
    (outside : StartsOutside tail) : replaceWord word replacement (piece ++ tail) =
      piece ++ replaceWord word replacement tail := by
  cases piece with
  | nil => rfl
  | cons c rest =>
    simp only [List.all_cons, Bool.and_eq_true] at isWord
    have all : ∀ x ∈ rest, Letter.isWord x = true := List.all_eq_true.mp isWord.2
    have stops : tail.takeWhile Letter.isWord = [] := by
      cases tail with
      | nil => rfl
      | cons x more => rw [List.takeWhile_cons_of_neg (by rw [outside x rfl]; decide)]
    have rest_eq : tail.dropWhile Letter.isWord = tail := by
      have split := List.takeWhile_append_dropWhile (p := Letter.isWord) (l := tail)
      rwa [stops] at split
    rw [List.cons_append, replaceWord, if_pos isWord.1]
    rw [List.takeWhile_append_of_pos all, List.dropWhile_append_of_pos all, stops, rest_eq,
      List.append_nil]
    dsimp only
    rw [if_neg other]

/-- Once replaced by another word, a word is nowhere. -/
theorem replaceWord_replaceWord {word piece : List Char} (isWord : piece.all Letter.isWord = true)
    (other : piece ≠ word) (replacement cs : List Char) :
    replaceWord word replacement (replaceWord word piece cs) = replaceWord word piece cs := by
  fun_induction replaceWord word piece cs with
  | case1 => rw [replaceWord]
  | case2 c rest hc found ih =>
    have outside := (startsOutside_dropWhile rest).replaceWord word piece
    have foundWord : found.all Letter.isWord = true := by
      simp only [found, List.all_cons, hc, Bool.true_and, List.all_takeWhile]
    split
    · rw [replaceWord_append isWord other outside, ih]
    · next different => rw [replaceWord_append foundWord different outside, ih]
  | case3 c rest hc ih => rw [replaceWord, if_neg hc, ih]

theorem fill_fill {name : String} (isWord : name.toList.all Letter.isWord = true)
    (other : name ≠ placeholder) (text r : String) : fill (fill text name) r = fill text name := by
  have different : name.toList ≠ placeholder.toList := fun e => other (String.toList_injective e)
  unfold fill
  rw [String.toList_ofList, replaceWord_replaceWord isWord different]

/-- A template that has been filled with a word has no place left. -/
theorem Expr.fill_fill {name : String} (isWord : name.toList.all Letter.isWord = true)
    (other : name ≠ placeholder) (e r : Expr) :
    (e.fill (.name name)).fill r = e.fill (.name name) := by
  have texts (text : String) : Code.fill (Code.fill text name) r.text = Code.fill text name :=
    Code.fill_fill isWord other text r.text
  induction e with
  | name n =>
    by_cases hole : n = placeholder
    · rw [Expr.fill, if_pos hole, Expr.fill, if_neg other]
    · rw [Expr.fill, if_neg hole, Expr.fill, if_neg hole]
  | nothing => rfl
  | member e n ih => simp only [Expr.fill, ih, Expr.text, texts]
  | entry e key ih => simp only [Expr.fill, ih, Expr.text, texts]
  | entryOrNothing e key ih => simp only [Expr.fill, ih, Expr.text, texts]
  | call f x ihf ihx => simp only [Expr.fill, ihf, ihx]
  | send e method ih => simp only [Expr.fill, ih, Expr.text, texts]
  | cast type e ih => simp only [Expr.fill, ih, Expr.text, texts]
  | unlessNothing subject value ihs ihv => simp only [Expr.fill, ihs, ihv]
  | forEach value item source ihv ihs => simp only [Expr.fill, ihv, ihs, Expr.text, texts]
  | verbatim text => simp only [Expr.fill, Expr.text, texts]

end Code

namespace Program

open Code

/-! ## Layers -/

theorem mapM_congr {f f' : α → Except ε β} {items : List α} (same : ∀ a ∈ items, f a = f' a) :
    items.mapM f = items.mapM f' := by
  induction items with
  | nil => rfl
  | cons first rest ih =>
    rw [List.mapM_cons, List.mapM_cons, same first List.mem_cons_self,
      ih fun a ha => same a (List.mem_cons_of_mem _ ha)]

theorem map_injective {f : α → β} (injective : Function.Injective f) {x y : Except ε α}
    (h : f <$> x = f <$> y) : x = y := by
  cases x with
  | error fault =>
    cases y with
    | error fault' => exact congrArg Except.error (Except.error.inj h)
    | ok b => cases h
  | ok a =>
    cases y with
    | error fault => cases h
    | ok b => exact congrArg Except.ok (injective (Except.ok.inj h))

/-- What layers make of a value, given what is made of a bare one: nothing stays nothing, and lists
are gone through item by item. -/
def encode (bare : Value → Except Fault Value) : List Layer → Value → Except Fault Value
  | [], v => bare v
  | .nilable :: rest, v => if v.isNothing then .ok .nothing else encode bare rest v
  | .array :: rest, v => do return .list (← (← v.items).mapM (encode bare rest))

/-- A value has the layers, around bare values that fit. -/
def Conforms (fits : Value → Prop) : List Layer → Value → Prop
  | [], v => fits v
  | .nilable :: rest, v => v.isNothing = true ∨ Conforms fits rest v
  | .array :: rest, v => ∃ items, v = .list items ∧ ∀ i ∈ items, Conforms fits rest i

/-- A bare value fits and gets through the layers around it: nothing does not get through a layer
for missing values. -/
def Arrives (fits : Value → Prop) (layers : List Layer) (v : Value) : Prop :=
  fits v ∧ (layers.getLast? = some .nilable → v.isNothing = false)

/-- A value with the layers, where every list has one item. -/
def nest : List Layer → Value → Value
  | [], v => v
  | .nilable :: rest, v => nest rest v
  | .array :: rest, v => .list [nest rest v]

variable {fits : Value → Prop} {bare : Value → Except Fault Value} {layers : List Layer} {w : Value}

theorem Arrives.of_cons {layer : Layer} {rest : List Layer} (h : Arrives fits (layer :: rest) w) :
    Arrives fits rest w := by
  refine ⟨h.1, fun last => h.2 ?_⟩
  cases rest with
  | nil => cases last
  | cons next more => exact last

theorem nest_of_nilable {rest : List Layer} (h : Arrives fits (.nilable :: rest) w) :
    (nest rest w).isNothing = false := by
  induction rest with
  | nil => exact h.2 rfl
  | cons layer rest ih =>
    cases layer with
    | nilable => exact ih ⟨h.1, h.of_cons.2⟩
    | array => rfl

theorem conforms_nest (h : Arrives fits layers w) : Conforms fits layers (nest layers w) := by
  induction layers with
  | nil => exact h.1
  | cons layer rest ih =>
    cases layer with
    | nilable => exact Or.inr (ih h.of_cons)
    | array =>
      refine ⟨_, rfl, fun i hi => ?_⟩
      rw [List.mem_singleton.mp hi]
      exact ih h.of_cons

theorem nest_injective (layers : List Layer) : Function.Injective (nest layers) := by
  intro a b h
  induction layers with
  | nil => exact h
  | cons layer rest ih =>
    cases layer with
    | nilable => exact ih h
    | array =>
      have items := (Value.list.injEq _ _).mp h
      exact ih (List.singleton_inj.mp items)

/-- What is made of a value with single items is what is made of the bare value, with the layers. -/
theorem encode_nest (h : Arrives fits layers w) :
    encode bare layers (nest layers w) = nest layers <$> bare w := by
  induction layers with
  | nil =>
    unfold encode nest
    exact (id_map (bare w)).symm
  | cons layer rest ih =>
    cases layer with
    | nilable =>
      unfold encode nest
      rw [if_neg (by rw [nest_of_nilable h]; decide), ih h.of_cons]
      rfl
    | array =>
      unfold encode nest
      change Except.bind (List.mapM (encode bare rest) [nest rest w]) _ = _
      rw [List.mapM_cons, List.mapM_nil, ih h.of_cons]
      cases bare w <;> rfl

/-! ## Serializers -/

/-- The name for the items of the list with a number. -/
def itemName (stem : String) (number : Nat) : String := stem ++ toString number

/-- The names for the items of lists, counted from a number on. -/
def itemNames (stem : String) : (number : Nat) → List Layer → List String
  | _, [] => []
  | number, .nilable :: rest => itemNames stem number rest
  | number, .array :: rest => itemName stem number :: itemNames stem (number + 1) rest

/-- The name that a bare value has inside the layers of a value with a name. -/
def innerName (stem : String) : (number : Nat) → List Layer → (outer : String) → String
  | _, [], outer => outer
  | number, .nilable :: rest, outer => innerName stem number rest outer
  | number, .array :: rest, _ => innerName stem (number + 1) rest (itemName stem number)

/-- How a bare value is referred to inside the layers of a value that is referred to. -/
def innerReference (stem : String) : (number : Nat) → List Layer → (outer : Expr) → Expr
  | _, [], outer => outer
  | number, .nilable :: rest, outer => innerReference stem number rest outer
  | number, .array :: rest, _ =>
    innerReference stem (number + 1) rest (.name (itemName stem number))

theorem innerReference_name (stem : String) (number : Nat) (layers : List Layer) (name : String) :
    innerReference stem number layers (.name name) = .name (innerName stem number layers name) := by
  induction layers generalizing number name with
  | nil => rfl
  | cons layer rest ih =>
    cases layer with
    | nilable => exact ih number name
    | array => exact ih (number + 1) _

/-- What a serializer makes of the value that is referred to, with the conversion that stands inside
the layers. -/
def runLayers (conversion : Expr) (stem : String) :
    (number : Nat) → List Layer → (outer : Expr) → Scope → Value → Except Fault Value
  | _, [], outer, s, _ => (conversion.fill outer).value s
  | number, .nilable :: rest, outer, s, v =>
    if v.isNothing then .ok .nothing else runLayers conversion stem number rest outer s v
  | number, .array :: rest, _, s, v => do
    return .list (← (← v.items).mapM fun i =>
      runLayers conversion stem (number + 1) rest (.name (itemName stem number))
        (s.with (itemName stem number) i) i)

variable {conversion : Expr} {stem : String} {s : Scope}

theorem toExpr_ifPresent {body : Encoder} (h : body.toExpr.isHole = false) :
    (Encoder.ifPresent body).toExpr = .unlessNothing .hole body.toExpr := by
  rw [Encoder.toExpr, h, if_neg Bool.false_ne_true]

theorem toExpr_each {body : Encoder} (h : body.toExpr.isHole = false) (item : String) :
    (Encoder.each item body).toExpr = .forEach (body.toExpr.fill (.name item)) item .hole := by
  rw [Encoder.toExpr, h, if_neg Bool.false_ne_true]

theorem isHole_toExpr_build (proper : conversion.isHole = false) (number : Nat)
    (layers : List Layer) :
    (Encoder.build conversion stem number layers).toExpr.isHole = false := by
  induction layers generalizing number with
  | nil => exact proper
  | cons layer rest ih =>
    cases layer with
    | nilable =>
      rw [Encoder.build, toExpr_ifPresent (ih number)]
      rfl
    | array =>
      rw [Encoder.build, toExpr_each (ih (number + 1))]
      rfl

theorem isWord_of_isWordChar {c : Char} (h : Naming.IsWordChar c) : Letter.isWord c = true :=
  Naming.forall_isWordChar (p := fun c => Letter.isWord c = true) (by decide) h

/-- The digits of a number are word characters. -/
theorem isWord_of_mem_toString {number : Nat} {c : Char} (h : c ∈ (toString number).toList) :
    c.isDigit = true := by
  rw [Nat.toString_eq_repr, Nat.toList_repr] at h
  exact Nat.isDigit_of_mem_toDigits (by decide) (by decide) h

theorem isWord_itemName (isWord : stem.toList.all Letter.isWord = true) (number : Nat) :
    (itemName stem number).toList.all Letter.isWord = true := by
  unfold itemName
  rw [String.toList_append, List.all_append, isWord, Bool.true_and, List.all_eq_true]
  intro c hc
  refine isWord_of_isWordChar ?_
  unfold Naming.IsWordChar Char.isAlphanum
  rw [isWord_of_mem_toString hc]
  simp

/-- Item names end in a digit. -/
theorem itemName_ne {text : String} {c : Char} (isLast : text.toList.getLast? = some c)
    (other : c.isDigit = false) (number : Nat) : itemName stem number ≠ text := by
  intro eq
  have chars := congrArg String.toList eq
  unfold itemName at chars
  rw [String.toList_append] at chars
  have some_digit : (toString number).toList ≠ [] := by
    rw [Nat.toString_eq_repr, Nat.toList_repr]
    exact Nat.toDigits_ne_nil
  have last := congrArg List.getLast? chars
  rw [List.getLast?_append_of_ne_nil _ some_digit, List.getLast?_eq_some_getLast some_digit] at last
  have isDigit := isWord_of_mem_toString (List.getLast_mem some_digit)
  rw [Option.some.inj (last.trans isLast), other] at isDigit
  cases isDigit

theorem itemName_ne_placeholder (number : Nat) : itemName stem number ≠ placeholder :=
  itemName_ne (c := 'e') rfl rfl number

/-- The item of a list is referred to by its name. -/
theorem value_item (s : Scope) (item : String) (i : Value) :
    (Expr.name item).value (s.with item i) = .ok i := value_name List.lookup_cons_self

/-- A missing value stays missing, whatever it is referred to by. -/
theorem value_fill_unlessNothing (body : Expr) {outer : Expr} {v : Value}
    (refers : outer.value s = .ok v) :
    ((Expr.unlessNothing .hole body).fill outer).value s =
      if v.isNothing then .ok .nothing else (body.fill outer).value s := by
  rw [Expr.fill, fill_hole, value_unlessNothing, refers]
  rfl

/-- The items of a list are converted one by one, whatever the list is referred to by. -/
theorem value_fill_forEach (body : Expr) {item : String}
    (isItem : item.toList.all Letter.isWord = true) (other : item ≠ placeholder) {outer : Expr}
    {v : Value} (refers : outer.value s = .ok v) :
    ((Expr.forEach (body.fill (.name item)) item .hole).fill outer).value s = (do
      return .list (← (← v.items).mapM fun i => (body.fill (.name item)).value (s.with item i))) := by
  rw [Expr.fill, fill_hole, Expr.fill_fill isItem other, fill_of_word isItem other, value_forEach,
    refers]
  rfl

/-- **A serializer goes through the layers of its value**, down to the conversion. -/
theorem value_toExpr_build (proper : conversion.isHole = false)
    (isWord : stem.toList.all Letter.isWord = true) (number : Nat) (layers : List Layer)
    {outer : Expr} {v : Value} (refers : outer.value s = .ok v) :
    ((Encoder.build conversion stem number layers).toExpr.fill outer).value s =
      runLayers conversion stem number layers outer s v := by
  induction layers generalizing number outer s v with
  | nil => rfl
  | cons layer rest ih =>
    cases layer with
    | nilable =>
      rw [Encoder.build, toExpr_ifPresent (isHole_toExpr_build proper _ _),
        value_fill_unlessNothing _ refers, ih number refers]
      rfl
    | array =>
      have inner (i : Value) := ih (number + 1) (value_item s (itemName stem number) i)
      rw [Encoder.build, toExpr_each (isHole_toExpr_build proper _ _)]
      refine (value_fill_forEach _ (isWord_itemName isWord number)
        (itemName_ne_placeholder number) refers).trans ?_
      unfold runLayers
      rw [← funext inner]

/-! ## Scopes -/

/-- A scope inside another, with more names. All names are among the given ones. -/
structure Inside (outer s : Scope) (names : List String) : Prop where
  bindings : s.bindings = outer.bindings
  send : s.send = outer.send
  locals : ∀ l ∈ s.locals, l.1 ∈ names

theorem Inside.with {outer : Scope} {names : List String} (h : Inside outer s names) {name : String}
    (mem : name ∈ names) (v : Value) : Inside outer (s.with name v) names where
  bindings := h.bindings
  send := h.send
  locals := by
    intro l hl
    rcases List.mem_cons.mp hl with rfl | hl
    · exact mem
    · exact h.locals l hl

/-- **A serializer makes of a value what the layers make of it**, if the conversion does so for bare
values. -/
theorem run_eq_encode {outer : Scope} {names : List String} (number : Nat) (layers : List Layer)
    {r : Expr} {v : Value} (converts : ∀ s w, Inside outer s names →
      (innerReference stem number layers r).value s = .ok w → Arrives fits layers w →
      (conversion.fill (innerReference stem number layers r)).value s = bare w)
    (items : ∀ item ∈ itemNames stem number layers, item ∈ names) (inside : Inside outer s names)
    (refers : r.value s = .ok v) (conforms : Conforms fits layers v) :
    runLayers conversion stem number layers r s v = encode bare layers v := by
  induction layers generalizing number r s v with
  | nil => exact converts s v inside refers ⟨conforms, nofun⟩
  | cons layer rest ih =>
    cases layer with
    | nilable =>
      unfold runLayers encode
      split
      · rfl
      · next something =>
        have conforms := conforms.resolve_left something
        cases rest with
        | nil => exact converts s v inside refers ⟨conforms, fun _ => eq_false_of_ne_true something⟩
        | cons next more => exact ih number converts items inside refers conforms
    | array =>
      obtain ⟨values, rfl, each⟩ := conforms
      have mem : itemName stem number ∈ names := items _ List.mem_cons_self
      have same (i : Value) (hi : i ∈ values) :
          runLayers conversion stem (number + 1) rest (.name (itemName stem number))
            (s.with (itemName stem number) i) i = encode bare rest i :=
        ih (number + 1) (fun s w within found arrives => converts s w within found
            ⟨arrives.1, fun last => arrives.2 (by cases rest <;> simp_all)⟩)
          (fun item hitem => items item (List.mem_cons_of_mem _ hitem)) (inside.with mem i)
          (value_item s _ i) (each i hi)
      unfold runLayers encode
      change Except.bind (values.mapM _) _ = Except.bind (values.mapM _) _
      rw [mapM_congr same]

/-- The scope in which the bare value of a value with single items is converted. -/
def nestScope (stem : String) : (number : Nat) → List Layer → Scope → Value → Scope
  | _, [], s, _ => s
  | number, .nilable :: rest, s, w => nestScope stem number rest s w
  | number, .array :: rest, s, w =>
    nestScope stem (number + 1) rest (s.with (itemName stem number) (nest rest w)) w

/-- A value with single items leads to its bare value, in a scope with a name for every list. -/
theorem run_nest (number : Nat) {layers : List Layer} {w : Value} (arrives : Arrives fits layers w)
    (r : Expr) (s : Scope) :
    runLayers conversion stem number layers r s (nest layers w) = nest layers <$>
      (conversion.fill (innerReference stem number layers r)).value
        (nestScope stem number layers s w) := by
  induction layers generalizing number r s with
  | nil => exact (id_map _).symm
  | cons layer rest ih =>
    cases layer with
    | nilable =>
      unfold runLayers nest
      rw [if_neg (by rw [nest_of_nilable arrives]; decide), ih number arrives.of_cons]
      rfl
    | array =>
      have item := ih (number + 1) arrives.of_cons (.name (itemName stem number))
        (s.with (itemName stem number) (nest rest w))
      unfold runLayers nest innerReference nestScope
      change Except.bind (List.mapM _ [nest rest w]) _ = _
      rw [List.mapM_cons, List.mapM_nil, item]
      generalize Expr.value _ _ = made
      cases made <;> rfl

/-- A scope has a variable of the name. -/
def Scope.Has (s : Scope) (name : String) : Prop := ∃ v, s.locals.lookup name = some v

theorem Scope.Has.with {name : String} (h : s.Has name) (other : String) (v : Value) :
    (s.with other v).Has name := by
  unfold Scope.Has Scope.with
  rw [List.lookup_cons]
  split
  · exact ⟨v, rfl⟩
  · exact h

/-- The names of the scope and those for items are bound where a bare value is converted. -/
theorem has_nestScope (number : Nat) (layers : List Layer) (s : Scope) (w : Value) {name : String}
    (h : s.Has name ∨ name ∈ itemNames stem number layers) :
    (nestScope stem number layers s w).Has name := by
  fun_induction nestScope stem number layers s w with
  | case1 number s w => exact h.resolve_right List.not_mem_nil
  | case2 number rest s w ih => exact ih h
  | case3 number rest s w ih =>
    refine ih ?_
    rcases h with h | h
    · exact Or.inl (h.with _ _)
    · rcases List.mem_cons.mp h with rfl | h
      · exact Or.inl ⟨_, List.lookup_cons_self⟩
      · exact Or.inr h

/-- The bare value is referred to inside the layers. -/
theorem value_nestScope (number : Nat) (layers : List Layer) {r : Expr} {s : Scope} {w : Value}
    (refers : r.value s = .ok (nest layers w)) :
    (innerReference stem number layers r).value (nestScope stem number layers s w) = .ok w := by
  induction layers generalizing number r s with
  | nil => exact refers
  | cons layer rest ih =>
    cases layer with
    | nilable => exact ih number refers
    | array => exact ih (number + 1) (value_item s _ _)

end Program

end QueryShape
