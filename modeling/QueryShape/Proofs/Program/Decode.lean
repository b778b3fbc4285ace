import QueryShape.Program.Send
import QueryShape.Proofs.Program.Ways

/-!
# Running decoders

`Decoder.decode` says what a decoder makes of a value. `runDecoder_build` shows that the statements
of an accessor make the same of the value that they read, for templates that convert wherever they
stand (`Converts`).
-/

namespace QueryShape.Program

open Code Record

/-! ## Local variables -/

/-- The name is that of a variable of an accessor: the object, or an item of a list. -/
def isLocal (name : String) : Bool :=
  name == "self" || name == placeholder || "inner_value".toList.isPrefixOf name.toList

/-- A scope of an accessor of a module. -/
structure Within (bindings : Bindings) (s : Scope) : Prop where
  bindings : s.bindings = bindings
  locals : ∀ l ∈ s.locals, isLocal l.1 = true

variable {bindings : Bindings} {s : Scope}

theorem within_scopeOf {locals : List (String × Value)} (h : ∀ l ∈ locals, isLocal l.1 = true) :
    Within bindings (scopeOf bindings locals) := ⟨rfl, h⟩

theorem Within.with (h : Within bindings s) {name : String} (isName : isLocal name = true)
    (v : Value) : Within bindings (s.with name v) where
  bindings := h.bindings
  locals := by
    intro l mem
    rcases List.mem_cons.mp mem with rfl | mem
    · exact isName
    · exact h.locals l mem

/-- A name that is no variable's stands for what it stands for in the module. -/
theorem Within.meaning (h : Within bindings s) {name : String} (global : isLocal name = false)
    {t : Thing} (found : bindings.thing? name = some t) : s.meaning name = .ok (.thing t) := by
  have unbound : s.locals.lookup name = none := by
    rw [List.lookup_eq_none_iff]
    intro l mem
    rw [bne_iff_ne]
    rintro rfl
    rw [h.locals l mem] at global
    cases global
  unfold Scope.meaning
  rw [unbound, h.bindings, found]

/-! ## Decoding -/

/-- What a template makes of a bare value. -/
def bareOf (bindings : Bindings) (template : Expr) (v : Value) : Except Fault Value :=
  template.value (scopeOf bindings [(placeholder, v)])

/-- What a decoder makes of a value. -/
def decode (bindings : Bindings) : Decoder → Value → Except Fault Value
  | .convert template _, v => bareOf bindings template v
  | .guard _ _ body, v => if v.isNothing then .ok .nothing else decode bindings body v
  | .each _ _ body, v => do return .list (← (← v.items).mapM (decode bindings body))

/-- A template converts a value in every scope of an accessor, whether the value stands in the place
of the placeholder or is bound to it. -/
structure Converts (bindings : Bindings) (template : Expr) : Prop where
  filled : ∀ s, Within bindings s → ∀ e,
    (template.fill e).value s = do bareOf bindings template (← e.value s)
  bound : ∀ s, Within bindings s → ∀ v, s.locals.lookup placeholder = some v →
    template.value s = bareOf bindings template v

theorem value_name {name : String} {v : Value} (h : s.locals.lookup name = some v) :
    (Expr.name name).value s = .ok v := by
  unfold Expr.value Expr.meaning Scope.meaning
  rw [h]
  rfl

theorem value_unlessNothing (subject value : Expr) (s : Scope) :
    (Expr.unlessNothing subject value).value s = (do
      if (← subject.value s).isNothing then return .nothing else value.value s) := by
  unfold Expr.value
  rw [Expr.meaning]
  cases subject.meaning s with
  | error fault => rfl
  | ok m =>
    cases m with
    | thing t => rfl
    | function f => rfl
    | value v =>
      change Except.bind (if v.isNothing then _ else _) _ = if v.isNothing then _ else _
      split <;> rfl

theorem value_forEach (value : Expr) (item : String) (source : Expr) (s : Scope) :
    (Expr.forEach value item source).value s = (do
      return .list (← (← (← source.value s).items).mapM fun v => value.value (s.with item v))) := by
  unfold Expr.value
  rw [Expr.meaning]
  cases source.meaning s with
  | error fault => rfl
  | ok m =>
    cases m with
    | thing t => rfl
    | function f => rfl
    | value v =>
      change Except.bind (Except.bind v.items _) _ = Except.bind v.items _
      cases v.items with
      | error fault => rfl
      | ok items =>
        change Except.bind (Except.bind (items.mapM fun v => value.value (s.with item v)) _) _ =
          Except.bind (items.mapM fun v => value.value (s.with item v)) _
        cases items.mapM fun v => value.value (s.with item v) <;> rfl

theorem isLocal_itemName (inside : Int) : isLocal (Decoder.itemName inside) = true := by
  unfold Decoder.itemName isLocal
  split
  · rfl
  · simp [String.toList_append]

theorem arrayDepth_nilable (layers : List Layer) :
    arrayDepth (.nilable :: layers) = arrayDepth layers := by
  simp [arrayDepth]

theorem arrayDepth_array (layers : List Layer) :
    (arrayDepth (.array :: layers) : Int) - 1 = arrayDepth layers := by
  simp [arrayDepth]

/-- The decoder for the items of a list. -/
def itemDecoder (template : Expr) (layers : List Layer) (level : Nat) : Decoder :=
  .build template layers (.name (Decoder.itemName (arrayDepth layers))) (arrayDepth layers)
    (level + 1)

/-- Inside a list, a decoder makes of an item what it should. -/
theorem value_itemDecoder {template : Expr} (converts : Converts bindings template)
    (layers : List Layer) (level : Nat) : ∀ {s : Scope}, Within bindings s → ∀ w,
      (itemDecoder template layers level).toExpr.value
        (s.with (Decoder.itemName (arrayDepth layers)) w) =
      decode bindings (itemDecoder template layers level) w := by
  induction layers generalizing level with
  | nil =>
    intro s within w
    exact converts.bound _ (within.with (isLocal_itemName _) w) w List.lookup_cons_self
  | cons layer rest ih =>
    intro s within w
    cases layer with
    | nilable =>
      unfold itemDecoder Decoder.build Decoder.toExpr decode
      rw [arrayDepth_nilable, value_unlessNothing, value_name List.lookup_cons_self]
      change (if w.isNothing then _ else _) = _
      have body := ih level within w
      unfold itemDecoder at body
      rw [body]
      rfl
    | array =>
      unfold itemDecoder Decoder.build Decoder.toExpr decode
      rw [value_forEach, value_name List.lookup_cons_self, arrayDepth_array]
      have inside := within.with (isLocal_itemName (arrayDepth (.array :: rest))) w
      have items := funext (ih (level + 1) inside)
      unfold itemDecoder at items
      rw [items]
      rfl

/-- **The statements of an accessor make of the value that they read what the decoder makes of
it.** -/
theorem runDecoder_build {template : Expr} (converts : Converts bindings template)
    (within : Within bindings s) (access : Expr) (layers : List Layer) :
    runDecoder s (Decoder.build template layers access (arrayDepth layers) 0) = (do
      decode bindings (Decoder.build template layers access (arrayDepth layers) 0)
        (← access.value s)) := by
  induction layers with
  | nil =>
    unfold Decoder.build runDecoder
    exact converts.filled s within access
  | cons layer rest ih =>
    cases layer with
    | nilable =>
      unfold Decoder.build
      rw [arrayDepth_nilable]
      unfold runDecoder
      simp only [Nat.lt_irrefl, decide_false]
      rw [ih]
      cases access.value s with
      | error fault => rfl
      | ok v => rfl
    | array =>
      unfold Decoder.build runDecoder Decoder.toExpr
      rw [value_forEach, arrayDepth_array]
      have items := funext (value_itemDecoder converts rest 0 within)
      unfold itemDecoder at items
      rw [items]
      rfl

/-! ## Templates -/

/-- An expression means the same in every scope of an accessor, and holds no placeholder. -/
structure Means (bindings : Bindings) (e : Expr) (m : Meaning) : Prop where
  closed : ∀ r, e.fill r = e
  meaning : ∀ s, Within bindings s → e.meaning s = .ok m

theorem means_name {name : String} (global : isLocal name = false) {t : Thing}
    (found : bindings.thing? name = some t) : Means bindings (.name name) (.thing t) where
  closed := by
    intro r
    have other : name ≠ placeholder := by
      rintro rfl
      cases global
    unfold Expr.fill
    rw [if_neg other]
  meaning := by
    intro s within
    unfold Expr.meaning
    exact within.meaning global found

theorem means_member {e : Expr} {m m' : Meaning} {name : String} (h : Means bindings e m)
    (closed : ∀ r, Code.fill name r = name) (found : m.member name = .ok m') :
    Means bindings (.member e name) m' where
  closed := by
    intro r
    unfold Expr.fill
    rw [h.closed, closed]
  meaning := by
    intro s within
    unfold Expr.meaning
    rw [h.meaning s within]
    exact found

theorem value_call {f x : Expr} {m : Meaning} (h : Means bindings f m)
    (within : Within bindings s) :
    (Expr.call f x).value s = (do m.call (← x.value s)) := by
  unfold Expr.value
  rw [Expr.meaning, h.meaning s within]
  cases x.meaning s with
  | error fault => rfl
  | ok m' =>
    cases m' with
    | thing t => rfl
    | function f => rfl
    | value v =>
      change Except.bind (Except.bind (m.call v) _) _ = m.call v
      cases m.call v <;> rfl

theorem within_bare (bindings : Bindings) (v : Value) :
    Within bindings (scopeOf bindings [(placeholder, v)]) :=
  within_scopeOf fun _ mem => List.mem_singleton.mp mem ▸ rfl

theorem value_hole {v : Value} (h : s.locals.lookup placeholder = some v) :
    Expr.hole.value s = .ok v := value_name h

theorem fill_hole (r : Expr) : Expr.hole.fill r = r := by
  unfold Expr.hole Expr.fill
  rw [if_pos rfl]

/-- What a call makes of a bare value. -/
theorem bareOf_call {f : Expr} {m : Meaning} (h : Means bindings f m) (v : Value) :
    bareOf bindings (.call f .hole) v = m.call v := by
  unfold bareOf
  rw [value_call h (within_bare bindings v), value_hole List.lookup_cons_self]
  rfl

theorem converts_call {f : Expr} {m : Meaning} (h : Means bindings f m) :
    Converts bindings (.call f .hole) where
  filled := by
    intro s within e
    unfold Expr.fill
    rw [h.closed, fill_hole, value_call h within]
    cases e.value s with
    | error fault => rfl
    | ok v => exact (bareOf_call h v).symm
  bound := by
    intro s within v found
    rw [value_call h within, value_hole found, bareOf_call h]
    rfl

/-- The type of a cast is there, and casts are those of the language. -/
structure Casts (bindings : Bindings) (type : String) : Prop where
  closed : ∀ r, Code.fill type r = type
  cast : bindings.thing? "cast" = some (.tool .cast)
  known : ∃ t, bindings.thing? type = some t
  global : isLocal type = false

theorem value_cast {type : String} {e : Expr} (h : Casts bindings type)
    (within : Within bindings s) : (Expr.cast type e).value s = e.value s := by
  obtain ⟨t, found⟩ := h.known
  unfold Expr.value
  rw [Expr.meaning, within.meaning rfl h.cast, within.meaning h.global found]
  cases e.meaning s with
  | error fault => rfl
  | ok m => cases m <;> rfl

/-- A cast leaves a bare value as it is. -/
theorem bareOf_cast {type : String} (h : Casts bindings type) (v : Value) :
    bareOf bindings (.cast type .hole) v = .ok v := by
  unfold bareOf
  rw [value_cast h (within_bare bindings v), value_hole List.lookup_cons_self]

theorem converts_cast {type : String} (h : Casts bindings type) :
    Converts bindings (.cast type .hole) where
  filled := by
    intro s within e
    unfold Expr.fill
    rw [h.closed, fill_hole, value_cast h within]
    cases e.value s with
    | error fault => rfl
    | ok v => exact (bareOf_cast h v).symm
  bound := by
    intro s within v found
    rw [value_cast h within, value_hole found, bareOf_cast h]

end QueryShape.Program
