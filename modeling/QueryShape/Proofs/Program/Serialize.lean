import QueryShape.Proofs.Generation.Needs
import QueryShape.Proofs.Program.Encode

/-!
# What serializers call

A serializer may call a function by its name: a converter, or what copies a list. The name stands in
a method whose variables, and the items of whose lists, may hide what it is meant to stand for.

* `value_of_no_call`: without such a call, a serializer sends a value as it should be sent.
* `value_of_resolves`: with one it does so as well, if the call resolves.
* `free_of_eq`, `makes_of_eq`: if the values with single items are sent as they should be, the call
  resolves.
-/

namespace QueryShape

namespace Code

/-! ## Names with members -/

/-- The name that a name with members begins with. -/
def Expr.root? : Expr → Option String
  | .name n => some n
  | .member e _ => e.root?
  | _ => none

theorem Expr.root?_fill (e r : Expr) : (e.fill r).root? =
    e.root?.bind fun root => if root = placeholder then r.root? else some root := by
  induction e with
  | name n =>
    by_cases hole : n = placeholder
    · rw [Expr.fill, if_pos hole, Expr.root?, Option.bind_some, if_pos hole]
    · rw [Expr.fill, if_neg hole, Expr.root?, Option.bind_some, if_neg hole]
  | member e n ih => exact ih
  | _ => rfl

theorem Expr.root?_foldl_member (e : Expr) (members : List String) :
    (members.foldl .member e).root? = e.root? := by
  induction members generalizing e with
  | nil => rfl
  | cons first rest ih => exact ih (.member e first)

theorem Expr.exists_root?_ofPath (path : String) : ∃ root, (ofPath path).root? = some root := by
  unfold ofPath
  split
  · exact ⟨_, root?_foldl_member _ _⟩
  · exact ⟨path, rfl⟩

end Code

namespace Program

open Code Document Generation Record

/-! ## Names in a scope -/

variable {s s' : Scope}

/-- What a variable hides can only be reached as a member of its value. -/
theorem meaning_of_hidden {e : Expr} {root : String} (isRoot : e.root? = some root)
    (hidden : s.Has root) {m : Meaning} (h : e.meaning s = .ok m) : ∃ v, m = .value v := by
  induction e generalizing m with
  | name n =>
    cases isRoot
    obtain ⟨v, bound⟩ := hidden
    unfold Expr.meaning Scope.meaning at h
    rw [bound] at h
    exact ⟨v, (Except.ok.inj h).symm⟩
  | member e n ih =>
    rw [Expr.meaning] at h
    obtain ⟨m', h', member⟩ := except_bind_eq_ok_iff.mp h
    obtain ⟨v, rfl⟩ := ih isRoot h'
    change Meaning.value <$> memberOf v n = _ at member
    cases found : memberOf v n with
    | error fault =>
      rw [found] at member
      cases member
    | ok u =>
      rw [found] at member
      exact ⟨u, (Except.ok.inj member).symm⟩
  | _ => cases isRoot

/-- What no variable hides stands for the same in all scopes of a module. -/
theorem meaning_of_free {e : Expr} {root : String} (isRoot : e.root? = some root)
    (free : s.locals.lookup root = none) (free' : s'.locals.lookup root = none)
    (same : s.bindings = s'.bindings) : e.meaning s = e.meaning s' := by
  induction e with
  | name n =>
    cases isRoot
    unfold Expr.meaning Scope.meaning
    rw [free, free', same]
  | member e n ih => rw [Expr.meaning, Expr.meaning, ih isRoot]
  | _ => cases isRoot

/-- A call on a value that is referred to. -/
theorem value_call_of_refers {f r : Expr} {v : Value} (refers : r.value s = .ok v) :
    (Expr.call f r).value s = (do (← f.meaning s).call v) := by
  obtain ⟨argument, found, value⟩ := except_bind_eq_ok_iff.mp refers
  cases argument with
  | value u =>
    cases value
    unfold Expr.value
    rw [Expr.meaning]
    cases f.meaning s with
    | error fault => rfl
    | ok m =>
      rw [found]
      change Except.bind (Except.bind (m.call v) _) _ = m.call v
      cases m.call v <;> rfl
  | _ => cases value

theorem value_send (e : Expr) (method : String) :
    (Expr.send e method).value s = (do sendValue s (← e.value s) method) := by
  unfold Expr.value
  rw [Expr.meaning]
  cases e.meaning s with
  | error fault => rfl
  | ok m =>
    cases m with
    | value v =>
      change Except.bind (Except.bind (sendValue s v method) _) _ = sendValue s v method
      cases sendValue s v method <;> rfl
    | _ => rfl

/-- What a variable hides cannot be called. -/
theorem value_call_ne_ok {f r : Expr} {root : String} {v out : Value}
    (isRoot : f.root? = some root) (hidden : s.Has root) (refers : r.value s = .ok v) :
    (Expr.call f r).value s ≠ .ok out := by
  intro h
  rw [value_call_of_refers refers] at h
  obtain ⟨m, found, called⟩ := except_bind_eq_ok_iff.mp h
  obtain ⟨u, rfl⟩ := meaning_of_hidden isRoot hidden found
  cases called

/-! ## What serializers call -/

/-- The layers around the innermost list, and the rest, if there is a list. -/
def innermostList : List Layer → Option (List Layer × List Layer)
  | [] => none
  | layer :: rest =>
    match innermostList rest with
    | some (around, inside) => some (layer :: around, inside)
    | none => if layer = .array then some ([], layer :: rest) else none

theorem array_notMem_of_innermostList {layers : List Layer} (h : innermostList layers = none) :
    .array ∉ layers := by
  induction layers with
  | nil => exact List.not_mem_nil
  | cons layer rest ih =>
    unfold innermostList at h
    split at h
    · cases h
    · next none =>
      split at h
      · cases h
      · next other => exact List.not_mem_cons_of_ne_of_not_mem (fun e => other e.symm) (ih none)

theorem eq_of_innermostList {layers around inside : List Layer}
    (h : innermostList layers = some (around, inside)) :
    layers = around ++ inside ∧ ∃ rest, inside = .array :: rest ∧ .array ∉ rest := by
  induction layers generalizing around with
  | nil => cases h
  | cons layer rest ih =>
    unfold innermostList at h
    split at h
    · next outer inner found =>
      cases h
      obtain ⟨rfl, isList⟩ := ih found
      exact ⟨rfl, isList⟩
    · next none =>
      split at h
      · next isArray =>
        cases h
        exact ⟨rfl, rest, by rw [isArray], array_notMem_of_innermostList none⟩
      · cases h

/-- A function that a serializer calls by its name, inside some of the layers of a type. It makes of
a value what the other layers make of it. -/
structure Call where
  function : Expr
  around : List Layer
  inside : List Layer

/-- What the serializer of values of a type calls by its name: a converter, or what copies the lists
of values that are sent as they are. -/
def callOf? (g : Setting) (t : TypeDefinition) (layers : List Layer) : Option Call :=
  match t.kind, g.converters.find? t.name with
  | .scalar, some c => some ⟨.member (.ofPath c.path) "serialize", layers, []⟩
  | .scalar, none => (innermostList layers).map fun l => ⟨.name "list", l.1, l.2⟩
  | _, _ => none

/-- What is sent for a bare value of a type: what its converter makes of it, the value itself, or
what the value knows itself to be sent as. -/
def sendBare (g : Setting) (bindings : Bindings) (t : TypeDefinition) (v : Value) :
    Except Fault Value :=
  match t.kind, g.converters.find? t.name with
  | .scalar, some c => c.serialize v
  | .scalar, none => .ok v
  | _, _ => sendValue (scopeOf bindings []) v "serialize"

/-- What is sent for a bare value of a type, given how input objects are sent. -/
def sendBareBy (g : Setting) (send : Value → Except Fault Value) (t : TypeDefinition) (v : Value) :
    Except Fault Value :=
  match t.kind, g.converters.find? t.name with
  | .scalar, some c => c.serialize v
  | .scalar, none => .ok v
  | _, _ => sendValue { bindings := [], send } v "serialize"

theorem sendBare_eq (g : Setting) (bindings : Bindings) (t : TypeDefinition) :
    sendBare g bindings t = sendBareBy g (send bindings) t := rfl

/-- How a value is sent depends on how input objects are. -/
theorem sendBareBy_of_class {g : Setting} {t : TypeDefinition}
    (kind : t.kind = .enum ∨ t.kind = .input) (s : Scope) (v : Value) :
    sendBareBy g s.send t v = sendValue s v "serialize" := by
  unfold sendBareBy
  rcases kind with kind | kind
  all_goals
    rw [kind]
    rfl

variable {layers : List Layer} {bare : Value → Except Fault Value} {fits : Value → Prop}

/-- Without a list there is nothing to copy. -/
theorem toExpr_build_hole (plain : .array ∉ layers) (stem : String) (number : Nat) :
    (Encoder.build .hole stem number layers).toExpr = .hole := by
  induction layers with
  | nil => rfl
  | cons layer rest ih =>
    cases layer with
    | nilable =>
      rw [Encoder.build, Encoder.toExpr, ih fun mem => plain (List.mem_cons_of_mem _ mem)]
      rfl
    | array => exact absurd List.mem_cons_self plain

/-- The innermost list is copied. -/
theorem toExpr_build_list {rest : List Layer} (plain : .array ∉ rest) (around : List Layer)
    (stem : String) (number : Nat) :
    (Encoder.build .hole stem number (around ++ .array :: rest)).toExpr =
      (Encoder.build (.call (.name "list") .hole) stem number around).toExpr := by
  induction around generalizing number with
  | nil =>
    rw [List.nil_append, Encoder.build, Encoder.build, Encoder.toExpr, Encoder.toExpr,
      toExpr_build_hole plain]
    rfl
  | cons layer around ih =>
    cases layer with
    | nilable =>
      rw [List.cons_append, Encoder.build, Encoder.build, Encoder.toExpr, Encoder.toExpr, ih]
    | array =>
      rw [List.cons_append, Encoder.build, Encoder.build, Encoder.toExpr, Encoder.toExpr, ih]

theorem encode_append (around inside : List Layer) :
    encode bare (around ++ inside) = encode (encode bare inside) around := by
  induction around with
  | nil => rfl
  | cons layer around ih =>
    funext v
    cases layer with
    | nilable => rw [List.cons_append, encode, encode, ih]
    | array => rw [List.cons_append, encode, encode, ih]

theorem conforms_append (around inside : List Layer) (v : Value) :
    Conforms fits (around ++ inside) v ↔ Conforms (Conforms fits inside) around v := by
  induction around generalizing v with
  | nil => rfl
  | cons layer around ih =>
    cases layer with
    | nilable => exact or_congr_right (ih v)
    | array =>
      exact exists_congr fun items => and_congr_right' (forall₂_congr fun i _ => ih i)

theorem encode_plain (plain : .array ∉ layers) (v : Value) : encode .ok layers v = .ok v := by
  induction layers with
  | nil => rfl
  | cons layer rest ih =>
    cases layer with
    | nilable =>
      rw [encode, ih fun mem => plain (List.mem_cons_of_mem _ mem)]
      cases v <;> rfl
    | array => exact absurd List.mem_cons_self plain

/-- How the values of a type are sent: by a converter, as they are, or as they know themselves. -/
theorem template_of_sentAs {g : Setting} {t : TypeDefinition} {c : Conversion}
    (sent : sentAs g t = .ok c) :
    (t.kind = .scalar ∧ ∃ converter, g.converters.find? t.name = some converter ∧
      c.template = .call (.member (.ofPath converter.path) "serialize") .hole) ∨
    (t.kind = .scalar ∧ g.converters.find? t.name = none ∧ c.template = .hole) ∨
    ((t.kind = .enum ∨ t.kind = .input) ∧ c.template = .send .hole "serialize") := by
  rcases kind_of_sentAs sent with kind | kind
  · rw [sentAs_of_scalar kind] at sent
    unfold scalarInput at sent
    cases found : g.converters.find? t.name with
    | none =>
      rw [found] at sent
      cases sent
      exact Or.inr (Or.inl ⟨kind, rfl, rfl⟩)
    | some converter =>
      rw [found] at sent
      dsimp only at sent
      unfold convertedBy at sent
      split at sent
      · cases sent
      · cases sent
        exact Or.inl ⟨kind, converter, rfl, rfl⟩
  · rw [sentAs_of_class kind] at sent
    cases sent
    exact Or.inr (Or.inr ⟨kind, rfl⟩)

variable {g : Setting} {t : TypeDefinition} {c : Conversion}

/-- A serializer that calls a function by its name calls it on what stands inside some of the
layers. -/
theorem toExpr_of_call (sent : sentAs g t = .ok c) {call : Call}
    (h : callOf? g t layers = some call) (stem : String) :
    layers = call.around ++ call.inside ∧ (∃ root, call.function.root? = some root) ∧
      (Encoder.ofLayers c.template stem layers).toExpr =
        (Encoder.build (.call call.function .hole) stem 1 call.around).toExpr := by
  unfold callOf? at h
  rcases template_of_sentAs sent with ⟨kind, converter, found, template⟩ | ⟨kind, found, template⟩ |
    ⟨kind, template⟩
  · rw [kind, found] at h
    cases h
    rw [template]
    exact ⟨(List.append_nil _).symm, Expr.exists_root?_ofPath converter.path, rfl⟩
  · rw [kind, found] at h
    obtain ⟨⟨around, inside⟩, split, rfl⟩ := Option.map_eq_some_iff.mp h
    obtain ⟨rfl, rest, rfl, plain⟩ := eq_of_innermostList split
    rw [template]
    exact ⟨rfl, ⟨"list", rfl⟩, toExpr_build_list plain around stem 1⟩
  · rcases kind with kind | kind
    all_goals
      rw [kind] at h
      cases h

/-- A serializer that calls nothing by a name sends a value as it should be sent, in whatever
scope. -/
theorem value_of_no_call (sent : sentAs g t = .ok c) (h : callOf? g t layers = none)
    {stem : String} (isWord : stem.toList.all Letter.isWord = true) {s : Scope} {r : Expr}
    {v : Value} (refers : r.value s = .ok v) (conforms : Conforms fits layers v) :
    ((Encoder.ofLayers c.template stem layers).toExpr.fill r).value s =
      encode (sendBareBy g s.send t) layers v := by
  unfold callOf? at h
  rcases template_of_sentAs sent with ⟨kind, converter, found, template⟩ | ⟨kind, found, template⟩ |
    ⟨kind, template⟩
  · rw [kind, found] at h
    cases h
  · rw [kind, found] at h
    have plain := array_notMem_of_innermostList (Option.map_eq_none_iff.mp h)
    have bare : sendBareBy g s.send t = .ok := by
      funext w
      unfold sendBareBy
      rw [kind, found]
    rw [template, Encoder.ofLayers, toExpr_build_hole plain, fill_hole, refers, bare,
      encode_plain plain]
  · rw [template, Encoder.ofLayers, value_toExpr_build rfl isWord 1 layers refers]
    have inside : Inside s s (itemNames stem 1 layers ++ s.locals.map (·.1)) :=
      ⟨rfl, rfl, fun l hl => List.mem_append_right _ (List.mem_map_of_mem hl)⟩
    refine run_eq_encode 1 layers (fun s' w inside' refers' _ => ?_)
      (fun item hi => List.mem_append_left _ hi) inside refers conforms
    have fills (r : String) : fill "serialize" r = "serialize" := fill_of_word rfl (by decide) r
    rw [Expr.fill, fill_hole, fills, value_send, refers', ← inside'.send,
      sendBareBy_of_class kind s' w]
    rfl

/-! ## Hidden functions -/

/-- The function as it is written for the values that it is called on, which have a name inside the
layers around them. -/
def Call.filled (call : Call) (stem : String) : Expr :=
  call.function.fill (.name (innerName stem 1 call.around stem))

/-- A function that is called by its name in a method with variables stands there for what it stands
for in the module, since no variable and no name of an item hides it, and makes of the values that
it is called on what should be sent for them. -/
structure Resolves (method : Scope) (taken : List String) (stem : String) (call : Call)
    (fits : Value → Prop) (bare : Value → Except Fault Value) : Prop where
  free : ∀ root, (call.filled stem).root? = some root →
    root ∉ taken ∧ root ∉ itemNames stem 1 call.around
  means : ∀ v, Arrives (Conforms fits call.inside) call.around v →
    (do (← (call.filled stem).meaning method).call v) = encode bare call.inside v

/-- The function as it is written for the values that it is called on, given how the value around
them is referred to. -/
def Call.filledFrom (call : Call) (stem : String) (r : Expr) : Expr :=
  call.function.fill (innerReference stem 1 call.around r)

theorem Call.filledFrom_name (call : Call) (stem : String) :
    call.filledFrom stem (.name stem) = call.filled stem := by
  unfold Call.filledFrom Call.filled
  rw [innerReference_name]

/-- Neither a variable nor the name of an item hides the function that is called. -/
def Call.IsFree (call : Call) (taken : List String) (stem : String) (r : Expr) : Prop :=
  ∀ root, (call.filledFrom stem r).root? = some root →
    root ∉ taken ∧ root ∉ itemNames stem 1 call.around

/-- The function makes of a value that it is called on what should be sent for it. -/
def Call.Makes (call : Call) (method : Scope) (stem : String) (r : Expr)
    (bare : Value → Except Fault Value) (w : Value) : Prop :=
  (do (← (call.filledFrom stem r).meaning method).call w) = encode bare call.inside w

variable {method s : Scope} {taken : List String} {stem : String} {r : Expr} {call : Call}

theorem Resolves.isFree (h : Resolves method taken stem call fits bare) :
    call.IsFree taken stem (.name stem) := by
  intro root isRoot
  rw [Call.filledFrom_name] at isRoot
  exact h.free root isRoot

theorem Resolves.makes (h : Resolves method taken stem call fits bare) (v : Value)
    (arrives : Arrives (Conforms fits call.inside) call.around v) :
    call.Makes method stem (.name stem) bare v := by
  unfold Call.Makes
  rw [Call.filledFrom_name]
  exact h.means v arrives

theorem Resolves.of_free (free : call.IsFree taken stem (.name stem))
    (makes : ∀ v, Arrives (Conforms fits call.inside) call.around v →
      call.Makes method stem (.name stem) bare v) : Resolves method taken stem call fits bare := by
  unfold Call.IsFree Call.Makes at *
  rw [Call.filledFrom_name] at *
  exact ⟨free, makes⟩

theorem isRoot_innerReference (h : ∃ root, r.root? = some root) (stem : String) (number : Nat)
    (layers : List Layer) : ∃ root, (innerReference stem number layers r).root? = some root := by
  induction layers generalizing number r with
  | nil => exact h
  | cons layer rest ih =>
    cases layer with
    | nilable => exact ih h number
    | array => exact ih ⟨_, rfl⟩ (number + 1)

theorem isRoot_filledFrom (h : ∃ root, call.function.root? = some root)
    (isReference : ∃ root, r.root? = some root) (stem : String) :
    ∃ root, (call.filledFrom stem r).root? = some root := by
  obtain ⟨root, isRoot⟩ := h
  unfold Call.filledFrom
  rw [Expr.root?_fill, isRoot, Option.bind_some]
  split
  · exact isRoot_innerReference isReference stem 1 call.around
  · exact ⟨root, rfl⟩

theorem lookup_eq_none_of_notMem {root : String} (h : ∀ l ∈ s.locals, l.1 ∈ taken)
    (free : root ∉ taken) : s.locals.lookup root = none := by
  rw [List.lookup_eq_none_iff]
  intro l hl
  rw [bne_iff_ne]
  rintro rfl
  exact free (h l hl)

/-- What no variable hides is called as in the module. -/
theorem value_call_of_free {f : Expr} {root : String} {w : Value} {names : List String}
    (isRoot : f.root? = some root) (free : root ∉ names) (inside : Inside method s names)
    (nowhere : method.locals = []) (refers : r.value s = .ok w) :
    (Expr.call f r).value s = (do (← f.meaning method).call w) := by
  have unbound : method.locals.lookup root = none := by rw [nowhere]; rfl
  rw [value_call_of_refers refers, meaning_of_free isRoot
    (lookup_eq_none_of_notMem inside.locals free) unbound inside.bindings]

/-- A serializer sends a value as it should be sent, if what it calls resolves. -/
theorem value_of_resolves (free : call.IsFree taken stem r)
    (makes : ∀ v, Arrives (Conforms fits call.inside) call.around v →
      call.Makes method stem r bare v)
    (isRoot : ∃ root, call.function.root? = some root) (isReference : ∃ root, r.root? = some root)
    (isWord : stem.toList.all Letter.isWord = true) (nowhere : method.locals = [])
    (inside : Inside method s taken) {v : Value} (refers : r.value s = .ok v)
    (conforms : Conforms fits (call.around ++ call.inside) v) :
    ((Encoder.build (.call call.function .hole) stem 1 call.around).toExpr.fill r).value s =
      encode bare (call.around ++ call.inside) v := by
  obtain ⟨root, isRoot⟩ := isRoot_filledFrom isRoot isReference stem
  rw [value_toExpr_build rfl isWord 1 call.around refers, encode_append]
  have free : root ∉ taken ++ itemNames stem 1 call.around := fun mem =>
    (List.mem_append.mp mem).elim (free root isRoot).1 (free root isRoot).2
  have insideAll : Inside method s (taken ++ itemNames stem 1 call.around) :=
    ⟨inside.bindings, inside.send, fun l hl => List.mem_append_left _ (inside.locals l hl)⟩
  refine run_eq_encode 1 call.around (fun s' w inside' refers' arrives => ?_)
    (fun item hi => List.mem_append_right _ hi) insideAll refers
    ((conforms_append _ _ v).mp conforms)
  rw [Expr.fill, fill_hole]
  exact (value_call_of_free isRoot free inside' nowhere refers').trans (makes w arrives)

theorem inside_nestScope {names : List String} (inside : Inside method s names) (number : Nat)
    (layers : List Layer) (w : Value)
    (items : ∀ item ∈ itemNames stem number layers, item ∈ names) :
    Inside method (nestScope stem number layers s w) names := by
  induction layers generalizing number s with
  | nil => exact inside
  | cons layer rest ih =>
    cases layer with
    | nilable => exact ih inside number items
    | array =>
      exact ih (inside.with (items _ List.mem_cons_self) _) (number + 1)
        fun item hi => items item (List.mem_cons_of_mem _ hi)

/-- The call on the bare value of a value with single items is that of the module, if nothing hides
what is called. -/
theorem value_call_of_nestScope (isRoot : ∃ root, call.function.root? = some root)
    (isReference : ∃ root, r.root? = some root) {w : Value}
    (nowhere : method.locals = []) (inside : Inside method s taken)
    (refers : r.value s = .ok (nest call.around w)) (free : call.IsFree taken stem r) :
    (Expr.call (call.filledFrom stem r) (innerReference stem 1 call.around r)).value
        (nestScope stem 1 call.around s w) =
      (do (← (call.filledFrom stem r).meaning method).call w) := by
  obtain ⟨root, isRoot⟩ := isRoot_filledFrom isRoot isReference stem
  have notMem : root ∉ taken ++ itemNames stem 1 call.around := fun mem =>
    (List.mem_append.mp mem).elim (free root isRoot).1 (free root isRoot).2
  have within : Inside method s (taken ++ itemNames stem 1 call.around) :=
    ⟨inside.bindings, inside.send, fun l hl => List.mem_append_left _ (inside.locals l hl)⟩
  have deep := inside_nestScope within 1 call.around w fun item hi => List.mem_append_right _ hi
  exact value_call_of_free isRoot notMem deep nowhere (value_nestScope 1 call.around refers)

/-- A value with single items is sent as it should be, if the call on the bare value is. -/
theorem value_of_nest (isWord : stem.toList.all Letter.isWord = true)
    (isRoot : ∃ root, call.function.root? = some root) (isReference : ∃ root, r.root? = some root)
    {w : Value} (arrives : Arrives (Conforms fits call.inside) call.around w)
    (nowhere : method.locals = []) (inside : Inside method s taken)
    (refers : r.value s = .ok (nest call.around w)) (free : call.IsFree taken stem r)
    (makes : call.Makes method stem r bare w) :
    ((Encoder.build (.call call.function .hole) stem 1 call.around).toExpr.fill r).value s =
      encode bare (call.around ++ call.inside) (nest call.around w) := by
  rw [value_toExpr_build rfl isWord 1 call.around refers, run_nest 1 arrives, encode_append,
    encode_nest arrives, Expr.fill, fill_hole]
  exact congrArg (nest call.around <$> ·)
    ((value_call_of_nestScope isRoot isReference nowhere inside refers free).trans makes)

/-- The call on the bare value of a value with single items, if that is sent as it should be. -/
theorem value_call_of_nest (isWord : stem.toList.all Letter.isWord = true) {w : Value}
    (arrives : Arrives (Conforms fits call.inside) call.around w)
    (refers : r.value s = .ok (nest call.around w))
    (eq : ((Encoder.build (.call call.function .hole) stem 1 call.around).toExpr.fill r).value s =
      encode bare (call.around ++ call.inside) (nest call.around w)) :
    (Expr.call (call.filledFrom stem r) (innerReference stem 1 call.around r)).value
      (nestScope stem 1 call.around s w) = encode bare call.inside w := by
  rw [value_toExpr_build rfl isWord 1 call.around refers, run_nest 1 arrives, encode_append,
    encode_nest arrives, Expr.fill, fill_hole] at eq
  exact map_injective (nest_injective call.around) eq

/-- **A function that is called is not hidden**, if a value is sent that it can be called on. -/
theorem free_of_eq (isWord : stem.toList.all Letter.isWord = true) {w out : Value}
    (arrives : Arrives (Conforms fits call.inside) call.around w)
    (has : ∀ name ∈ taken, s.Has name) (refers : r.value s = .ok (nest call.around w))
    (eq : ((Encoder.build (.call call.function .hole) stem 1 call.around).toExpr.fill r).value s =
      encode bare (call.around ++ call.inside) (nest call.around w))
    (ok : encode bare call.inside w = .ok out) : call.IsFree taken stem r := by
  intro root isRoot
  have called := value_call_of_nest isWord arrives refers eq
  rw [ok] at called
  have free (h : s.Has root ∨ root ∈ itemNames stem 1 call.around) : False :=
    value_call_ne_ok isRoot (has_nestScope 1 call.around s w h)
      (value_nestScope 1 call.around refers) called
  exact ⟨fun mem => free (Or.inl (has root mem)), fun mem => free (Or.inr mem)⟩

/-- What is called on a value makes of it what should be sent, if that is so where it is called. -/
theorem makes_of_eq (isWord : stem.toList.all Letter.isWord = true) {w : Value}
    (isRoot : ∃ root, call.function.root? = some root) (isReference : ∃ root, r.root? = some root)
    (arrives : Arrives (Conforms fits call.inside) call.around w)
    (nowhere : method.locals = []) (inside : Inside method s taken)
    (refers : r.value s = .ok (nest call.around w)) (free : call.IsFree taken stem r)
    (eq : ((Encoder.build (.call call.function .hole) stem 1 call.around).toExpr.fill r).value s =
      encode bare (call.around ++ call.inside) (nest call.around w)) :
    call.Makes method stem r bare w := by
  unfold Call.Makes
  rw [← value_call_of_nestScope isRoot isReference nowhere inside refers free]
  exact value_call_of_nest isWord arrives refers eq

end Program

end QueryShape
