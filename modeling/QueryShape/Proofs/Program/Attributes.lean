import QueryShape.Proofs.Generation.Independent
import QueryShape.Proofs.Generation.Traced
import QueryShape.Proofs.Program.Trees
import QueryShape.Proofs.Program.Variables

/-!
# What classes of input types make of attributes

The method that sends an input object refers to its attributes as members of the object, and sends
each by the serializer of its parameter. A name in the method is that of the object, of an item of a
list, or of the module.

* `IsObject.sent_eq`: an attribute is sent as it should be, if what its serializer calls resolves.
* `hasInputs_of_loaded`: a module that has been run has the classes of its input types.
-/

namespace QueryShape.Program

open Code Document Exchange Generation Record

variable {g : Setting} {s : Session} {bindings : Bindings}
  {fits accepts : TypeDefinition → Value → Prop} {layers : List Layer} {t u : TypeDefinition}
  {v w : Value}

/-! ## Attributes -/

/-- How the code of an input class refers to an attribute. -/
def ownMember (name : String) : Expr := .member (.name "self") name

/-- A function that a serializer of an input class calls by its name is not hidden, and makes of the
values that it is called on what should be sent for them. -/
structure ResolvesInside (g : Setting) (bindings : Bindings) (fits : Value → Prop)
    (u : TypeDefinition) (stem : String) (call : Call) : Prop where
  free : call.IsFree ["self"] stem (ownMember stem)
  makes : ∀ v, Arrives (Conforms fits call.inside) call.around v →
    call.Makes (scopeOf bindings []) stem (ownMember stem) (sendBare g bindings u) v

/-- What the serializers of the class of an input type call by its name stands there for what it is
meant to. -/
def CallsResolveInside (g : Setting) (bindings : Bindings)
    (fits : TypeDefinition → Value → Prop) (t : TypeDefinition) : Prop :=
  ∀ field ∈ t.inputFields, ∀ u, g.schema.type? field.type.bareName = some u →
    ∀ call, callOf? g u (Code.layers field.type) = some call →
      ResolvesInside g bindings (fits u) u (parameterName field.name) call

/-- The scope of the method that sends an input object, of whose attributes at most the given number
of input objects are inside each other. -/
def objectScope (bindings : Bindings) (depth : Nat) (object : Value) : Scope where
  locals := [("self", object)]
  bindings := bindings
  send := sendWithin bindings depth

/-- What the module has does not depend on how input objects are sent. -/
theorem makes_congr {call : Call} {stem : String} {r : Expr} {bare : Value → Except Fault Value}
    (isRoot : ∃ root, call.function.root? = some root) (isReference : ∃ root, r.root? = some root)
    (send send' : Value → Except Fault Value) (w : Value) :
    call.Makes { bindings, send } stem r bare w ↔
      call.Makes { bindings, send := send' } stem r bare w := by
  obtain ⟨root, isRoot⟩ := isRoot_filledFrom isRoot isReference stem
  have same : (call.filledFrom stem r).meaning { bindings, send } =
      (call.filledFrom stem r).meaning { bindings, send := send' } :=
    meaning_of_free isRoot rfl rfl rfl
  unfold Call.Makes
  rw [same]

/-- The parameter of a field is made of the field, and of what sends the values of its type. -/
theorem exists_conversion {g : Setting} {field : InputValue} {p : Parameter}
    (h : IsParameterOfField g field p) : ∃ waiting u c,
      g.schema.type? field.type.bareName = some u ∧ sentAs g u = .ok c ∧
      p = parameterOf waiting (parameterName field.name) field.name field.type c := by
  obtain ⟨-, waiting, parameter⟩ := h
  unfold parameterFor at parameter
  obtain ⟨u, named, parameter⟩ := except_bind_eq_ok_iff.mp parameter
  obtain ⟨c, sent, parameter⟩ := except_bind_eq_ok_iff.mp parameter
  exact ⟨waiting, u, c, (type?_of_typeNamed named).1, sent, (Except.ok.inj parameter).symm⟩

theorem kind_of_callOf? {call : Call} (h : callOf? g t layers = some call) : t.kind = .scalar := by
  unfold callOf? at h
  split at h
  · assumption
  · assumption
  · cases h

/-- What is to be known of an object to send it: its attributes are those of the class. -/
structure IsObject (g : Setting) (t : TypeDefinition) (i : Input) (val : String → Value)
    (v : Value) : Prop where
  describes : DescribesInput g t i
  distinct : (t.inputFields.map fun field =>
    nameInside i.name (parameterName field.name)).Nodup
  named : ∀ field ∈ t.inputFields, IsName field.name
  eq : v = .input i.name (attributesOf t i.name val)

namespace IsObject

variable {i : Input} {val : String → Value} {field : InputValue} {p : Parameter}

theorem refers (h : IsObject g t i val v) (mem : field ∈ t.inputFields) (depth : Nat) :
    (ownMember (parameterName field.name)).value (objectScope bindings depth v) =
      .ok (val field.name) := by
  have found : ((attributesOf t i.name val).lookup
        (nameInside i.name (parameterName field.name))) = some (val field.name) :=
    lookup_map_of_nodup (fun field : InputValue => nameInside i.name (parameterName field.name))
      (fun field => val field.name) h.distinct mem
  have member : memberOf v (parameterName field.name) = .ok (val field.name) := by
    rw [h.eq]
    change Option.elim (List.lookup (nameInside i.name (parameterName field.name)) _) _ _ = _
    rw [found]
    rfl
  have self : (Expr.name "self").meaning (objectScope bindings depth v) = .ok (.value v) := rfl
  unfold ownMember Expr.value Expr.meaning
  rw [self]
  change Except.bind (Meaning.value <$> memberOf v (parameterName field.name)) _ = _
  rw [member]
  rfl

theorem inside (v : Value) (depth : Nat) :
    Inside { bindings, send := sendWithin bindings depth } (objectScope bindings depth v)
      ["self"] where
  bindings := rfl
  send := rfl
  locals := fun _ hl => List.mem_singleton.mp hl ▸ List.mem_cons_self

theorem sendWithin_eq_sentEntries (h : IsObject g t i val v) {base : Thing}
    (bound : bindings.lookup i.name = some (.generated (.input i) base)) (depth : Nat) :
    sendWithin bindings (depth + 1) v = (do
      return .dict (present (← sentEntries (objectScope bindings depth v)
        (fun p => ownMember p.name) i.arguments))) := by
  rw [h.eq]
  unfold sendWithin
  rw [bound]
  rfl

/-- **An attribute is sent as it should be**, if what its serializer calls resolves. -/
theorem sent_eq (h : IsObject g t i val v) (mem : field ∈ t.inputFields)
    (isParameter : IsParameterOfField g field p)
    (found : g.schema.type? field.type.bareName = some u)
    (resolves : ∀ call, callOf? g u (Code.layers field.type) = some call →
      ResolvesInside g bindings (fits u) u (parameterName field.name) call)
    (of : IsValueOf g s fits (Code.layers field.type) u (val field.name)) (depth : Nat) :
    p.graphqlName = field.name ∧
      (p.serializer.fill (ownMember p.name)).value (objectScope bindings depth v) =
        encode (sendBareBy g (sendWithin bindings depth) u) (Code.layers field.type)
          (val field.name) := by
  obtain ⟨waiting, u', c, found', sent, rfl⟩ := exists_conversion isParameter
  cases found.symm.trans found'
  have isWord := isWord_parameterName (h.named field mem)
  have refers : (ownMember (parameterName field.name)).value (objectScope bindings depth v) =
      .ok (val field.name) := h.refers mem depth
  refine ⟨rfl, ?_⟩
  change ((Encoder.ofLayers c.template (parameterName field.name)
    (Code.layers field.type)).toExpr.fill (ownMember (parameterName field.name))).value _ = _
  cases calls : callOf? g u (Code.layers field.type) with
  | none => exact value_of_no_call sent calls isWord refers (isValueOf_iff_conforms.mp of)
  | some call =>
    have kind := kind_of_callOf? calls
    obtain ⟨layers_eq, isRoot, eq⟩ := toExpr_of_call sent calls (parameterName field.name)
    have conforms := (isValueOf_scalar_iff kind).mp of
    rw [layers_eq] at conforms
    rw [eq, layers_eq, sendBareBy_scalar kind _ (send bindings), ← sendBare_eq]
    refine value_of_resolves (resolves call calls).free (fun x arrives => ?_) isRoot ⟨_, rfl⟩ isWord
      rfl (inside v depth) refers conforms
    exact (makes_congr isRoot ⟨_, rfl⟩ (send bindings) _ x).mp
      ((resolves call calls).makes x arrives)

/-- **An object is sent field by field**, if what the serializers of its class call resolves. -/
theorem sendWithin_eq (h : IsObject g t i val v) {base : Thing}
    (bound : bindings.lookup i.name = some (.generated (.input i) base))
    {type : InputValue → TypeDefinition}
    (found : ∀ field ∈ t.inputFields, g.schema.type? field.type.bareName = some (type field))
    (resolve : CallsResolveInside g bindings fits t)
    (each : ∀ field ∈ t.inputFields,
      IsValueOf g s fits (Code.layers field.type) (type field) (val field.name)) (depth : Nat) :
    sendWithin bindings (depth + 1) v = (do
      let entries ← t.inputFields.mapM fun field => do
        return (field.name, ← encode (sendBareBy g (sendWithin bindings depth) (type field))
          (Code.layers field.type) (val field.name))
      return .dict (present (Json.distinctFields entries))) := by
  rw [h.sendWithin_eq_sentEntries bound]
  have entries : (i.arguments.mapM fun p => do
      return (p.graphqlName, ← (p.serializer.fill (ownMember p.name)).value
        (objectScope bindings depth v))) =
      t.inputFields.mapM fun field => do
        return (field.name, ← encode (sendBareBy g (sendWithin bindings depth) (type field))
          (Code.layers field.type) (val field.name)) :=
    mapM_congr_forall₂ h.describes.arguments fun field mem p isParameter => by
      obtain ⟨name, sent⟩ := h.sent_eq mem isParameter (found field mem)
        (resolve field mem _ (found field mem)) (each field mem) depth
      rw [name, sent]
  unfold sentEntries
  rw [entries]
  simp only [bind_assoc, pure_bind]

end IsObject

/-- What the module has for the classes of input types. -/
structure HasInputs (g : Setting) (s : Session) (bindings : Bindings) : Prop where
  described : ∀ i, .input i ∈ s.registry.records → ∃ t, DescribesInput g t i
  bound : ∀ i, .input i ∈ s.registry.records →
    ∃ base, bindings.lookup i.name = some (.generated (.input i) base)
  isObject : ∀ i t val, .input i ∈ s.registry.records → DescribesInput g t i →
    IsObject g t i val (.input i.name (attributesOf t i.name val))

/-- The classes of input types are those of the schema. -/
theorem describesInput_after (g : Generator) (ds : List Declaration) {i : Input}
    (registered : .input i ∈ (after {} (callsOf g ds)).registry.records) :
    ∃ t, DescribesInput g.toSetting t i := by
  obtain ⟨g', d, s, call, makes⟩ := exists_makes_after _ registered nofun
  obtain ⟨d', -, eq⟩ := List.mem_map.mp call
  cases eq
  cases makes with
  | input pending found kind parameters =>
    refine ⟨_, found, kind, rfl, parameters.imp fun field p isParameter => ?_⟩
    obtain ⟨free, u, c, isType, sent, -, rfl⟩ := isParameter
    exact ⟨free, _, parameterFor_eq isType sent⟩

/-- The module that has been run has the classes. -/
theorem hasInputs_of_loaded {g : Generator} {ds : List Declaration}
    (loaded : Loaded (callsOf g ds) bindings)
    (named : ∀ t ∈ g.schema.types, ∀ field ∈ t.inputFields, IsName field.name) :
    HasInputs g.toSetting (after {} (callsOf g ds)) bindings where
  described := fun _ registered => describesInput_after g ds registered
  bound := fun i registered => by
    obtain ⟨base, bound, -⟩ := loaded.made _ registered
    exact ⟨base, bound⟩
  isObject := fun i t val registered describes => by
    refine ⟨describes, ?_, named t (List.mem_of_find?_eq_some describes.found), rfl⟩
    have distinct : (i.arguments.map (passedName i.name)).Nodup :=
      loaded.distinct (.input i) registered
    have same : i.arguments.map (passedName i.name) =
        t.inputFields.map fun field => nameInside i.name (parameterName field.name) :=
      map_eq_of_forall₂ describes.arguments fun field p isParameter => by
        obtain ⟨_, _, _, -, -, rfl⟩ := exists_conversion isParameter
        rfl
    rwa [same] at distinct

end QueryShape.Program
