import QueryShape.Proofs.Code.Layers
import QueryShape.Proofs.Generation.Abandoned
import QueryShape.Proofs.Program.Serialize

/-!
# Trees of input objects

An input object is sent as an object with an entry for each of its attributes that is not nothing,
under the name of the field. What is inside it is sent as its type says: lists item by item, members
of enums as their values, and input objects as objects in turn.

* `IsValueOf`: a tree of input objects of a type.
* `IsSentAs`, `IsAccepted`: what a tree is to be sent as, and what a type accepts.
-/

namespace QueryShape.Program

open Code Document Exchange Generation Record

/-! ## Trees -/

/-- The fields of an input type whose attributes are something, given the attributes. -/
def given (t : TypeDefinition) (val : String → Value) : List InputValue :=
  t.inputFields.filter fun field => !(val field.name).isNothing

/-- The attributes of an object of an input type, by the names of the fields. -/
def attributesOf (t : TypeDefinition) (className : String) (val : String → Value) :
    List (String × Value) :=
  t.inputFields.map fun field => (nameInside className (parameterName field.name), val field.name)

/-- The value is one of the type, under the layers: that of a scalar fits, that of an enum is a
member of its class, and that of an input type an object of its class, with attributes that are
values of the fields. One attribute is something if that is what the type asks for. -/
inductive IsValueOf (g : Setting) (s : Session) (fits : TypeDefinition → Value → Prop) :
    List Layer → TypeDefinition → Value → Prop
  | nothing {rest : List Layer} {t : TypeDefinition} :
      IsValueOf g s fits (.nilable :: rest) t .nothing
  | something {rest : List Layer} {t : TypeDefinition} {v : Value}
      (of : IsValueOf g s fits rest t v) : IsValueOf g s fits (.nilable :: rest) t v
  | list {rest : List Layer} {t : TypeDefinition} {items : List Value}
      (each : ∀ i ∈ items, IsValueOf g s fits rest t i) :
      IsValueOf g s fits (.array :: rest) t (.list items)
  | scalar {t : TypeDefinition} {v : Value} (kind : t.kind = .scalar) (fit : fits t v) :
      IsValueOf g s fits [] t v
  | enum {t : TypeDefinition} {member text : String} (kind : t.kind = .enum)
      (mem : text ∈ t.values) :
      IsValueOf g s fits [] t (.enumMember (Naming.typeClassName t.name) member text)
  | object {t : TypeDefinition} {i : Input} (registered : .input i ∈ s.registry.records)
      (describes : DescribesInput g t i) (val : String → Value) (type : InputValue → TypeDefinition)
      (found : ∀ field ∈ t.inputFields, g.schema.type? field.type.bareName = some (type field))
      (each : ∀ field ∈ t.inputFields,
        IsValueOf g s fits (layers field.type) (type field) (val field.name))
      (one : t.isOneOf = true → (given t val).length = 1) :
      IsValueOf g s fits [] t (.input i.name (attributesOf t i.name val))

/-- **What a tree is to be sent as**: nothing and lists stay in place, and an object has an entry
for each field whose attribute is not nothing, under the name of the field and in their order. -/
inductive IsSentAs (g : Setting) : List Layer → TypeDefinition → Value → Value → Prop
  | nothing {rest : List Layer} {t : TypeDefinition} :
      IsSentAs g (.nilable :: rest) t .nothing .nothing
  | something {rest : List Layer} {t : TypeDefinition} {v w : Value} (there : v.isNothing = false)
      (of : IsSentAs g rest t v w) : IsSentAs g (.nilable :: rest) t v w
  | list {rest : List Layer} {t : TypeDefinition} {items sent : List Value}
      (length : sent.length = items.length)
      (each : ∀ (n : Nat) v w, items[n]? = some v → sent[n]? = some w → IsSentAs g rest t v w) :
      IsSentAs g (.array :: rest) t (.list items) (.list sent)
  | converted {t : TypeDefinition} {c : Converter} {v w : Value} (kind : t.kind = .scalar)
      (picked : g.converters.find? t.name = some c) (sent : c.serialize v = .ok w) :
      IsSentAs g [] t v w
  | plain {t : TypeDefinition} {v : Value} (kind : t.kind = .scalar)
      (picked : g.converters.find? t.name = none) : IsSentAs g [] t v v
  | enum {t : TypeDefinition} {className member text : String} (kind : t.kind = .enum) :
      IsSentAs g [] t (.enumMember className member text) (.text text)
  | object {t : TypeDefinition} {className : String} {val : String → Value}
      {type : InputValue → TypeDefinition} {entries : List (String × Value)}
      (kind : t.kind = .input)
      (found : ∀ field ∈ t.inputFields, g.schema.type? field.type.bareName = some (type field))
      (keys : entries.map (·.1) = (given t val).map (·.name))
      (each : ∀ field ∈ t.inputFields, ∀ w, (field.name, w) ∈ entries →
        IsSentAs g (layers field.type) (type field) (val field.name) w) :
      IsSentAs g [] t (.input className (attributesOf t className val)) (.dict entries)

/-- **What a type accepts**, under the layers. An object has entries for fields only, at most one
for each, and one for each that is marked; it has one entry if that is what the type asks for. -/
inductive IsAccepted (g : Setting) (accepts : TypeDefinition → Value → Prop) :
    List Layer → TypeDefinition → Value → Prop
  | nothing {rest : List Layer} {t : TypeDefinition} :
      IsAccepted g accepts (.nilable :: rest) t .nothing
  | something {rest : List Layer} {t : TypeDefinition} {w : Value}
      (of : IsAccepted g accepts rest t w) : IsAccepted g accepts (.nilable :: rest) t w
  | list {rest : List Layer} {t : TypeDefinition} {sent : List Value}
      (each : ∀ w ∈ sent, IsAccepted g accepts rest t w) :
      IsAccepted g accepts (.array :: rest) t (.list sent)
  | scalar {t : TypeDefinition} {w : Value} (kind : t.kind = .scalar) (accepted : accepts t w) :
      IsAccepted g accepts [] t w
  | enum {t : TypeDefinition} {text : String} (kind : t.kind = .enum) (mem : text ∈ t.values) :
      IsAccepted g accepts [] t (.text text)
  | object {t : TypeDefinition} {type : InputValue → TypeDefinition}
      {entries : List (String × Value)} (kind : t.kind = .input)
      (found : ∀ field ∈ t.inputFields, g.schema.type? field.type.bareName = some (type field))
      (distinct : (entries.map (·.1)).Nodup)
      (known : ∀ key ∈ entries.map (·.1), ∃ field ∈ t.inputFields, field.name = key)
      (required : ∀ field ∈ t.inputFields, ∀ base, field.type = .nonNull base →
        field.name ∈ entries.map (·.1))
      (each : ∀ field ∈ t.inputFields, ∀ w, (field.name, w) ∈ entries →
        IsAccepted g accepts (layers field.type) (type field) w)
      (one : t.isOneOf = true → entries.length = 1) :
      IsAccepted g accepts [] t (.dict entries)

/-- The values of scalars that fit are sent, as values that the scalars accept. -/
def ScalarsSent (g : Setting) (bindings : Bindings) (fits accepts : TypeDefinition → Value → Prop) :
    Prop :=
  ∀ t v, t.kind = .scalar → fits t v → v.isNothing = false ∧
    ∃ w, sendBare g bindings t v = .ok w ∧ w.isNothing = false ∧ accepts t w

variable {g : Setting} {s : Session} {bindings : Bindings}
  {fits accepts : TypeDefinition → Value → Prop} {layers : List Layer} {t u : TypeDefinition}
  {v w : Value}

/-! ## Values of types -/

/-- The outermost layer of a type that is marked is not for missing values. -/
theorem head?_layers_nonNull (base : TypeRef) :
    (Code.layers (.nonNull base)).head? ≠ some .nilable := by
  have there := Code.mayBeMissing_layersUnder true base
  exact fun missing => absurd (beq_iff_eq.mpr missing) (Bool.eq_false_iff.mp there)

/-- Only under a layer for missing values a value may be nothing. -/
theorem IsValueOf.isNothing (h : IsValueOf g s fits layers t v)
    (scalars : ScalarsSent g bindings fits accepts) (marked : layers.head? ≠ some .nilable) :
    v.isNothing = false := by
  cases h with
  | nothing | something => exact absurd rfl marked
  | scalar kind fit => exact (scalars _ _ kind fit).1
  | list | enum | object => rfl

/-- A value of a type under layers has the layers, around bare values of the type. -/
theorem isValueOf_iff_conforms :
    IsValueOf g s fits layers t v ↔ Conforms (IsValueOf g s fits [] t) layers v := by
  induction layers generalizing v with
  | nil => rfl
  | cons layer rest ih =>
    cases layer with
    | nilable =>
      unfold Conforms
      constructor
      · intro h
        cases h with
        | nothing => exact Or.inl rfl
        | something of => exact Or.inr (ih.mp of)
      · rintro (nothing | conforms)
        · cases v <;> first | exact .nothing | cases nothing
        · exact .something (ih.mpr conforms)
    | array =>
      unfold Conforms
      constructor
      · intro h
        cases h with
        | list each => exact ⟨_, rfl, fun i hi => ih.mp (each i hi)⟩
      · rintro ⟨items, rfl, each⟩
        exact .list fun i hi => ih.mpr (each i hi)

theorem isValueOf_nil_scalar (kind : t.kind = .scalar) :
    IsValueOf g s fits [] t v ↔ fits t v := by
  constructor
  · intro h
    cases h with
    | scalar _ fit => exact fit
    | enum other => cases other.symm.trans kind
    | object _ describes => cases describes.kind.symm.trans kind
  · exact .scalar kind

theorem isValueOf_scalar_iff (kind : t.kind = .scalar) :
    IsValueOf g s fits layers t v ↔ Conforms (fits t) layers v := by
  have same : IsValueOf g s fits [] t = fits t := by
    funext w
    exact propext (isValueOf_nil_scalar kind)
  rw [isValueOf_iff_conforms, same]

/-- How a scalar is sent does not depend on how input objects are. -/
theorem sendBareBy_scalar (kind : t.kind = .scalar) (send send' : Value → Except Fault Value) :
    sendBareBy g send t = sendBareBy g send' t := by
  funext x
  unfold sendBareBy
  rw [kind]
  cases g.converters.find? t.name <;> rfl

/-- What a scalar is to be sent as is what the layers make of it. -/
theorem IsSentAs.encode_eq (h : IsSentAs g layers t v w) (kind : t.kind = .scalar)
    (send : Value → Except Fault Value) : encode (sendBareBy g send t) layers v = .ok w := by
  induction h with
  | nothing => rfl
  | something there of ih =>
    unfold encode
    rw [there]
    exact ih kind
  | @list rest t items sent length each ih =>
    have all : items.mapM (encode (sendBareBy g send t) rest) = .ok sent := by
      clear each
      induction items generalizing sent with
      | nil =>
        rw [List.eq_nil_of_length_eq_zero length]
        rfl
      | cons first more others =>
        cases sent with
        | nil => cases length
        | cons one rest' =>
          have next := others (Nat.succ.inj length) fun n v w hv hw => ih (n + 1) v w hv hw
          rw [List.mapM_cons, ih 0 first one rfl rfl kind, next]
          rfl
    unfold encode
    change Except.bind (items.mapM _) _ = _
    rw [all]
    rfl
  | converted _ picked sent =>
    unfold encode sendBareBy
    rw [kind, picked]
    exact sent
  | plain _ picked =>
    unfold encode sendBareBy
    rw [kind, picked]
  | enum other => cases kind.symm.trans other
  | object other => cases kind.symm.trans other

/-! ## Lists -/

theorem exists_mapM_related (f : α → Except ε β) (related : α → β → Prop) {items : List α}
    (each : ∀ a ∈ items, ∃ b, f a = .ok b ∧ related a b) :
    ∃ results, items.mapM f = .ok results ∧ List.Forall₂ related items results := by
  induction items with
  | nil => exact ⟨[], rfl, .nil⟩
  | cons first rest ih =>
    obtain ⟨⟨b, one, here⟩, others⟩ := List.forall_mem_cons.mp each
    obtain ⟨bs, more, all⟩ := ih others
    rw [List.mapM_cons, one, more]
    exact ⟨b :: bs, rfl, .cons here all⟩

theorem related_of_getElem? {α β : Type} {related : α → β → Prop} {as : List α} {bs : List β}
    (h : List.Forall₂ related as bs) {n : Nat} {a : α} {b : β} (ha : as[n]? = some a)
    (hb : bs[n]? = some b) : related a b := by
  induction h generalizing n with
  | nil => cases ha
  | cons here _ ih =>
    cases n with
    | zero =>
      cases ha
      cases hb
      exact here
    | succ n => exact ih ha hb

theorem map_eq_of_forall₂ {γ : Type} {related : α → β → Prop} {as : List α} {bs : List β}
    {f : α → γ} {f' : β → γ} (h : List.Forall₂ related as bs)
    (same : ∀ a b, related a b → f' b = f a) : bs.map f' = as.map f := by
  induction h with
  | nil => rfl
  | cons here _ ih => rw [List.map_cons, List.map_cons, same _ _ here, ih]

/-- Going through two lists side by side that are treated alike. -/
theorem mapM_congr_forall₂ {γ : Type} {related : α → β → Prop} {as : List α} {bs : List β}
    {f : α → Except ε γ} {f' : β → Except ε γ} (h : List.Forall₂ related as bs)
    (same : ∀ a ∈ as, ∀ b, related a b → f' b = f a) : bs.mapM f' = as.mapM f := by
  induction h with
  | nil => rfl
  | cons here _ ih =>
    rw [List.mapM_cons, List.mapM_cons, same _ List.mem_cons_self _ here,
      ih fun a ha => same a (List.mem_cons_of_mem _ ha)]

/-- What comes of going through the second of two lists, beside the first. -/
theorem forall₂_of_mapM {γ : Type} {related : α → β → Prop} {as : List α} {bs : List β}
    {f : β → Except ε γ} {results : List γ} (h : List.Forall₂ related as bs)
    (all : bs.mapM f = .ok results) :
    List.Forall₂ (fun a c => ∃ b, related a b ∧ f b = .ok c) as results := by
  induction h generalizing results with
  | nil =>
    cases all
    exact .nil
  | cons here _ ih =>
    rw [List.mapM_cons] at all
    obtain ⟨c, one, all⟩ := except_bind_eq_ok_iff.mp all
    obtain ⟨cs, more, all⟩ := except_bind_eq_ok_iff.mp all
    cases all
    exact .cons ⟨_, here, one⟩ (ih more)

/-- Values with the layers stay as they are, if bare values do. -/
theorem encode_ok {fits : Value → Prop} (conforms : Conforms fits layers v) :
    encode .ok layers v = .ok v := by
  induction layers generalizing v with
  | nil => rfl
  | cons layer rest ih =>
    cases layer with
    | nilable =>
      unfold encode
      split
      · next nothing => cases v <;> first | rfl | cases nothing
      · next something => exact ih (conforms.resolve_left something)
    | array =>
      obtain ⟨items, rfl, each⟩ := conforms
      have same : items.mapM (encode .ok rest) = items.mapM pure :=
        mapM_congr fun i hi => ih (each i hi)
      unfold encode
      change Except.bind (items.mapM _) _ = _
      rw [same, List.mapM_pure, List.map_id']
      rfl

/-! ## Objects inside each other -/

theorem depth_le_of_mem {items : List Value} (h : v ∈ items) :
    v.depth ≤ Value.depthOfItems items := by
  induction items with
  | nil => cases h
  | cons first rest ih =>
    unfold Value.depthOfItems
    rcases List.mem_cons.mp h with rfl | h
    · exact Nat.le_max_left _ _
    · exact Nat.le_trans (ih h) (Nat.le_max_right _ _)

theorem depth_le_of_mem_entries {entries : List (String × Value)} {key : String}
    (h : (key, v) ∈ entries) : v.depth ≤ Value.depthOfEntries entries := by
  induction entries with
  | nil => cases h
  | cons first rest ih =>
    obtain ⟨name, value⟩ := first
    unfold Value.depthOfEntries
    rcases List.mem_cons.mp h with same | h
    · cases same
      exact Nat.le_max_left _ _
    · exact Nat.le_trans (ih h) (Nat.le_max_right _ _)

end QueryShape.Program
