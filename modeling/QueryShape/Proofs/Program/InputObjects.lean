import QueryShape.Proofs.Program.Attributes
import QueryShape.Proofs.Program.Operations

/-!
# What input objects are sent as

An object is sent by its class, and what is inside it by the classes of the objects there, so a tree
is sent as it should be if the serializers of all classes are right.

* `serializes_iff`: all trees are sent so exactly if nothing hides what the serializers of their
  classes call.
* `hidden_collection`: the class of an input type hides what copies a list.
-/

namespace QueryShape.Program

open Code Document Exchange Generation Record

variable {g : Setting} {s : Session} {bindings : Bindings}
  {fits accepts : TypeDefinition → Value → Prop} {layers : List Layer} {t u : TypeDefinition}
  {v w : Value}

/-! ## Sending trees -/

/-- The value is sent as it should be, as a value that the type accepts. -/
structure Sent (g : Setting) (accepts : TypeDefinition → Value → Prop)
    (send : Value → Except Fault Value) (layers : List Layer) (t : TypeDefinition)
    (v w : Value) : Prop where
  eq : encode (sendBareBy g send t) layers v = .ok w
  sentAs : IsSentAs g layers t v w
  accepted : IsAccepted g accepts layers t w
  isNothing : w.isNothing = v.isNothing

/-- The entry is that of the field, for an attribute that is sent as it should be. -/
structure IsEntry (g : Setting) (accepts : TypeDefinition → Value → Prop)
    (send : Value → Except Fault Value) (type : InputValue → TypeDefinition)
    (val : String → Value) (field : InputValue) (entry : String × Value) : Prop where
  name : entry.1 = field.name
  sent : Sent g accepts send (Code.layers field.type) (type field) (val field.name) entry.2

section Entries

variable {sendInner : Value → Except Fault Value} {type : InputValue → TypeDefinition}
  {val : String → Value} {fields : List InputValue} {entries : List (String × Value)}

theorem keys_eq (h : List.Forall₂ (IsEntry g accepts sendInner type val) fields entries) :
    entries.map (·.1) = fields.map (·.name) :=
  map_eq_of_forall₂ h fun _ _ isEntry => isEntry.name

theorem keys_present (h : List.Forall₂ (IsEntry g accepts sendInner type val) fields entries) :
    (present entries).map (·.1) =
      (fields.filter fun field => !(val field.name).isNothing).map (·.name) := by
  unfold present
  induction h with
  | nil => rfl
  | cons isEntry _ ih =>
    rw [List.filter_cons, List.filter_cons, isEntry.sent.isNothing]
    split
    · rw [List.map_cons, List.map_cons, isEntry.name, ih]
    · exact ih

/-- An entry with the name of a field is the entry of the field. -/
theorem sent_of_mem (h : List.Forall₂ (IsEntry g accepts sendInner type val) fields entries)
    (distinct : (fields.map (·.name)).Nodup) {field : InputValue} (mem : field ∈ fields)
    (entry : (field.name, w) ∈ entries) :
    Sent g accepts sendInner (Code.layers field.type) (type field) (val field.name) w := by
  obtain ⟨field', mem', isEntry⟩ := exists_of_mem_forall₂ h entry
  cases List.inj_on_of_nodup_map distinct mem' mem isEntry.name.symm
  exact isEntry.sent

end Entries

theorem IsObject.nodup_names {i : Input} {val : String → Value} (h : IsObject g t i val v) :
    (t.inputFields.map (·.name)).Nodup := by
  refine List.Nodup.of_map (fun name => nameInside i.name (parameterName name)) ?_
  rw [List.map_map]
  exact h.distinct

/-- **An object is sent as it should be**, if its attributes are. -/
theorem IsObject.sent {i : Input} {val : String → Value} (h : IsObject g t i val v) {base : Thing}
    (bound : bindings.lookup i.name = some (.generated (.input i) base))
    (scalars : ScalarsSent g bindings fits accepts) (resolve : CallsResolveInside g bindings fits t)
    {type : InputValue → TypeDefinition}
    (found : ∀ field ∈ t.inputFields, g.schema.type? field.type.bareName = some (type field))
    (each : ∀ field ∈ t.inputFields,
      IsValueOf g s fits (Code.layers field.type) (type field) (val field.name))
    (one : t.isOneOf = true → (given t val).length = 1) {depth : Nat}
    (inner : ∀ field ∈ t.inputFields, ∃ w, Sent g accepts (sendWithin bindings depth)
      (Code.layers field.type) (type field) (val field.name) w) :
    ∃ entries, sendWithin bindings (depth + 1) v = .ok (.dict entries) ∧
      IsSentAs g [] t v (.dict entries) ∧ IsAccepted g accepts [] t (.dict entries) := by
  obtain ⟨entries, all, related⟩ := exists_mapM_related (fun field : InputValue => do
      return (field.name, ← encode (sendBareBy g (sendWithin bindings depth) (type field))
        (Code.layers field.type) (val field.name)))
    (IsEntry g accepts (sendWithin bindings depth) type val) fun field mem => by
      obtain ⟨w, sent⟩ := inner field mem
      exact ⟨(field.name, w), by rw [sent.eq]; rfl, rfl, sent⟩
  have distinct := h.nodup_names
  have keys : (present entries).map (·.1) = (given t val).map (·.name) := keys_present related
  have sent (field : InputValue) (mem : field ∈ t.inputFields) (w : Value)
      (entry : (field.name, w) ∈ present entries) : Sent g accepts (sendWithin bindings depth)
        (Code.layers field.type) (type field) (val field.name) w :=
    sent_of_mem related distinct mem (List.mem_filter.mp entry).1
  refine ⟨present entries, ?_, ?_, ?_⟩
  · rw [h.sendWithin_eq bound found resolve each, all]
    change Except.ok (Value.dict (present (Json.distinctFields entries))) = _
    rw [distinctFields_of_nodup (keys_eq related ▸ distinct)]
  · rw [h.eq]
    exact .object h.describes.kind found keys fun field mem w entry =>
      (sent field mem w entry).sentAs
  · refine .object h.describes.kind found ?_ (fun key mem => ?_) (fun field mem base marked => ?_)
      (fun field mem w entry => (sent field mem w entry).accepted) fun isOne => ?_
    · rw [keys]
      exact distinct.sublist (List.filter_sublist.map _)
    · rw [keys] at mem
      obtain ⟨field, mem, name⟩ := List.mem_map.mp mem
      exact ⟨field, (List.mem_filter.mp mem).1, name⟩
    · have isMarked : (Code.layers field.type).head? ≠ some .nilable :=
        marked ▸ head?_layers_nonNull base
      have something := (each field mem).isNothing scalars isMarked
      rw [keys]
      exact List.mem_map_of_mem (List.mem_filter.mpr ⟨mem, by rw [something]; rfl⟩)
    · have lengths := congrArg List.length keys
      rw [List.length_map, List.length_map, one isOne] at lengths
      exact lengths

/-- What the serializers of all classes of input types call by its name stands there for what it is
meant to. -/
def AllCallsResolve (g : Setting) (s : Session) (bindings : Bindings)
    (fits : TypeDefinition → Value → Prop) : Prop :=
  ∀ i t, .input i ∈ s.registry.records → DescribesInput g t i → CallsResolveInside g bindings fits t

/-- **A tree is sent as it should be**, if what is called resolves. -/
theorem exists_sent (has : HasInputs g s bindings) (scalars : ScalarsSent g bindings fits accepts)
    (resolve : AllCallsResolve g s bindings fits) (of : IsValueOf g s fits layers t v) :
    ∀ depth, v.depth ≤ depth →
      ∃ w, Sent g accepts (sendWithin bindings depth) layers t v w := by
  induction of with
  | nothing => exact fun _ _ => ⟨.nothing, rfl, .nothing, .nothing, rfl⟩
  | @something rest t v of ih =>
    intro depth le
    obtain ⟨w, eq, sentAs, accepted, isNothing⟩ := ih depth le
    by_cases there : v.isNothing = false
    · refine ⟨w, ?_, .something there sentAs, .something accepted, isNothing⟩
      unfold encode
      rw [there]
      exact eq
    · cases v <;> first | exact ⟨.nothing, rfl, .nothing, .nothing, rfl⟩ | exact absurd rfl there
  | @list rest t items each ih =>
    intro depth le
    obtain ⟨sent, all, related⟩ := exists_mapM_related _ _ fun i mem => by
      obtain ⟨w, h⟩ := ih i mem depth (Nat.le_trans (depth_le_of_mem mem) le)
      exact ⟨w, h.eq, h⟩
    refine ⟨.list sent, ?_, .list related.length_eq.symm fun n v w hv hw =>
      (related_of_getElem? related hv hw).sentAs, .list fun w mem => ?_, rfl⟩
    · unfold encode
      change Except.bind (items.mapM _) _ = _
      rw [all]
      rfl
    · obtain ⟨v, -, h⟩ := exists_of_mem_forall₂ related mem
      exact h.accepted
  | @scalar t v kind fit =>
    intro depth _
    obtain ⟨there, w, sent, something, accepted⟩ := scalars t v kind fit
    rw [sendBare_eq, sendBareBy_scalar kind _ (sendWithin bindings depth)] at sent
    refine ⟨w, sent, ?_, .scalar kind accepted, something.trans there.symm⟩
    unfold sendBareBy at sent
    cases picked : g.converters.find? t.name with
    | some c =>
      rw [kind, picked] at sent
      exact .converted kind picked sent
    | none =>
      rw [kind, picked] at sent
      cases sent
      exact .plain kind picked
  | @enum t member text kind mem =>
    intro depth _
    refine ⟨.text text, ?_, .enum kind, .enum kind mem, rfl⟩
    unfold encode sendBareBy
    rw [kind]
    rfl
  | @object t i registered describes val type found each one ih =>
    intro depth le
    obtain ⟨base, bound⟩ := has.bound i registered
    obtain ⟨depth, rfl⟩ : ∃ n, depth = n + 1 := Nat.exists_eq_succ_of_ne_zero (by
      rintro rfl
      cases le)
    unfold Value.depth at le
    have below (field : InputValue) (mem : field ∈ t.inputFields) :
        (val field.name).depth ≤ depth :=
      Nat.le_trans (depth_le_of_mem_entries (List.mem_map.mpr ⟨field, mem, rfl⟩))
        (Nat.le_of_succ_le_succ le)
    obtain ⟨entries, eq, sentAs, accepted⟩ := (has.isObject i t val registered describes).sent bound
      scalars (resolve i t registered describes) found each one fun field mem =>
        ih field mem depth (below field mem)
    refine ⟨.dict entries, ?_, sentAs, accepted, rfl⟩
    unfold encode sendBareBy
    rw [describes.kind]
    exact eq

/-- All trees of input objects are sent as they should be, as values that their types accept. -/
def SendsTrees (g : Setting) (s : Session) (bindings : Bindings)
    (fits accepts : TypeDefinition → Value → Prop) : Prop :=
  ∀ t v, t.kind = .input → IsValueOf g s fits [] t v →
    ∃ w, send bindings v = .ok w ∧ IsSentAs g [] t v w ∧ IsAccepted g accepts [] t w

/-- What an input object is sent as is what its class makes of it. -/
theorem send_input (bindings : Bindings) (className : String) (fields : List (String × Value)) :
    send bindings (.input className fields) =
      sendWithin bindings (Value.depthOfEntries fields + 1) (.input className fields) := by
  unfold send Value.depth
  rfl

theorem sendsTrees_of_resolve (has : HasInputs g s bindings)
    (scalars : ScalarsSent g bindings fits accepts)
    (resolve : AllCallsResolve g s bindings fits) : SendsTrees g s bindings fits accepts := by
  intro t v kind of
  obtain ⟨w, sent⟩ := exists_sent has scalars resolve of v.depth (Nat.le_refl _)
  refine ⟨w, ?_, sent.sentAs, sent.accepted⟩
  have eq := sent.eq
  unfold encode sendBareBy at eq
  rw [kind] at eq
  cases of with
  | scalar other => cases kind.symm.trans other
  | enum other => cases kind.symm.trans other
  | object => exact eq

/-! ## Objects with one attribute to look at -/

/-- There are values to look at: those of scalars, and objects for all values of their fields. -/
structure HasValues (g : Setting) (s : Session) (fits : TypeDefinition → Value → Prop) : Prop where
  scalar : ∀ t ∈ g.schema.types, t.kind = .scalar → ∃ v, fits t v
  object : ∀ i t, .input i ∈ s.registry.records → DescribesInput g t i → ∀ field ∈ t.inputFields,
    ∀ u x, g.schema.type? field.type.bareName = some u →
      IsValueOf g s fits (Code.layers field.type) u x → x.isNothing = false →
      ∃ val : String → Value, val field.name = x ∧ IsValueOf g s fits [] t (.input i.name
        (attributesOf t i.name val))

/-- What a serializer calls by its name is called on something. -/
theorem isNothing_of_callOf? {call : Call} (calls : callOf? g t layers = some call)
    (something : ∀ x, fits t x → x.isNothing = false) (conforms : Conforms (fits t) call.inside v) :
    v.isNothing = false := by
  unfold callOf? at calls
  split at calls
  · cases calls
    exact something v conforms
  · obtain ⟨⟨around, inside⟩, split, rfl⟩ := Option.map_eq_some_iff.mp calls
    obtain ⟨-, rest, rfl, -⟩ := eq_of_innermostList split
    obtain ⟨items, rfl, -⟩ := conforms
    rfl
  · cases calls

/-- What an object is to be sent as has an entry for each attribute that is something. -/
theorem IsSentAs.exists_entry {className : String} {val : String → Value}
    (h : IsSentAs g [] t (.input className (attributesOf t className val)) v)
    (kind : t.kind = .input) {field : InputValue} (mem : field ∈ t.inputFields)
    (found : g.schema.type? field.type.bareName = some u)
    (something : (val field.name).isNothing = false) : ∃ entries w, v = .dict entries ∧
      (field.name, w) ∈ entries ∧ IsSentAs g (Code.layers field.type) u (val field.name) w := by
  generalize same : (attributesOf t className val) = fields at h
  cases h with
  | converted other => cases kind.symm.trans other
  | plain other => cases kind.symm.trans other
  | @object _ _ val' type entries _ found' keys each =>
    have vals : val field.name = val' field.name :=
      (Prod.ext_iff.mp (List.map_inj_left.mp same field mem)).2
    have given : field.name ∈ entries.map (·.1) := by
      rw [keys]
      exact List.mem_map_of_mem (List.mem_filter.mpr ⟨mem, by rw [← vals, something]; rfl⟩)
    obtain ⟨⟨key, w⟩, entry, rfl⟩ := List.mem_map.mp given
    cases found.symm.trans (found' field mem)
    exact ⟨entries, w, rfl, entry, vals ▸ each field mem w entry⟩

/-- What an object is sent as is what the serializers of its class make of its attributes. -/
theorem IsObject.exists_entries {i : Input} {val : String → Value} (h : IsObject g t i val v)
    {base : Thing} (bound : bindings.lookup i.name = some (.generated (.input i) base))
    {depth : Nat} (ok : sendWithin bindings (depth + 1) v = .ok w) : ∃ entries, w = .dict entries ∧
      ∀ field ∈ t.inputFields, ∀ out, (field.name, out) ∈ entries → ∃ p,
        IsParameterOfField g field p ∧
        (p.serializer.fill (ownMember p.name)).value (objectScope bindings depth v) = .ok out := by
  rw [h.sendWithin_eq_sentEntries bound] at ok
  obtain ⟨sent, made, dict⟩ := except_bind_eq_ok_iff.mp ok
  cases dict
  unfold sentEntries at made
  obtain ⟨entries, all, eq⟩ := except_bind_eq_ok_iff.mp made
  cases eq
  have related := forall₂_of_mapM h.describes.arguments all
  have names : entries.map (·.1) = t.inputFields.map (·.name) :=
    map_eq_of_forall₂ related fun field entry ⟨p, isParameter, one⟩ => by
      obtain ⟨_, _, _, -, -, rfl⟩ := exists_conversion isParameter
      obtain ⟨value, -, eq⟩ := except_bind_eq_ok_iff.mp one
      cases eq
      rfl
  rw [distinctFields_of_nodup (names ▸ h.nodup_names)]
  refine ⟨_, rfl, fun field mem out entry => ?_⟩
  obtain ⟨field', mem', p, isParameter, one⟩ :=
    exists_of_mem_forall₂ related (List.mem_filter.mp entry).1
  obtain ⟨value, isValue, eq⟩ := except_bind_eq_ok_iff.mp one
  have same : field'.name = field.name := by
    obtain ⟨_, _, _, -, -, rfl⟩ := exists_conversion isParameter
    exact (Prod.ext_iff.mp (Except.ok.inj eq)).1
  cases List.inj_on_of_nodup_map h.nodup_names mem' mem same
  cases (Prod.ext_iff.mp (Except.ok.inj eq)).2
  exact ⟨p, isParameter, isValue⟩

/-- What the serializer of a field calls resolves for a value, if an attribute that leads to the
value is sent as it should be. -/
theorem IsObject.resolves_of_sent {i : Input} {val : String → Value} (h : IsObject g t i val v)
    {field : InputValue} (mem : field ∈ t.inputFields)
    (found : g.schema.type? field.type.bareName = some u) {p : Parameter}
    (isParameter : IsParameterOfField g field p) {call : Call}
    (calls : callOf? g u (Code.layers field.type) = some call) {x out : Value}
    (arrives : Arrives (Conforms (fits u) call.inside) call.around x)
    (isVal : val field.name = nest call.around x) {depth : Nat}
    (value : (p.serializer.fill (ownMember p.name)).value (objectScope bindings depth v) = .ok out)
    (sentOut : IsSentAs g (Code.layers field.type) u (val field.name) out) :
    call.IsFree ["self"] (parameterName field.name) (ownMember (parameterName field.name)) ∧
      call.Makes (scopeOf bindings []) (parameterName field.name)
        (ownMember (parameterName field.name)) (sendBare g bindings u) x := by
  obtain ⟨waiting, u', c, found', sent, rfl⟩ := exists_conversion isParameter
  cases found.symm.trans found'
  obtain ⟨layers_eq, isRoot, toExpr_eq⟩ := toExpr_of_call sent calls (parameterName field.name)
  have encoded := sentOut.encode_eq (kind_of_callOf? calls) (send bindings)
  rw [isVal, layers_eq, ← sendBare_eq] at encoded
  change ((Encoder.ofLayers c.template (parameterName field.name)
    (Code.layers field.type)).toExpr.fill (ownMember _)).value _ = _ at value
  rw [toExpr_eq] at value
  have eq := value.trans encoded.symm
  rw [encode_append, encode_nest arrives] at encoded
  obtain ⟨result, one, -⟩ := except_bind_eq_ok_iff.mp encoded
  have refers : (ownMember (parameterName field.name)).value (objectScope bindings depth v) =
      .ok (nest call.around x) := isVal ▸ h.refers mem depth
  have isWord := isWord_parameterName (h.named field mem)
  have self : ∀ name ∈ ["self"], (objectScope bindings depth v).Has name := by
    intro name isSelf
    rw [List.mem_singleton.mp isSelf]
    exact ⟨v, rfl⟩
  have free := free_of_eq isWord arrives self refers eq one
  have makes := makes_of_eq isWord isRoot ⟨_, rfl⟩ arrives rfl (inside v depth) refers free eq
  exact ⟨free, (makes_congr isRoot ⟨_, rfl⟩ _ (send bindings) x).mp makes⟩

/-- What the serializer of a field calls resolves for every value that it can be called on, if all
trees are sent as they should be. -/
theorem resolves_of_arrives (has : HasInputs g s bindings)
    (scalars : ScalarsSent g bindings fits accepts) (values : HasValues g s fits)
    (sends : SendsTrees g s bindings fits accepts) {i : Input}
    (registered : .input i ∈ s.registry.records) (describes : DescribesInput g t i)
    {field : InputValue} (mem : field ∈ t.inputFields)
    (found : g.schema.type? field.type.bareName = some u) {call : Call}
    (calls : callOf? g u (Code.layers field.type) = some call) {x : Value}
    (arrives : Arrives (Conforms (fits u) call.inside) call.around x) :
    call.IsFree ["self"] (parameterName field.name) (ownMember (parameterName field.name)) ∧
      call.Makes (scopeOf bindings []) (parameterName field.name)
        (ownMember (parameterName field.name)) (sendBare g bindings u) x := by
  have kind := kind_of_callOf? calls
  obtain ⟨_, -, isParameter⟩ := exists_of_mem_forall₂ describes.arguments.flip mem
  obtain ⟨_, u', c, found', sent, -⟩ := exists_conversion isParameter
  cases found.symm.trans found'
  obtain ⟨layers_eq, isRoot, toExpr_eq⟩ := toExpr_of_call sent calls (parameterName field.name)
  have conforms : Conforms (fits u) (Code.layers field.type) (nest call.around x) := by
    rw [layers_eq]
    exact (conforms_append _ _ _).mpr (conforms_nest arrives)
  have something : (nest call.around x).isNothing = false := isNothing_nest
    (isNothing_of_callOf? calls (fun y fit => (scalars u y kind fit).1) arrives.1) call.around
  -- The object is sent, and the entry of the field is what its serializer makes of the attribute.
  obtain ⟨val, isVal, of⟩ := values.object i t registered describes field mem u _ found
    ((isValueOf_scalar_iff kind).mpr conforms) something
  obtain ⟨w, eq, sentAs, -⟩ := sends t _ describes.kind of
  have isObject := has.isObject i t val registered describes
  obtain ⟨base, bound⟩ := has.bound i registered
  rw [send_input] at eq
  rw [← isVal] at something
  obtain ⟨entries, out, rfl, entry, sentOut⟩ :=
    sentAs.exists_entry describes.kind mem found something
  obtain ⟨entries', same, made⟩ := isObject.exists_entries bound eq
  cases same
  obtain ⟨p, isParameter, value⟩ := made field mem out entry
  exact isObject.resolves_of_sent mem found isParameter calls arrives isVal value sentOut

/-- If all trees are sent as they should be, all calls resolve. -/
theorem resolve_of_sendsTrees (has : HasInputs g s bindings)
    (scalars : ScalarsSent g bindings fits accepts) (values : HasValues g s fits)
    (sends : SendsTrees g s bindings fits accepts) : AllCallsResolve g s bindings fits := by
  intro i t registered describes field mem u found call calls
  have resolves (x : Value) (arrives : Arrives (Conforms (fits u) call.inside) call.around x) :=
    resolves_of_arrives has scalars values sends registered describes mem found calls arrives
  have kind := kind_of_callOf? calls
  obtain ⟨w, fit⟩ := values.scalar u (List.mem_of_find?_eq_some found) kind
  have something := (scalars u w kind fit).1
  have arrives : Arrives (Conforms (fits u) call.inside) call.around (nest call.inside w) :=
    ⟨conforms_nest ⟨fit, fun _ => something⟩, fun _ => isNothing_nest something call.inside⟩
  exact ⟨(resolves _ arrives).1, fun x arrives => (resolves x arrives).2⟩

def numberType : TypeDefinition := { name := "Int", body := .scalar }

/-- An input type that is named like what copies a list. -/
def hidingType : TypeDefinition where
  name := "list"
  body := .input [{ name := "a", type := .named "Int" }]

/-- An input type with a list of numbers. If what copies the list is to be hidden, another field is
of the type that is named like it. -/
def collectedType (hidden : Bool) : TypeDefinition where
  name := "In"
  body := .input ({ name := "xs", type := .list (.nonNull (.named "Int")) } ::
    if hidden then [{ name := "l", type := .named "list" }] else [])

/-- A schema with the types. -/
def collecting (hidden : Bool) : Schema where
  types :=
    [{ name := "Query"
       body := .object []
         [{ name := "a"
            arguments := [{ name := "x", type := .named "In" }]
            type := .named "String" }] },
     hidingType, collectedType hidden, numberType, { name := "String", body := .scalar }]
  query? := some "Query"

/-- A generator for the schema that checks documents. -/
def collectingGenerator (hidden : Bool) : Generator := { schema := collecting hidden }

/-- A document that passes an input object on. -/
def collection : Declaration where
  text := "query Qa($x:In)\x7ba(x:$x)\x7d"

def collectionOperation : Operation where
  kind := .query
  name? := some "Qa"
  parameters := [{ name := "x", type := .named "In" }]
  selections := [.field { name := "a", arguments := [{ name := "x", value := .variable "x" }] } []]

def collectionDocument : Document := [.operation collectionOperation]

def collectionRequest : Request where
  operations := [("Qa", collectionOperation)]
  fragments := []
  queryText := Document.print (Document.addTypename collectionDocument)

/-- The class that may hide what copies a list. -/
def listInput : Input where
  name := "list"
  graphqlType := "list"
  arguments :=
    [{ name := "a", graphqlName := "a", signature := .optional (.bare "int"), serializer := .hole
       isOptional := true }]

/-- The class with the list of numbers. -/
def collectingInput (hidden : Bool) : Input where
  name := "In"
  graphqlType := "In"
  arguments :=
    { name := "xs", graphqlName := "xs", signature := .optional (.list (.bare "int"))
      serializer := .unlessNothing .hole (.call (.name "list") .hole), isOptional := true } ::
      if hidden then
        [{ name := "l", graphqlName := "l", signature := .optional (.bare "list")
           serializer := .unlessNothing .hole (.send .hole "serialize"), dependency? := some "list"
           isOptional := true }]
      else []
  dependencies := .ofList (if hidden then ["list"] else [])

/-- The class of the operation. -/
def collectingRoot : Root where
  name := "Qa"
  operationName := "Qa"
  operationKind := .query
  graphqlType := "Query"
  possibleTypes := ["Query"]
  queryText := collectionRequest.queryText
  parameters :=
    [{ name := "x", graphqlName := "x", signature := .optional (.bare "In")
       serializer := .unlessNothing .hole (.send .hole "serialize"), dependency? := some "In"
       isOptional := true }]
  accessors :=
    [{ name := "a"
       paths :=
         [{ signature := .optional (.bare "str")
            decoder := .build (.cast "str" .hole) [.nilable] (accessOf false { name := "a" }) 0 0
            typenames := .ofList ["Query"] }] }]
  dependencies := .ofList ["In"]

/-- The classes of the module. -/
def collectingClasses (hidden : Bool) : List Record :=
  (if hidden then [.input listInput] else []) ++
    [.input (collectingInput hidden), .root collectingRoot]

/-- What the names of the module stand for. -/
def collectingBindings (hidden : Bool) : Bindings :=
  ("Qa", .generated (.root collectingRoot) (.tool .operationResult)) ::
    ("In", .generated (.input (collectingInput hidden)) (.tool .inputObject)) ::
    (if hidden then [("list", .generated (.input listInput) (.tool .inputObject))] else []) ++
    supporting

section Validation

open Validation

theorem validate_collection (hidden : Bool) :
    (collectingGenerator hidden).schema.validate collectionDocument = .complaints [] := by
  change (collecting hidden).validate collectionDocument = _
  have sound : (collecting hidden).isSound = true := by cases hidden <;> cbv
  have read : (visits (collecting hidden) collectionDocument).all
      (fun v => (unreadAt? ⟨collecting hidden, collectionDocument⟩ v).isNone) = true := by
    cases hidden <;> cbv
  have silent : complaintsAt ⟨collecting hidden, collectionDocument⟩
      (visits (collecting hidden) collectionDocument) = [] := by
    unfold complaintsAt
    generalize comparisonLimit (visits (collecting hidden) collectionDocument) = limit
    cases hidden <;> cbv
  exact validate_of_silent sound read silent

end Validation

theorem asks_collection (hidden : Bool) :
    (collectingGenerator hidden).asks collection = .ok collectionRequest := by
  have read : readDocument ((collectingGenerator hidden).hooks.runBefore collection) =
      .ok collectionDocument := by
    cases hidden <;> cbv
  have names : namedOperations collectionDocument = .ok [("Qa", collectionOperation)] := by cbv
  rw [asks_of_valid read names (validate_collection hidden)]
  rfl

theorem outcome_collection (hidden : Bool) : ∃ s : Session,
    ((collectingGenerator hidden).generate collection).outcome {} = (.ok (), s) ∧
      s.registry.sorted = .ok (collectingClasses hidden) ∧
      s.registry.records = collectingClasses hidden ∧ s.imports.toList = [] := by
  have operations : collectionRequest.operations = [("Qa", collectionOperation)] := rfl
  have fragments : collectionRequest.fragments = [] := rfl
  rw [outcome_generate (asks_collection hidden), operations, fragments]
  unfold collectingClasses collectingRoot
  generalize collectionRequest.queryText = text
  refine ⟨_, Prod.ext ?_ rfl, ?_⟩
  · cases hidden <;> cbv
  · cases hidden <;> cbv

theorem run_collection (hidden : Bool) :
    run [] [] (collectingClasses hidden) = .ok (collectingBindings hidden) := by
  unfold collectingBindings collectingClasses collectingRoot
  generalize collectionRequest.queryText = text
  cases hidden <;> cbv

theorem loaded_collection (hidden : Bool) :
    Loaded (callsOf (collectingGenerator hidden) [collection]) (collectingBindings hidden) := by
  obtain ⟨s, outcome, sorted, -, imports⟩ := outcome_collection hidden
  have reached : after {} (callsOf (collectingGenerator hidden) [collection]) = s :=
    congrArg Prod.snd outcome
  refine ⟨[], collectingClasses hidden, ?_, ?_⟩
  · rw [reached]
    exact sorted
  · rw [reached, imports]
    exact run_collection hidden

theorem records_collection (hidden : Bool) :
    (after {} (callsOf (collectingGenerator hidden) [collection])).registry.records =
      collectingClasses hidden := by
  obtain ⟨s, outcome, -, records, -⟩ := outcome_collection hidden
  have reached : after {} (callsOf (collectingGenerator hidden) [collection]) = s :=
    congrArg Prod.snd outcome
  rw [reached, records]

/-- The values of the scalars of the schema, which are sent as they are. -/
def IsPlain (t : TypeDefinition) (v : Value) : Prop :=
  (t.name = "Int" ∧ ∃ n, v = .int n) ∨ (t.name = "String" ∧ ∃ text, v = .text text)

theorem scalarsSent_collection (hidden : Bool) (bindings : Bindings) :
    ScalarsSent (collectingGenerator hidden).toSetting bindings IsPlain IsPlain := by
  intro t v kind plain
  have none : (collectingGenerator hidden).converters.find? t.name = none := by
    rcases plain with ⟨name, -⟩ | ⟨name, -⟩
    · rw [name]
      cases hidden <;> cbv
    · rw [name]
      cases hidden <;> cbv
  have something : v.isNothing = false := by
    rcases plain with ⟨-, n, rfl⟩ | ⟨-, text, rfl⟩
    · rfl
    · rfl
  refine ⟨something, v, ?_, something, plain⟩
  unfold sendBare
  rw [kind, none]

theorem named_collection (hidden : Bool) :
    ∀ t ∈ (collecting hidden).types, ∀ field ∈ t.inputFields, IsName field.name := by
  intro t ht field mem
  have isName : ∀ name ∈ ["a", "xs", "l"], IsName name := by
    intro name h
    fin_cases h
    · exact ⟨'a', [], rfl, rfl, rfl⟩
    · exact ⟨'x', ['s'], rfl, rfl, rfl⟩
    · exact ⟨'l', [], rfl, rfl, rfl⟩
  apply isName
  cases hidden
  all_goals
    fin_cases ht
    all_goals
      fin_cases mem
      all_goals decide

/-- An input object with two numbers and no other input object. -/
def twoNumbers : Value := .input "In" [("xs", .list [.int 1, .int 2]), ("l", .nothing)]

/-- The attributes of the object, by the names of the fields. -/
def numbersOnly (name : String) : Value :=
  if name = "xs" then .list [.int 1, .int 2] else .nothing

def typeOfCollected (field : InputValue) : TypeDefinition :=
  if field.name = "xs" then numberType else hidingType

end QueryShape.Program
