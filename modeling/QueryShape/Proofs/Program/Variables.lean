import QueryShape.Proofs.Naming.Identifier
import QueryShape.Proofs.Program.Serialize

/-!
# What is sent for the variables of an operation

`reference` says what is to be sent for a value of a variable. What is sent is what the serializer
of its parameter makes of it in the method of the operation, where all variables have values.

* `Sends.sentFor_eq`: a variable whose call resolves is sent as it should be.
* `resolves_of_sentFor`: if all values that conform are sent as they should be, all calls resolve.
-/

namespace QueryShape.Program

open Code Document Generation Record

/-! ## Names of variables -/

theorem isWordChar_of_isName {text : String} (h : IsName text) : Naming.IsWord text.toList :=
  (Naming.isName_iff.mp h).1

theorem hasNames_of_readDocument {d : Declaration} {document : Document}
    (h : readDocument d = .ok document) : ∀ x ∈ document, x.HasNames := by
  unfold readDocument at h
  split at h
  · next read =>
    cases h
    exact hasNames_of_read read
  · cases h
  · cases h

/-- The names of parameters are words. -/
theorem isWord_parameterName {name : String} (h : IsName name) :
    (parameterName name).toList.all Letter.isWord = true := by
  have snake : (Naming.snakeCase name).toList.all Letter.isWord = true := by
    unfold Naming.snakeCase
    rw [String.toList_ofList, List.all_eq_true]
    exact fun c hc => isWord_of_isWordChar (Naming.isWord_snakeChars (isWordChar_of_isName h) c hc)
  unfold parameterName Naming.memberName
  split
  · rw [String.toList_append, List.all_append, snake]
    rfl
  · exact snake

/-- The variables of the operations that a call is for have names. -/
theorem isName_of_asks {g : Generator} {d : Declaration} {q : Request} (asked : g.asks d = .ok q)
    {name : String} {o : Operation} (mem : (name, o) ∈ q.operations) :
    ∀ v ∈ o.parameters, IsName v.name := by
  obtain ⟨document, named, read, names, rfl⟩ := exists_document_of_asks asked
  obtain ⟨definition, isDefinition, isOperation⟩ :=
    List.mem_filterMap.mp (of_mem_namedOperations names mem).1
  cases definition with
  | operation o' =>
    cases isOperation
    exact (hasNames_of_readDocument read _ isDefinition).2.1
  | _ => cases isOperation

/-! ## Dictionaries -/

theorem insert_of_notMem {fields : List (String × α)} {key : String} {value : α}
    (h : key ∉ fields.map (·.1)) : Json.insert fields key value = fields ++ [(key, value)] := by
  unfold Json.insert
  rw [if_neg]
  simpa using h

/-- Fields with different keys are left as they are. -/
theorem distinctFields_of_nodup {fields : List (String × α)} (h : (fields.map (·.1)).Nodup) :
    Json.distinctFields fields = fields := by
  suffices ∀ done : List (String × α), ((done ++ fields).map (·.1)).Nodup →
      fields.foldl (fun all f => Json.insert all f.1 f.2) done = done ++ fields from this [] h
  clear h
  induction fields with
  | nil => exact fun done _ => (List.append_nil done).symm
  | cons first rest ih =>
    intro done h
    have new : first.1 ∉ done.map (·.1) := by
      rw [List.map_append, List.nodup_append] at h
      exact fun mem => h.2.2 _ mem _ List.mem_cons_self rfl
    rw [List.foldl_cons, insert_of_notMem new, ih, List.append_assoc]
    · rfl
    · rwa [List.append_assoc]

theorem lookup_map_of_nodup {items : List α} (key : α → String) (value : α → β)
    (distinct : (items.map key).Nodup) {a : α} (ha : a ∈ items) :
    (items.map fun x => (key x, value x)).lookup (key a) = some (value a) := by
  induction items with
  | nil => cases ha
  | cons first rest ih =>
    rw [List.map_cons, List.nodup_cons] at distinct
    rw [List.map_cons, List.lookup_cons]
    rcases List.mem_cons.mp ha with rfl | ha
    · simp
    · have other : key a ≠ key first := fun e => distinct.1 (e ▸ List.mem_map_of_mem ha)
      rw [beq_eq_false_iff_ne.mpr other]
      exact ih distinct.2 ha

section Entries

variable {vs : List Variable} {f f' : Variable → Except Fault Value}

/-- The entries of a dictionary with the names of variables. -/
def entriesOf (vs : List Variable) (f : Variable → Except Fault Value) :
    Except Fault (List (String × Value)) :=
  vs.mapM fun v => do return (v.name, ← f v)

theorem entriesOf_cons (v : Variable) (rest : List Variable) : entriesOf (v :: rest) f = (do
    let value ← f v
    let others ← entriesOf rest f
    return (v.name, value) :: others) := by
  unfold entriesOf
  rw [List.mapM_cons]
  cases f v <;> rfl

theorem entriesOf_cons_of_first {v : Variable} {value : Value} (one : f v = .ok value)
    (rest : List Variable) :
    entriesOf (v :: rest) f = ((v.name, value) :: ·) <$> entriesOf rest f := by
  rw [entriesOf_cons, one]
  cases entriesOf rest f <;> rfl

theorem entriesOf_cons_of_rest {rest : List Variable} {others : List (String × Value)}
    (more : entriesOf rest f = .ok others) (v : Variable) :
    entriesOf (v :: rest) f = (fun value => (v.name, value) :: others) <$> f v := by
  rw [entriesOf_cons, more]
  cases f v <;> rfl

theorem exists_entriesOf (h : ∀ v ∈ vs, ∃ out, f v = .ok out) : ∃ all, entriesOf vs f = .ok all :=
  exists_mapM fun v hv => by
    obtain ⟨out, eq⟩ := h v hv
    rw [eq]
    exact ⟨_, rfl⟩

/-- Equal entries that are all there are made of equal values. -/
theorem eq_of_entriesOf_eq (eq : entriesOf vs f = entriesOf vs f')
    (ok : ∀ v ∈ vs, ∃ out, f' v = .ok out) : ∀ v ∈ vs, f v = f' v := by
  induction vs with
  | nil => exact fun v hv => absurd hv List.not_mem_nil
  | cons first rest ih =>
    obtain ⟨⟨out, one⟩, others⟩ := List.forall_mem_cons.mp ok
    obtain ⟨all, more⟩ := exists_entriesOf others
    rw [entriesOf_cons, entriesOf_cons, one, more] at eq
    obtain ⟨value, one', eq⟩ := except_bind_eq_ok_iff.mp eq
    obtain ⟨all', more', eq⟩ := except_bind_eq_ok_iff.mp eq
    cases eq
    intro v hv
    rcases List.mem_cons.mp hv with rfl | hv
    · rw [one, one']
    · exact ih (more'.trans more.symm) others v hv

/-- Entries that differ in one variable at most, and are equal, do not differ there. -/
theorem eq_of_entriesOf_eq_of_others (distinct : vs.Nodup) (eq : entriesOf vs f = entriesOf vs f')
    {v : Variable} (hv : v ∈ vs) (same : ∀ u ∈ vs, u ≠ v → f u = f' u)
    (ok : ∀ u ∈ vs, u ≠ v → ∃ out, f' u = .ok out) : f v = f' v := by
  induction vs with
  | nil => cases hv
  | cons first rest ih =>
    rw [List.nodup_cons] at distinct
    rcases List.mem_cons.mp hv with rfl | hv
    · have other (u : Variable) (hu : u ∈ rest) : u ≠ v := fun e => distinct.1 (e ▸ hu)
      obtain ⟨all, more⟩ := exists_entriesOf fun u hu =>
        ok u (List.mem_cons_of_mem _ hu) (other u hu)
      have rest_eq : entriesOf rest f = entriesOf rest f' :=
        mapM_congr fun u hu => by rw [same u (List.mem_cons_of_mem _ hu) (other u hu)]
      rw [entriesOf_cons_of_rest (rest_eq.trans more), entriesOf_cons_of_rest more] at eq
      refine map_injective (fun a b e => ?_) eq
      cases e
      rfl
    · have other : first ≠ v := fun e => distinct.1 (e ▸ hv)
      obtain ⟨out, one⟩ := ok first List.mem_cons_self other
      rw [entriesOf_cons_of_first ((same first List.mem_cons_self other).trans one),
        entriesOf_cons_of_first one] at eq
      exact ih distinct.2 (map_injective List.cons_injective eq) hv
        (fun u hu => same u (List.mem_cons_of_mem _ hu))
        fun u hu => ok u (List.mem_cons_of_mem _ hu)

end Entries

/-! ## What is sent for variables -/

/-- What is sent for a bare value of a variable. -/
def sendAlone (g : Setting) (bindings : Bindings) (v : Variable) (x : Value) : Except Fault Value :=
  match g.schema.type? v.type.bareName with
  | some t => sendBare g bindings t x
  | none => .error .invalidCode

/-- **What is to be sent for the value of a variable**: nothing stays nothing, lists are gone
through item by item, and what is sent for a bare value depends on its type. -/
def reference (g : Setting) (bindings : Bindings) (v : Variable) (x : Value) : Except Fault Value :=
  encode (sendAlone g bindings v) (layers v.type) x

/-- What the serializer of a variable calls by its name. -/
def callFor? (g : Setting) (v : Variable) : Option Call :=
  (g.schema.type? v.type.bareName).bind fun t => callOf? g t (layers v.type)

/-- The parameter is that of the variable. -/
def IsParameterOf (g : Setting) (v : Variable) (p : Parameter) : Prop :=
  ∃ t c, g.schema.type? v.type.bareName = some t ∧ sentAs g t = .ok c ∧
    p = parameterOf [] (parameterName v.name) v.name v.type c

variable {g : Setting} {v : Variable} {p : Parameter} {bindings : Bindings} {fits : Value → Prop}

theorem sendAlone_eq {t : TypeDefinition} (found : g.schema.type? v.type.bareName = some t)
    (bindings : Bindings) : sendAlone g bindings v = sendBare g bindings t := by
  funext x
  unfold sendAlone
  rw [found]

theorem callFor?_eq {t : TypeDefinition} (found : g.schema.type? v.type.bareName = some t) :
    callFor? g v = callOf? g t (layers v.type) := by
  unfold callFor?
  rw [found, Option.bind_some]

/-- What the serializer of a parameter makes of the value of its variable. -/
def sentFor (p : Parameter) (s : Scope) : Except Fault Value :=
  (p.serializer.fill (.name p.name)).value s

theorem IsParameterOf.name_eq (h : IsParameterOf g v p) : p.name = parameterName v.name := by
  obtain ⟨t, c, -, -, rfl⟩ := h
  rfl

theorem IsParameterOf.graphqlName_eq (h : IsParameterOf g v p) : p.graphqlName = v.name := by
  obtain ⟨t, c, -, -, rfl⟩ := h
  rfl

/-- Without a call by a name, a variable is sent as it should be. -/
theorem IsParameterOf.sentFor_of_no_call (h : IsParameterOf g v p) (none : callFor? g v = none)
    (named : IsName v.name) {s : Scope} {x : Value} (sends : s.send = send bindings)
    (bound : s.locals.lookup (parameterName v.name) = some x)
    (conforms : Conforms fits (layers v.type) x) : sentFor p s = reference g bindings v x := by
  obtain ⟨t, c, found, sent, rfl⟩ := h
  rw [callFor?_eq found] at none
  unfold reference
  rw [sendAlone_eq found]
  rw [sendBare_eq, ← sends]
  exact value_of_no_call sent none (isWord_parameterName named) (value_name bound) conforms

theorem IsParameterOf.layers_eq (h : IsParameterOf g v p) {call : Call}
    (calls : callFor? g v = some call) : layers v.type = call.around ++ call.inside := by
  obtain ⟨t, c, found, sent, -⟩ := h
  rw [callFor?_eq found] at calls
  exact (toExpr_of_call sent calls "").1

theorem IsParameterOf.isRoot (h : IsParameterOf g v p) {call : Call}
    (calls : callFor? g v = some call) : ∃ root, call.function.root? = some root := by
  obtain ⟨t, c, found, sent, -⟩ := h
  rw [callFor?_eq found] at calls
  exact (toExpr_of_call sent calls "").2.1

theorem IsParameterOf.sentFor_of_call (h : IsParameterOf g v p) {call : Call}
    (calls : callFor? g v = some call) (s : Scope) :
    sentFor p s = ((Encoder.build (.call call.function .hole) (parameterName v.name) 1
      call.around).toExpr.fill (.name (parameterName v.name))).value s := by
  obtain ⟨t, c, found, sent, rfl⟩ := h
  rw [callFor?_eq found] at calls
  rw [← (toExpr_of_call sent calls (parameterName v.name)).2.2]
  rfl

/-! ## The scope of an operation -/

/-- A method that sends variables: all have values, under the names of their parameters, and nothing
else has. -/
structure Sends (method : Scope) (bindings : Bindings) (vs : List Variable) (val : String → Value)
    (s : Scope) : Prop where
  bindings_eq : s.bindings = method.bindings
  send_eq : s.send = method.send
  sends : method.send = send bindings
  nowhere : method.locals = []
  locals : s.locals = vs.map fun v => (parameterName v.name, val v.name)

variable {method s : Scope} {vs : List Variable} {val : String → Value}

/-- The names of the variables in the method. -/
def taken (vs : List Variable) : List String := vs.map fun v => parameterName v.name

theorem nodup_names (distinct : (taken vs).Nodup) : (vs.map (·.name)).Nodup :=
  List.Nodup.of_map parameterName (by rwa [List.map_map])

theorem Sends.inside (h : Sends method bindings vs val s) : Inside method s (taken vs) where
  bindings := h.bindings_eq
  send := h.send_eq
  locals := by
    intro l hl
    rw [h.locals] at hl
    obtain ⟨v, hv, rfl⟩ := List.mem_map.mp hl
    exact List.mem_map_of_mem hv

theorem Sends.bound (h : Sends method bindings vs val s) (distinct : (taken vs).Nodup)
    (hv : v ∈ vs) : s.locals.lookup (parameterName v.name) = some (val v.name) := by
  rw [h.locals]
  exact lookup_map_of_nodup (fun v : Variable => parameterName v.name) (fun v => val v.name)
    distinct hv

theorem Sends.has (h : Sends method bindings vs val s) (distinct : (taken vs).Nodup) :
    ∀ name ∈ taken vs, s.Has name := by
  intro name mem
  obtain ⟨v, hv, rfl⟩ := List.mem_map.mp mem
  exact ⟨_, h.bound distinct hv⟩

/-- **A variable whose call resolves is sent as it should be.** -/
theorem Sends.sentFor_eq (h : Sends method bindings vs val s) (distinct : (taken vs).Nodup)
    (hv : v ∈ vs) (named : IsName v.name) (isParameter : IsParameterOf g v p)
    (resolves : ∀ call, callFor? g v = some call → Resolves method (taken vs) (parameterName v.name)
      call fits (sendAlone g bindings v))
    (conforms : Conforms fits (layers v.type) (val v.name)) :
    sentFor p s = reference g bindings v (val v.name) := by
  have bound := h.bound distinct hv
  cases calls : callFor? g v with
  | none =>
    exact isParameter.sentFor_of_no_call calls named (h.send_eq.trans h.sends) bound conforms
  | some call =>
    have layers_eq := isParameter.layers_eq calls
    rw [layers_eq] at conforms
    rw [isParameter.sentFor_of_call calls]
    unfold reference
    rw [layers_eq]
    have resolves := resolves call calls
    exact value_of_resolves resolves.isFree resolves.makes (isParameter.isRoot calls) ⟨_, rfl⟩
      (isWord_parameterName named) h.nowhere h.inside (value_name bound) conforms

/-! ## Values with single items -/

/-- The call of a variable is not hidden, and makes of one bare value what should be sent for it. -/
structure ResolvesAt (method : Scope) (taken : List String) (stem : String) (call : Call)
    (bare : Value → Except Fault Value) (w : Value) : Prop where
  free : call.IsFree taken stem (.name stem)
  makes : call.Makes method stem (.name stem) bare w

/-- If a value with single items is sent as it should be, the call resolves at its bare value. -/
theorem Sends.resolvesAt (h : Sends method bindings vs val s) (distinct : (taken vs).Nodup)
    (hv : v ∈ vs) (named : IsName v.name) (isParameter : IsParameterOf g v p) {call : Call}
    (calls : callFor? g v = some call) {w out : Value}
    (arrives : Arrives (Conforms fits call.inside) call.around w)
    (nested : val v.name = nest call.around w)
    (ok : encode (sendAlone g bindings v) call.inside w = .ok out)
    (eq : sentFor p s = reference g bindings v (val v.name)) :
    ResolvesAt method (taken vs) (parameterName v.name) call (sendAlone g bindings v) w := by
  have isWord := isWord_parameterName named
  have bound := h.bound distinct hv
  unfold reference at eq
  rw [isParameter.sentFor_of_call calls, isParameter.layers_eq calls, nested] at eq
  rw [nested] at bound
  have refers := value_name bound
  have free := free_of_eq isWord arrives (h.has distinct) refers eq ok
  have isRoot := isParameter.isRoot calls
  exact ⟨free, makes_of_eq isWord isRoot ⟨_, rfl⟩ arrives h.nowhere h.inside refers free eq⟩

/-- A value with single items is sent as it should be, if the call resolves at its bare value. -/
theorem Sends.sentFor_of_resolvesAt (h : Sends method bindings vs val s)
    (distinct : (taken vs).Nodup) (hv : v ∈ vs) (named : IsName v.name)
    (isParameter : IsParameterOf g v p) {call : Call} (calls : callFor? g v = some call) {w : Value}
    (arrives : Arrives (Conforms fits call.inside) call.around w)
    (nested : val v.name = nest call.around w)
    (resolves : ResolvesAt method (taken vs) (parameterName v.name) call (sendAlone g bindings v)
      w) :
    sentFor p s = reference g bindings v (val v.name) := by
  have bound := h.bound distinct hv
  rw [nested] at bound
  unfold reference
  rw [isParameter.sentFor_of_call calls, isParameter.layers_eq calls, nested]
  exact value_of_nest (isWord_parameterName named) (isParameter.isRoot calls) ⟨_, rfl⟩ arrives
    h.nowhere h.inside (value_name bound) resolves.free resolves.makes

theorem nest_append (around inside : List Layer) (w : Value) :
    nest (around ++ inside) w = nest around (nest inside w) := by
  induction around with
  | nil => rfl
  | cons layer around ih =>
    cases layer with
    | nilable => exact ih
    | array => exact congrArg (fun x => Value.list [x]) ih

theorem isNothing_nest {w : Value} (h : w.isNothing = false) (layers : List Layer) :
    (nest layers w).isNothing = false := by
  induction layers with
  | nil => exact h
  | cons layer rest ih =>
    cases layer with
    | nilable => exact ih
    | array => rfl

/-- All variables have values with single items, around bare values that fit and are sent. -/
structure Sample (g : Setting) (bindings : Bindings) (vs : List Variable)
    (fits : Variable → Value → Prop) (val : String → Value) (bare : Variable → Value) : Prop where
  fits : ∀ v ∈ vs, fits v (bare v)
  something : ∀ v ∈ vs, (bare v).isNothing = false
  sent : ∀ v ∈ vs, ∃ out, sendAlone g bindings v (bare v) = .ok out
  nested : ∀ v ∈ vs, val v.name = nest (layers v.type) (bare v)

section Samples

variable {fits : Variable → Value → Prop} {bare : Variable → Value}

theorem exists_sample (distinct : (vs.map (·.name)).Nodup)
    (known : ∀ v ∈ vs, ∃ w out, fits v w ∧ w.isNothing = false ∧
      sendAlone g bindings v w = .ok out) :
    ∃ val bare, Sample g bindings vs fits val bare := by
  choose! bare out hfits something sent using known
  refine ⟨fun name => ((vs.map fun v => (v.name, nest (layers v.type) (bare v))).lookup name).getD
    .nothing, bare, hfits, something, fun v hv => ⟨_, sent v hv⟩, fun v hv => ?_⟩
  rw [lookup_map_of_nodup (·.name) (fun v => nest (layers v.type) (bare v)) distinct hv]
  rfl

variable (sample : Sample g bindings vs fits val bare) (hv : v ∈ vs)
include sample hv

theorem Sample.arrives (layers : List Layer) : Arrives (fits v) layers (bare v) :=
  ⟨sample.fits v hv, fun _ => sample.something v hv⟩

theorem Sample.conforms : Conforms (fits v) (layers v.type) (val v.name) := by
  rw [sample.nested v hv]
  exact conforms_nest (sample.arrives hv _)

theorem Sample.encode_ok (layers : List Layer) :
    ∃ out, encode (sendAlone g bindings v) layers (nest layers (bare v)) = .ok out := by
  obtain ⟨out, sent⟩ := sample.sent v hv
  rw [encode_nest (sample.arrives hv layers), sent]
  exact ⟨_, rfl⟩

theorem Sample.reference_ok : ∃ out, reference g bindings v (val v.name) = .ok out := by
  unfold reference
  rw [sample.nested v hv]
  exact sample.encode_ok hv _

theorem Sample.arrives_call (call : Call) :
    Arrives (Conforms (fits v) call.inside) call.around (nest call.inside (bare v)) :=
  ⟨conforms_nest (sample.arrives hv _), fun _ => isNothing_nest (sample.something v hv) _⟩

theorem Sample.nested_call (isParameter : IsParameterOf g v p) {call : Call}
    (calls : callFor? g v = some call) :
    val v.name = nest call.around (nest call.inside (bare v)) := by
  rw [sample.nested v hv, isParameter.layers_eq calls, nest_append]

end Samples

/-- **The calls of all variables resolve**, if all values that conform are sent as they should
be. -/
theorem resolves_of_sentFor {fits : Variable → Value → Prop} {parameterOf : Variable → Parameter}
    {scopeFor : (String → Value) → Scope}
    (sends : ∀ val, Sends method bindings vs val (scopeFor val))
    (distinct : (taken vs).Nodup) (named : ∀ v ∈ vs, IsName v.name)
    (isParameter : ∀ v ∈ vs, IsParameterOf g v (parameterOf v))
    (known : ∀ v ∈ vs, ∃ w out, fits v w ∧ w.isNothing = false ∧ sendAlone g bindings v w = .ok out)
    (eq : ∀ val : String → Value, (∀ v ∈ vs, Conforms (fits v) (layers v.type) (val v.name)) →
      entriesOf vs (fun v => sentFor (parameterOf v) (scopeFor val)) =
        entriesOf vs fun v => reference g bindings v (val v.name)) :
    ∀ v ∈ vs, ∀ call, callFor? g v = some call →
      Resolves method (taken vs) (parameterName v.name) call (fits v) (sendAlone g bindings v) := by
  have byName {u v : Variable} (hu : u ∈ vs) (hv : v ∈ vs) (e : u.name = v.name) : u = v :=
    List.inj_on_of_nodup_map distinct hu hv (congrArg parameterName e)
  obtain ⟨val, bare, sample⟩ := exists_sample (nodup_names distinct) known
  have sent := eq_of_entriesOf_eq (eq val fun v hv => sample.conforms hv)
    fun v hv => sample.reference_ok hv
  have resolvesAt (v : Variable) (hv : v ∈ vs) (call : Call) (calls : callFor? g v = some call) :
      ResolvesAt method (taken vs) (parameterName v.name) call (sendAlone g bindings v)
        (nest call.inside (bare v)) := by
    obtain ⟨out, ok⟩ := sample.encode_ok hv call.inside
    exact (sends val).resolvesAt distinct hv (named v hv) (isParameter v hv) calls
      (sample.arrives_call hv call) (sample.nested_call hv (isParameter v hv) calls) ok (sent v hv)
  intro v hv call calls
  refine .of_free (resolvesAt v hv call calls).free fun x arrives => ?_
  -- the other variables keep the values that are sent as they should be
  let val' (name : String) : Value := if name = v.name then nest call.around x else val name
  have here : val' v.name = nest call.around x := if_pos rfl
  have elsewhere (u : Variable) (hu : u ∈ vs) (other : u ≠ v) : val' u.name = val u.name :=
    if_neg fun e => other (byName hu hv e)
  have conforms (u : Variable) (hu : u ∈ vs) : Conforms (fits u) (layers u.type) (val' u.name) := by
    by_cases same : u = v
    · rw [same, here, (isParameter v hv).layers_eq calls]
      exact (conforms_append _ _ _).mpr (conforms_nest arrives)
    · rw [elsewhere u hu same]
      exact sample.conforms hu
  have others (u : Variable) (hu : u ∈ vs) (other : u ≠ v) :
      sentFor (parameterOf u) (scopeFor val') = reference g bindings u (val' u.name) := by
    cases callsU : callFor? g u with
    | none =>
      exact (isParameter u hu).sentFor_of_no_call callsU (named u hu)
        ((sends val').send_eq.trans (sends val').sends) ((sends val').bound distinct hu)
        (conforms u hu)
    | some c =>
      exact (sends val').sentFor_of_resolvesAt distinct hu (named u hu) (isParameter u hu) callsU
        (sample.arrives_call hu c)
        ((elsewhere u hu other).trans (sample.nested_call hu (isParameter u hu) callsU))
        (resolvesAt u hu c callsU)
  have last := eq_of_entriesOf_eq_of_others (List.Nodup.of_map _ distinct) (eq val' conforms) hv
    others fun u hu other => by
      rw [elsewhere u hu other]
      exact sample.reference_ok hu
  have bound := (sends val').bound distinct hv
  unfold reference at last
  rw [(isParameter v hv).sentFor_of_call calls, (isParameter v hv).layers_eq calls, here] at last
  rw [here] at bound
  exact makes_of_eq (isWord_parameterName (named v hv)) ((isParameter v hv).isRoot calls) ⟨_, rfl⟩
    arrives (sends val').nowhere (sends val').inside (value_name bound)
    (resolvesAt v hv call calls).free last

end QueryShape.Program
