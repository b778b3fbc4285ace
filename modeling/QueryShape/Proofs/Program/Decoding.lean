import QueryShape.Proofs.Program.Serialize
import QueryShape.Proofs.Program.Substitution

/-!
# Decoders and the shape of values

A decoder binds the items of every list to a name: the placeholder for those of the innermost list,
a numbered name for those of a list around others. The conversion of bare values stands inside all
lists, so what it is written with must not have one of the names.

* `value_build`: if it does not, an accessor makes of a value what the layers make of it.
* `value_build_ne_ok`: if a function is called that has one of the names, no value with an item in
  every list is decoded.
* `decodes_by_layers`: both, for the statements of an accessor and for the one expression, and what
  the signature with the layers admits.
* `captured_items`: an enum that has the name of the items of a list cannot be read inside lists.
-/

namespace QueryShape

namespace Program

open Code Generation

/-! ## Statements and expressions -/

/-- The statements of a decoder return what the expression gives. -/
theorem runDecoder_eq (s : Scope) (d : Decoder) : runDecoder s d = d.toExpr.value s := by
  induction d with
  | convert template access? => rfl
  | each source item body _ => rfl
  | guard subject inList body ih =>
    cases inList with
    | true => rfl
    | false =>
      unfold runDecoder Decoder.toExpr
      rw [value_unlessNothing, ih]

/-! ## Names of items -/

/-- The names that the items of the lists among layers have. -/
def decoderItems : List Layer → List String
  | [] => []
  | .nilable :: rest => decoderItems rest
  | .array :: rest => Decoder.itemName (arrayDepth rest) :: decoderItems rest

variable {template : Expr} {base s : Scope} {bound : List String}

/-- Inside a list, a decoder makes of an item what the layers make of it. -/
theorem value_itemDecoder_of_free (isTemplate : template.IsTemplate)
    (free : ∀ n ∈ template.names, n ∉ bound) (layers : List Layer) (level : Nat)
    (items : ∀ n ∈ decoderItems (.array :: layers), n ∈ bound) (inside : Extends base s bound)
    (w : Value) :
    (itemDecoder template layers level).toExpr.value
        (s.with (Decoder.itemName (arrayDepth layers)) w) =
      encode (convertIn base template) layers w := by
  induction layers generalizing level s w with
  | nil => exact convertIn_of_extends isTemplate inside free w
  | cons layer rest ih =>
    cases layer with
    | nilable =>
      have body := ih level items inside w
      unfold itemDecoder at body ⊢
      unfold Decoder.build Decoder.toExpr encode
      rw [arrayDepth_nilable, value_unlessNothing, value_name List.lookup_cons_self, body]
      rfl
    | array =>
      have isItem := items _ List.mem_cons_self
      have item (i : Value) := ih (level + 1) (fun n mem => items n (List.mem_cons_of_mem _ mem))
        (inside.with isItem w) i
      unfold itemDecoder at item ⊢
      unfold Decoder.build Decoder.toExpr encode
      rw [value_forEach, value_name List.lookup_cons_self, arrayDepth_array, funext item]
      rfl

/-- **A decoder makes of a value what the layers make of it**, if the conversion has none of the
names of items. -/
theorem value_build (isTemplate : template.IsTemplate) (free : ∀ n ∈ template.names, n ∉ bound)
    (layers : List Layer) (items : ∀ n ∈ decoderItems layers, n ∈ bound)
    (inside : Extends base s bound) {access : Expr} {v : Value} (refers : access.value s = .ok v) :
    (Decoder.build template layers access (arrayDepth layers) 0).toExpr.value s =
      encode (convertIn base template) layers v := by
  induction layers with
  | nil =>
    exact (value_fill isTemplate refers).trans (convertIn_of_extends isTemplate inside free v)
  | cons layer rest ih =>
    cases layer with
    | nilable =>
      unfold Decoder.build Decoder.toExpr encode
      rw [arrayDepth_nilable, value_unlessNothing, refers, ih items]
      rfl
    | array =>
      have item := value_itemDecoder_of_free isTemplate free rest 0 items inside
      unfold itemDecoder at item
      unfold Decoder.build Decoder.toExpr encode
      rw [value_forEach, refers, arrayDepth_array, funext item]
      rfl

/-! ## Functions that items hide -/

variable {function : Expr} {root : String} {fits : Value → Prop}

/-- A list with one item is not gone through if the item is not converted. -/
theorem forEach_ne_ok {value source : Expr} {item : String} {i : Value}
    (refers : source.value s = .ok (.list [i])) (h : ∀ out, value.value (s.with item i) ≠ .ok out)
    (out : Value) : (Expr.forEach value item source).value s ≠ .ok out := by
  rw [value_forEach, refers]
  change Except.bind ([i].mapM fun v => value.value (s.with item v)) _ ≠ _
  rw [List.mapM_cons, List.mapM_nil]
  cases found : value.value (s.with item i) with
  | ok v => exact absurd found (h v)
  | error fault => nofun

/-- Inside a list, a function that an item hides decodes no value with an item in every list. -/
theorem value_itemDecoder_ne_ok (isRoot : function.root? = some root) (layers : List Layer)
    (level : Nat) {w : Value} (arrives : Arrives fits layers w)
    (hidden : (s.with (Decoder.itemName (arrayDepth layers)) (nest layers w)).Has root ∨
      root ∈ decoderItems layers) (out : Value) :
    (itemDecoder (.call function .hole) layers level).toExpr.value
      (s.with (Decoder.itemName (arrayDepth layers)) (nest layers w)) ≠ .ok out := by
  induction layers generalizing level s out with
  | nil =>
    have bound := hidden.resolve_right List.not_mem_nil
    exact value_call_ne_ok isRoot bound (value_hole List.lookup_cons_self)
  | cons layer rest ih =>
    cases layer with
    | nilable =>
      have body := ih level arrives.of_cons hidden out
      unfold itemDecoder at body ⊢
      unfold Decoder.build Decoder.toExpr
      rw [arrayDepth_nilable, value_unlessNothing, value_name List.lookup_cons_self]
      change (if (nest rest w).isNothing then _ else _) ≠ _
      rw [if_neg (by rw [nest_of_nilable arrives]; decide)]
      exact body
    | array =>
      have hidden : ((s.with (Decoder.itemName (arrayDepth (.array :: rest)))
          (nest (.array :: rest) w)).with (Decoder.itemName (arrayDepth rest)) (nest rest w)).Has
            root ∨ root ∈ decoderItems rest := by
        rcases hidden with has | mem
        · exact .inl (has.with _ _)
        · rcases List.mem_cons.mp mem with rfl | mem
          · exact .inl ⟨_, List.lookup_cons_self⟩
          · exact .inr mem
      have item := ih (level + 1) arrives.of_cons hidden
      unfold itemDecoder at item ⊢
      unfold Decoder.build Decoder.toExpr
      rw [arrayDepth_array]
      exact forEach_ne_ok (value_name List.lookup_cons_self) item out

/-- A function that an item hides decodes no value with an item in every list. -/
theorem value_build_ne_ok (isRoot : function.root? = some root) (layers : List Layer) {w : Value}
    (arrives : Arrives fits layers w) (hidden : root ∈ decoderItems layers) {access : Expr}
    (refers : access.value s = .ok (nest layers w)) (out : Value) :
    (Decoder.build (.call function .hole) layers access (arrayDepth layers) 0).toExpr.value s ≠
      .ok out := by
  induction layers with
  | nil => cases hidden
  | cons layer rest ih =>
    cases layer with
    | nilable =>
      unfold Decoder.build Decoder.toExpr
      rw [arrayDepth_nilable, value_unlessNothing, refers]
      change (if (nest rest w).isNothing then _ else _) ≠ _
      rw [if_neg (by rw [nest_of_nilable arrives]; decide)]
      exact ih arrives.of_cons hidden refers
    | array =>
      have hidden : (s.with (Decoder.itemName (arrayDepth rest)) (nest rest w)).Has root ∨
          root ∈ decoderItems rest := by
        rcases List.mem_cons.mp hidden with rfl | mem
        · exact .inl ⟨_, List.lookup_cons_self⟩
        · exact .inr mem
      have item := value_itemDecoder_ne_ok isRoot rest 0 arrives.of_cons hidden
      unfold itemDecoder at item
      unfold Decoder.build Decoder.toExpr
      rw [arrayDepth_array]
      exact forEach_ne_ok refers item out

/-! ## Signatures -/

/-- A value is one that a signature speaks of, given what the signatures of bare values do. -/
def IsOf (known : String → Value → Prop) : Signature → Value → Prop
  | .bare text, v => known text v
  | .optional a, v => v.isNothing = true ∨ IsOf known a v
  | .list a, v => ∃ items, v = .list items ∧ ∀ i ∈ items, IsOf known a i

/-- **What the layers make of a value is of the signature with the layers**, if bare values become
what their signature speaks of. -/
theorem isOf_encode {known : String → Value → Prop} {a : Signature}
    {bare : Value → Except Fault Value} (sound : ∀ w out, bare w = .ok out → IsOf known a out)
    (layers : List Layer) {v out : Value} (h : encode bare layers v = .ok out) :
    IsOf known (Signature.wrap layers a) out := by
  induction layers generalizing v out with
  | nil => exact sound v out h
  | cons layer rest ih =>
    cases layer with
    | nilable =>
      unfold encode at h
      split at h
      · cases h
        exact .inl rfl
      · exact .inr (ih h)
    | array =>
      unfold encode at h
      obtain ⟨items, -, h⟩ := except_bind_eq_ok_iff.mp h
      obtain ⟨outs, each, h⟩ := except_bind_eq_ok_iff.mp h
      cases h
      refine ⟨outs, rfl, fun i mem => ?_⟩
      obtain ⟨item, -, made⟩ := mem_of_mapM each mem
      exact ih made

/-! ## Decoding -/

/-- The statements of an accessor and the one expression make of every value with the layers what
the layers make of it. The value is reached through a variable that is none of the names that the
conversion is written with. -/
def DecodesBy (s : Scope) (template : Expr) (layers : List Layer) (fits : Value → Prop) : Prop :=
  ∀ x, x ∉ template.names → ∀ (u : Value) (access : Expr) (v : Value),
    access.value (s.with x u) = .ok v → Conforms fits layers v →
    let decoder := Decoder.build template layers access (arrayDepth layers) 0
    let decoded := encode (convertIn s template) layers v
    runStatements (s.with x u) decoder.statements = some <$> decoded ∧
      decoder.toExpr.value (s.with x u) = decoded

theorem decodesBy_of_free (isTemplate : template.IsTemplate) {layers : List Layer}
    (free : ∀ n ∈ template.names, n ∉ decoderItems layers) :
    DecodesBy s template layers fits := by
  intro x other u access v refers _ decoder decoded
  have apart (n : String) (mem : n ∈ template.names) : n ∉ x :: decoderItems layers := by
    intro among
    rcases List.mem_cons.mp among with rfl | item
    · exact other mem
    · exact free n mem item
  have value : decoder.toExpr.value (s.with x u) = decoded :=
    value_build isTemplate apart layers (fun n mem => List.mem_cons_of_mem _ mem)
      ((Extends.refl s _).with List.mem_cons_self u) refers
  refine ⟨?_, value⟩
  rw [runStatements_statements, runDecoder_eq, value]

/-- All that a name with members is written with is the name. -/
theorem names_of_root {e : Expr} (isRoot : e.root? = some root) {n : String} (mem : n ∈ e.names) :
    n = root := by
  induction e with
  | name other =>
    cases isRoot
    unfold Expr.names at mem
    split at mem
    · cases mem
    · exact List.mem_singleton.mp mem
  | member e m ih => exact ih isRoot mem
  | _ => cases isRoot

/-- A function is decoded by if and only if no item has its name, provided that it makes something
of some bare value. -/
theorem decodesBy_call_iff (isTemplate : (Expr.call function .hole).IsTemplate)
    (isRoot : function.root? = some root) {layers : List Layer} {w out : Value}
    (arrives : Arrives fits layers w)
    (works : convertIn s (.call function .hole) w = .ok out) :
    DecodesBy s (.call function .hole) layers fits ↔ root ∉ decoderItems layers := by
  constructor
  · intro decodes hidden
    have refers : Expr.hole.value (s.with placeholder (nest layers w)) = .ok (nest layers w) :=
      value_hole List.lookup_cons_self
    obtain ⟨-, value⟩ := decodes placeholder isTemplate.placeholder_notMem _ .hole _ refers
      (conforms_nest arrives)
    rw [encode_nest arrives, works] at value
    exact value_build_ne_ok isRoot layers arrives hidden refers _ value
  · intro free
    refine decodesBy_of_free isTemplate fun n mem => ?_
    have isName : n ∈ function.names := by simpa [Expr.names, Expr.hole] using mem
    exact names_of_root isRoot isName ▸ free

/-- **An accessor makes of a value what the layers of its type make of it**, if the conversion is
not written with a name that the items of a list have. Where the conversion is a call of a function
that makes something of some bare value, there is no other way. What is made of a value is of the
signature with the layers. -/
theorem decodes_by_layers (s : Scope) {template : Expr} (isTemplate : template.IsTemplate)
    (layers : List Layer) :
    ((∀ n ∈ template.names, n ∉ decoderItems layers) → ∀ fits, DecodesBy s template layers fits) ∧
    (∀ function root, template = .call function .hole → function.root? = some root →
      ∀ fits w out, Arrives fits layers w → convertIn s template w = .ok out →
        (DecodesBy s template layers fits ↔ root ∉ decoderItems layers)) ∧
    ∀ known a, (∀ w out, convertIn s template w = .ok out → IsOf known a out) →
      ∀ v out, encode (convertIn s template) layers v = .ok out →
        IsOf known (Signature.wrap layers a) out := by
  refine ⟨fun free fits => decodesBy_of_free isTemplate free, ?_, ?_⟩
  · rintro function root rfl isRoot fits w out arrives works
    exact decodesBy_call_iff isTemplate isRoot arrives works
  · intro known a sound v out decoded
    exact isOf_encode sound layers decoded

/-- The class of an enum with one value, and lists of lists of its values. -/
def enumScope (name : String) : Scope :=
  { bindings := [(name, .generated
      (.enum { name, graphqlType := name, values := ["ADMIN"] }) (.tool .enum))]
    send := fun v => .ok v }

/-- Lists of lists of roles, where every value may be missing. -/
theorem decodes_by_layers_roles :
    let template := (readByEnum "Role").template
    let layers := layers (.list (.list (.named "Role")))
    let decoder := Decoder.build template layers (.name "rows") (arrayDepth layers) 0
    let rows : Value := .list [.list [.text "ADMIN", .nothing], .nothing]
    let admin : Value := .enumMember "Role" "ADMIN" "ADMIN"
    decoder.toExpr.value ((enumScope "Role").with "rows" rows) =
      .ok (.list [.list [admin, .nothing], .nothing]) := by
  intro template layers decoder rows admin
  have isTemplate : template.IsTemplate :=
    ⟨⟨rfl, fill_of_word rfl (by decide)⟩, rfl⟩
  have free : ∀ n ∈ template.names, n ∉ decoderItems layers := by decide
  have fits : Conforms (fun v => v = .text "ADMIN") layers rows := by
    simp [layers, rows, Code.layers, layersUnder, Conforms, Value.isNothing]
  have decodes := (decodes_by_layers (enumScope "Role") isTemplate layers).1 free
    (fun v => v = .text "ADMIN") "rows" (by decide) rows (.name "rows") rows rfl fits
  exact decodes.2.trans (by cbv)

/-- **An enum that has the name of the items of a list cannot be read inside lists.** -/
theorem captured_items :
    let template := (readByEnum "inner_value1").template
    let layers := layers (.list (.list (.named "inner_value1")))
    let decoder := Decoder.build template layers (.name "rows") (arrayDepth layers) 0
    let s := enumScope "inner_value1"
    let rows : Value := .list [.list [.text "ADMIN"]]
    let admin : Value := .enumMember "inner_value1" "ADMIN" "ADMIN"
    encode (convertIn s template) layers rows = .ok (.list [.list [admin]]) ∧
      decoder.toExpr.value (s.with "rows" rows) = .error .noAttribute ∧
      runStatements (s.with "rows" rows) decoder.statements = .error .noAttribute := by
  intro template layers decoder s rows admin
  have value : decoder.toExpr.value (s.with "rows" rows) = .error .noAttribute := by cbv
  refine ⟨by cbv, value, ?_⟩
  rw [runStatements_statements, runDecoder_eq, value]
  rfl

end Program

end QueryShape
