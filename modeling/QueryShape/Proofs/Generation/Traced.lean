import QueryShape.Program.Load
import QueryShape.Proofs.Generation.Changes

/-!
# Where the parts of a class come from

Every class of a session is traced back to the documents of its calls: its name, the paths of its
accessors, and its parameters. What converts its values has been imported.

* `Traced`: what is known of a class.
* `traced_after`: all classes of all sessions are traced, whatever comes of the calls.
-/

namespace QueryShape.Generation

open Document Program.Thing Record Session

variable {calls : List (Generator × Declaration)} {g : Generator} {d : Declaration}
  {s s' : Session} {x : Record}

/-! ## Parts of classes -/

/-- The path of an accessor of a class is that of a field that some document selects there, and what
converts its values has been imported. -/
def ReadFrom (calls : List (Generator × Declaration)) (s : Session) (className accessor : String)
    (path : Path) : Prop :=
  ∃ g d p f r, (g, d) ∈ calls ∧ AsksFor g d p f ∧ p.className = className ∧
    readingOf g.toSetting p f = .ok r ∧ r.accessor = accessor ∧ r.path p f = path ∧
    s.Imports g.toSetting r.type

/-- The document declares a variable, or the schema an input field, of the name and type. -/
inductive Declares (g : Generator) (d : Declaration) : (name : String) → TypeRef → Prop
  | ofVariable {q : Request} {name : String} {o : Operation} {v : Variable}
      (asked : g.asks d = .ok q) (mem : (name, o) ∈ q.operations) (declared : v ∈ o.parameters) :
      Declares g d v.name v.type
  | ofField {t : TypeDefinition} {field : InputValue} (found : g.schema.type? t.name = some t)
      (kind : t.kind = .input) (declared : field ∈ t.inputFields) :
      Declares g d field.name field.type

/-- The parameter is that of a variable or input field, and what converts its values has been
imported. -/
def TakenFrom (calls : List (Generator × Declaration)) (s : Session) (a : Parameter) : Prop :=
  ∃ g d pending reserved name type, (g, d) ∈ calls ∧ Declares g d name type ∧
    ParameterFrom g.toSetting s pending reserved name type a

/-- The class is named after an operation, a selection set or a type. -/
inductive NamedFrom (calls : List (Generator × Declaration)) : Record → Prop
  | operation {g : Generator} {d : Declaration} {q : Request} {o : Operation} {r : Root}
      (call : (g, d) ∈ calls) (asked : g.asks d = .ok q) (mem : (r.name, o) ∈ q.operations) :
      NamedFrom calls (.root r)
  | selection {g : Generator} {d : Declaration} {q : Request} {p : Place}
      {selections : List Selection} {l : Leaf} (call : (g, d) ∈ calls) (asked : g.asks d = .ok q)
      (opened : OpenedBy g q p selections) (under : p.IsUnder g.schema)
      (name_eq : l.name = p.className) : NamedFrom calls (.leaf l)
  | type {g : Generator} {d : Declaration} {t : TypeDefinition} {x : Record}
      (call : (g, d) ∈ calls) (found : g.schema.type? t.name = some t)
      (kind : x.kind = .enum ∨ x.kind = .input) (name_eq : x.name = Naming.typeClassName t.name) :
      NamedFrom calls x

/-- What is known of a class of a session. -/
structure Traced (calls : List (Generator × Declaration)) (s : Session) (x : Record) : Prop where
  named : NamedFrom calls x
  distinct : (accessorNames (accessorsOf x)).Nodup
  allRead : AllRead (accessorsOf x)
  read : ∀ accessor path, ReadsAlong (accessorsOf x) accessor path →
    ReadFrom calls s x.name accessor path
  taken : ∀ a ∈ Program.parametersOf x, TakenFrom calls s a

theorem Traced.of_subset (h : Traced calls s x) (sub : ∀ line ∈ s.imports, line ∈ s'.imports) :
    Traced calls s' x where
  named := h.named
  distinct := h.distinct
  allRead := h.allRead
  read := by
    intro accessor path reads
    obtain ⟨g, d, p, f, r, mem, asks, className, hr, name, eq, imports⟩ := h.read _ _ reads
    exact ⟨g, d, p, f, r, mem, asks, className, hr, name, eq, imports.of_subset sub⟩
  taken := by
    intro a ha
    obtain ⟨g, d, pending, reserved, name, type, mem, declares, isParameter⟩ := h.taken a ha
    exact ⟨g, d, pending, reserved, name, type, mem, declares, isParameter.of_subset sub⟩

/-! ## What is registered -/

/-- The accessors of a selection set read the fields that it selects. -/
theorem readFrom_of_select (call : (g, d) ∈ calls) {q : Request} (asked : g.asks d = .ok q)
    {p : Place} {selections : List Selection} (opened : OpenedBy g q p selections)
    {left : List Fragment} (known : Known left q.fragments) {members : Members}
    (ok : (select g.toSetting left p selections {}).result = .ok members)
    (imported : s.Imported (select g.toSetting left p selections {}).steps) {accessor : String}
    {path : Path} (reads : ReadsAlong members.accessors accessor path) :
    ReadFrom calls s p.className accessor path := by
  obtain ⟨place, f, inner, r, selected, hr, name, eq⟩ :=
    ((gives_of_select known ok).accessors _ _).mp reads
  exact ⟨g, d, place, f, r, call, ⟨q, p, selections, inner, asked, opened, selected⟩,
    selected.className_eq, hr, name, eq, imports_of_selects known ok imported selected hr⟩

theorem exists_of_mem_forall₂ {α β : Type} {related : α → β → Prop} {as : List α} {bs : List β}
    (h : List.Forall₂ related as bs) {b : β} (mem : b ∈ bs) : ∃ a ∈ as, related a b := by
  induction h with
  | nil => cases mem
  | cons one _ ih =>
    rcases List.mem_cons.mp mem with rfl | mem
    · exact ⟨_, List.mem_cons_self, one⟩
    · obtain ⟨a, ha, related⟩ := ih mem
      exact ⟨a, List.mem_cons_of_mem _ ha, related⟩

/-- A class that a call registers is traced back to its document. -/
theorem traced_of_makes (call : (g, d) ∈ calls) (makes : Makes g d s x) : Traced calls s x := by
  cases makes with
  | enum found kind free =>
    exact ⟨.type call found (Or.inl rfl) rfl, List.nodup_nil, allRead_nil,
      fun _ _ reads => absurd reads not_readsAlong_nil, fun _ ha => absurd ha List.not_mem_nil⟩
  | input pending found kind parameters =>
    refine ⟨.type call found (Or.inr rfl) rfl, List.nodup_nil, allRead_nil,
      fun _ _ reads => absurd reads not_readsAlong_nil, fun a ha => ?_⟩
    obtain ⟨field, declared, isParameter⟩ := exists_of_mem_forall₂ parameters ha
    exact ⟨g, d, _, _, _, _, call, .ofField found kind declared, isParameter⟩
  | leaf from_ imported =>
    cases from_ with
    | mk asked opened under known ok sub =>
      have gives := gives_of_select known ok
      refine ⟨.selection call asked opened under rfl, gives.distinct, gives.allRead,
        fun _ _ reads => ?_, fun _ ha => absurd ha List.not_mem_nil⟩
      exact readFrom_of_select call asked opened known ok
        (fun scalar path lines mem => imported scalar path lines (sub mem)) reads
  | @root q name o r asked mem from_ =>
    obtain ⟨root, members, isClass, imported⟩ := from_.made
    have accessors : accessorsOf (.root r) = members.accessors := isClass.accessors
    have opened : OpenedBy g q (operationPlace name root) o.selections :=
      ⟨name, o, root, mem, isClass.rooted, .here _ _⟩
    have known := Known.refl q.fragments
    have ok := isClass.selected
    have gives := gives_of_select known ok
    refine ⟨.operation call asked (isClass.name_eq ▸ mem), accessors ▸ gives.distinct,
      accessors ▸ gives.allRead, ?_, fun a ha => ?_⟩
    · intro accessor path reads
      change ReadFrom calls s r.name accessor path
      rw [isClass.name_eq]
      exact readFrom_of_select call asked opened known ok imported (accessors ▸ reads)
    · obtain ⟨v, declared, isParameter⟩ := exists_of_mem_forall₂ from_.parameters ha
      exact ⟨g, d, _, _, _, _, call, .ofVariable asked mem declared, isParameter⟩

/-! ## Sessions -/

/-- A merged class is traced back to the documents of both. -/
theorem Traced.merge {old l : Leaf} (h : Traced calls s (.leaf old))
    (new : Traced calls s (.leaf l)) (name : old.name = l.name) :
    Traced calls s (.leaf (Registry.mergedLeaf old l)) where
  named := by
    cases h.named with
    | selection call asked opened under name_eq => exact .selection call asked opened under name_eq
    | type _ _ kind _ => rcases kind with kind | kind <;> cases kind
  distinct := nodup_mergeAccessors h.distinct l.accessors
  allRead := allRead_mergeAccessors h.distinct h.allRead new.allRead
  read := by
    intro accessor path reads
    rcases (readsAlong_mergeAccessors h.distinct).mp reads with reads | reads
    · exact h.read accessor path reads
    · have from_ := new.read accessor path reads
      change ReadFrom calls s old.name accessor path
      rw [name]
      exact from_
  taken := fun _ ha => absurd ha List.not_mem_nil

/-- **All classes of all sessions are traced back to the documents of their calls**, whatever comes
of each call. -/
theorem traced_after (calls : List (Generator × Declaration)) :
    ∀ x ∈ (after {} calls).registry.records, Traced calls (after {} calls) x := by
  refine @invariant_after (fun s => ∀ x ∈ s.registry.records, Traced calls s x)
    (fun x hx => absurd hx List.not_mem_nil) calls ?_
  intro g d call s s' change traced x hx
  have sub := Changes.imports_subset (.single change)
  suffices Traced calls s x from this.of_subset sub
  cases change with
  | other registry _ => exact traced x (registry ▸ hx)
  | imports _ _ registry _ => exact traced x (registry ▸ hx)
  | add makes _ records _ =>
    rcases List.mem_append.mp (records ▸ hx) with hx | hx
    · exact traced x hx
    · rw [List.mem_singleton.mp hx]
      exact traced_of_makes call makes
  | merge makes mem name _ registry _ =>
    rw [registry, Registry.records_replace] at hx
    obtain ⟨y, hy, eq⟩ := List.mem_map.mp hx
    split at eq
    · rw [← eq]
      exact (traced _ mem).merge (traced_of_makes call makes) name
    · exact eq ▸ traced y hy

end QueryShape.Generation
