import QueryShape.Proofs.Generation.Plan
import QueryShape.Proofs.Program.Decode

/-!
# Missing keys and types

Reading misses if an object has no such key, or is of a type that is not expected. Converting a
value never misses; all objects of generated classes that it gives are around parts of the value.
-/

namespace QueryShape

/-! ## Misses -/

/-- The fault is a missing key, or an unexpected type. -/
def Fault.isMiss : Fault → Bool
  | .missingKey _ | .unexpectedTypename .. => true
  | _ => false

/-- A computation ends in a missing key, or in an unexpected type. -/
def Misses (r : Except Fault α) : Prop := ∃ fault, r = .error fault ∧ fault.isMiss = true

@[simp]
theorem not_misses_ok (a : α) : ¬ Misses (.ok a : Except Fault α) := by
  rintro ⟨fault, h, -⟩
  cases h

@[simp]
theorem misses_error {fault : Fault} :
    Misses (.error fault : Except Fault α) ↔ fault.isMiss = true := by
  constructor
  · rintro ⟨_, eq, miss⟩
    cases eq
    exact miss
  · exact fun miss => ⟨fault, rfl, miss⟩

theorem not_misses_error {fault : Fault} (h : fault.isMiss = false) :
    ¬ Misses (.error fault : Except Fault α) := by
  rw [misses_error, h]
  exact Bool.false_ne_true

theorem not_misses_bind {r : Except Fault α} {f : α → Except Fault β} (h : ¬ Misses r)
    (next : ∀ a, r = .ok a → ¬ Misses (f a)) : ¬ Misses (r >>= f) := by
  cases r with
  | error fault => exact fun miss => h (misses_error.mpr (misses_error.mp miss))
  | ok a => exact next a rfl

theorem not_misses_map {r : Except Fault α} (f : α → β) (h : ¬ Misses r) : ¬ Misses (f <$> r) := by
  cases r with
  | error fault => exact fun miss => h (misses_error.mpr (misses_error.mp miss))
  | ok a => exact not_misses_ok (f a)

theorem not_misses_mapM {f : α → Except Fault β} {items : List α}
    (h : ∀ a ∈ items, ¬ Misses (f a)) : ¬ Misses (items.mapM f) := by
  induction items with
  | nil =>
    rw [List.mapM_nil]
    exact not_misses_ok _
  | cons first rest ih =>
    rw [List.mapM_cons]
    refine not_misses_bind (h first List.mem_cons_self) fun b _ => ?_
    refine not_misses_bind (ih fun a ha => h a (List.mem_cons_of_mem _ ha)) fun bs _ => ?_
    exact not_misses_ok _

namespace Value

/-! ## Objects in values -/

/-- The value is an object of a generated class, or a list that has it somewhere. -/
inductive Carries : Value → Value → Prop
  | object (className : String) (raw : Value) :
      Carries (.result className raw) (.result className raw)
  | item {items : List Value} {v w : Value} (mem : v ∈ items) (h : Carries v w) :
      Carries (.list items) w

/-- The value has no object of a generated class. -/
def IsPlain (v : Value) : Prop := ∀ w, ¬ v.Carries w

/-- A value, or an item of one that going through a value gives. -/
inductive Item : Value → Value → Prop
  | here (v : Value) : Item v v
  | of_items {v part w : Value} {items : List Value} (list : v.items = .ok items)
      (mem : part ∈ items) (h : Item part w) : Item v w

theorem not_misses_items (v : Value) : ¬ Misses v.items := by
  unfold items
  split <;> simp [Fault.isMiss]

theorem not_misses_toInt (v : Value) : ¬ Misses v.toInt := by
  unfold toInt
  repeat' split
  all_goals simp [Fault.isMiss]

theorem not_misses_toFloat (v : Value) : ¬ Misses v.toFloat := by
  unfold toFloat
  dsimp only
  repeat' split
  all_goals simp [Fault.isMiss]

end Value

namespace Program

open Code Generation Record

/-! ## Calls -/

theorem not_misses_enumMember (e : Record.Enum) (v : Value) : ¬ Misses (enumMember e v) := by
  unfold enumMember
  repeat' split
  all_goals simp [Fault.isMiss]

theorem not_misses_makeOf (t : Thing) (className : String) (v : Value) :
    ¬ Misses (t.makeOf className v) := by
  unfold Thing.makeOf Thing.wrap
  repeat' split
  all_goals simp [Fault.isMiss]

/-- Calling something never misses. -/
theorem not_misses_call (t : Thing) (v : Value) : ¬ Misses (t.call v) := by
  unfold Thing.call
  repeat' split
  all_goals
    first
    | exact not_misses_map _ v.not_misses_toInt
    | exact not_misses_map _ v.not_misses_toFloat
    | exact not_misses_map _ v.not_misses_items
    | exact not_misses_enumMember _ _
    | exact not_misses_makeOf _ _ _
    | exact not_misses_error rfl

/-- What a class makes is an object of the class, around the value. -/
theorem eq_of_makeOf {t : Thing} {className : String} {v out : Value}
    (h : t.makeOf className v = .ok out) : out = .result className v := by
  unfold Thing.makeOf Thing.wrap at h
  repeat' split at h
  all_goals cases h
  all_goals rfl

theorem isPlain_of_enumMember {e : Record.Enum} {v out : Value} (h : enumMember e v = .ok out) :
    out.IsPlain := by
  unfold enumMember at h
  repeat' split at h
  all_goals cases h
  all_goals
    intro w carries
    cases carries

/-- All objects that the call of a generated class gives are of the class, around the value. -/
theorem carries_call {x : Record} {base : Thing} {v out w : Value}
    (h : (Thing.generated x base).call v = .ok out) (carries : out.Carries w) :
    w = .result x.name v := by
  have made {t : Thing} {name : String} (h : t.makeOf name v = .ok out) : w = .result name v := by
    rw [eq_of_makeOf h] at carries
    cases carries
    rfl
  unfold Thing.call at h
  cases x with
  | enum e =>
    dsimp only at h
    split at h
    · exact absurd carries (isPlain_of_enumMember h w)
    · exact made h
  | input i =>
    dsimp only at h
    split at h
    · exact made h
    · cases h
  | root r => exact made h
  | leaf l => exact made h

/-! ## Decoders -/

/-- The template of a decoder. -/
def templateOf : Decoder → Expr
  | .convert template _ => template
  | .guard _ _ body => templateOf body
  | .each _ _ body => templateOf body

theorem templateOf_build (template access : Expr) (layers : List Layer) (arrays : Int)
    (level : Nat) : templateOf (.build template layers access arrays level) = template := by
  induction layers generalizing access arrays level with
  | nil => rfl
  | cons layer rest ih => cases layer <;> exact ih ..

variable {bindings : Bindings}

/-- Decoding misses only if converting a bare value does. -/
theorem not_misses_decode {d : Decoder}
    (bare : ∀ v, ¬ Misses (bareOf bindings (templateOf d) v)) (v : Value) :
    ¬ Misses (decode bindings d v) := by
  induction d generalizing v with
  | convert template access? => exact bare v
  | guard subject inList body ih =>
    unfold decode
    split
    · exact not_misses_ok _
    · exact ih bare v
  | each source item body ih =>
    unfold decode
    refine not_misses_bind v.not_misses_items fun items _ => ?_
    refine not_misses_bind (not_misses_mapM fun w _ => ih bare w) fun _ _ => ?_
    exact not_misses_ok _

/-- Every object that decoding gives comes from a part of the value. -/
theorem carries_decode {d : Decoder} {v out w : Value} (h : decode bindings d v = .ok out)
    (carries : out.Carries w) : ∃ part made, v.Item part ∧
      bareOf bindings (templateOf d) part = .ok made ∧ made.Carries w := by
  induction d generalizing v out with
  | convert template access? => exact ⟨v, out, .here v, h, carries⟩
  | guard subject inList body ih =>
    unfold decode at h
    split at h
    · cases h
      cases carries
    · exact ih h carries
  | each source item body ih =>
    unfold decode at h
    obtain ⟨items, list, h⟩ := except_bind_eq_ok_iff.mp h
    obtain ⟨results, all, h⟩ := except_bind_eq_ok_iff.mp h
    cases h
    cases carries with
    | item mem inner =>
      obtain ⟨one, ha, hone⟩ := mem_of_mapM all mem
      obtain ⟨part, made, hpart, hmade, hw⟩ := ih hone inner
      exact ⟨part, made, .of_items list ha hpart, hmade, hw⟩

end Program

end QueryShape
