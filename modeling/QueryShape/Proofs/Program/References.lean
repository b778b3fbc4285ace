import Mathlib
import QueryShape.Converter.Load
import QueryShape.Proofs.Program.Imports

/-!
# References to converters

Generated code names a converter by its path: the name that a line imports, and the names of classes
inside it. In the body of a class, a name that is private to the class becomes another one.

* `eq_of_importOfLine?`: the line of a converter imports the first name of its path.
* `meaning_reference_iff`: a reference leads to its converter exactly if no name in it is private to
  the class, no variable has its first name, and that stands for what the line of the converter
  imports.
-/

namespace QueryShape

namespace Code

open Program

/-! ## Paths -/

/-- The names in a path. -/
def pathNames (path : String) : List String := (path.toList.splitOn '.').map String.ofList

/-- A name with members, as it is read in the body of a class: a name that is private to the class
becomes another one. -/
def Expr.inside (className : String) : Expr → Expr
  | .name n => .name (nameInside className n)
  | .member e n => .member (e.inside className) (nameInside className n)
  | e => e

theorem Expr.inside_foldl_member (className : String) (e : Expr) (members : List String) :
    (members.foldl .member e).inside className =
      (members.map (nameInside className)).foldl .member (e.inside className) := by
  induction members generalizing e with
  | nil => rfl
  | cons first rest ih => exact ih (.member e first)

/-- The first name of a path comes first among its names. -/
theorem pathNames_eq (path : String) : ∃ members, pathNames path =
    Converter.firstName path :: members := by
  unfold pathNames Converter.firstName
  by_cases pointed : '.' ∈ path.toList
  · obtain ⟨front, back, eq, free⟩ := List.eq_append_cons_of_mem pointed
    have before : path.toList.takeWhile (· ≠ '.') = front := by
      rw [eq, List.takeWhile_append_of_pos, List.takeWhile_cons_of_neg (by simp), List.append_nil]
      intro c hc
      simpa using fun e : c = '.' => free (e ▸ hc)
    rw [before, eq, List.splitOn_append_cons_self, List.splitOn_eq_singleton free, List.map_append]
    exact ⟨_, rfl⟩
  · have all : path.toList.takeWhile (· ≠ '.') = path.toList := by
      rw [List.takeWhile_eq_self_iff]
      intro c hc
      simpa using fun e : c = '.' => pointed (e ▸ hc)
    rw [List.splitOn_eq_singleton pointed, all]
    exact ⟨[], rfl⟩

theorem ofPath_eq {path : String} {members : List String}
    (names : pathNames path = Converter.firstName path :: members) :
    Expr.ofPath path = members.foldl .member (.name (Converter.firstName path)) := by
  unfold Expr.ofPath
  unfold pathNames at names
  rw [names]

/-- Names with points between them. -/
def joined (first : String) (members : List String) : String :=
  members.foldl (fun path name => path ++ "." ++ name) first

theorem toList_joined (first : String) (members : List String) : (joined first members).toList =
    ['.'].intercalate (first.toList :: members.map String.toList) := by
  unfold joined
  induction members generalizing first with
  | nil => simp
  | cons name rest ih =>
    rw [List.foldl_cons, ih]
    cases rest with
    | nil => simp [List.intercalate_cons_cons]
    | cons next more => simp [List.intercalate_cons_cons]

theorem joined_pathNames {path : String} {members : List String}
    (names : pathNames path = Converter.firstName path :: members) :
    joined (Converter.firstName path) members = path := by
  have chars : (Converter.firstName path :: members).map String.toList =
      path.toList.splitOn '.' := by
    rw [← names]
    unfold pathNames
    rw [List.map_map]
    exact List.map_id'' (fun _ => String.toList_ofList) _
  have joins := toList_joined (Converter.firstName path) members
  rw [← List.map_cons, chars, List.intercalate_splitOn] at joins
  exact String.toList_injective joins

theorem length_joined (first : String) (members : List String) :
    (joined first members).length = first.length + (members.map (·.length + 1)).sum := by
  unfold joined
  induction members generalizing first with
  | nil => simp
  | cons name rest ih =>
    rw [List.foldl_cons, ih, List.map_cons, List.sum_cons, String.length_append,
      String.length_append]
    have point : ".".length = 1 := rfl
    omega

/-- A longer path begins with the shorter one and a point. -/
theorem joined_startsWith (first name : String) (rest : List String) :
    joined first (name :: rest) = first ++ "." ++ name ∨
      (joined first (name :: rest)).startsWith (first ++ "." ++ name ++ ".") = true := by
  cases rest with
  | nil => exact Or.inl rfl
  | cons next more =>
    right
    rw [String.startsWith_string_iff, toList_joined]
    simp [List.intercalate_cons_cons]

end Code

namespace Program

open Code Generation

/-! ## Private names -/

theorem length_nameInside (className name : String) :
    name.length ≤ (nameInside className name).length ∧
      ((nameInside className name).length ≤ name.length → nameInside className name = name) := by
  unfold nameInside
  dsimp only
  split
  · simp only [String.length_append]
    constructor
    · omega
    · intro le
      have one : "_".length = 1 := rfl
      omega
  · exact ⟨Nat.le_refl _, fun _ => rfl⟩

/-- Names whose joined path does not get longer in a class are not private to it. -/
theorem eq_of_joined_inside {className : String} (first : String) (members : List String)
    (same : joined (nameInside className first) (members.map (nameInside className)) =
      joined first members) : ∀ n ∈ first :: members, nameInside className n = n := by
  have lengths := congrArg String.length same
  rw [length_joined, length_joined] at lengths
  have grows (rest : List String) : (rest.map (·.length + 1)).sum ≤
        ((rest.map (nameInside className)).map (·.length + 1)).sum ∧
      (((rest.map (nameInside className)).map (·.length + 1)).sum ≤
        (rest.map (·.length + 1)).sum → ∀ n ∈ rest, nameInside className n = n) := by
    induction rest with
    | nil => simp
    | cons name rest ih =>
      obtain ⟨le, eq⟩ := length_nameInside className name
      obtain ⟨leRest, eqRest⟩ := ih
      simp only [List.map_cons, List.sum_cons, List.forall_mem_cons]
      exact ⟨by omega, fun h => ⟨eq (by omega), eqRest (by omega)⟩⟩
  obtain ⟨le, eq⟩ := length_nameInside className first
  obtain ⟨leRest, eqRest⟩ := grows members
  exact List.forall_mem_cons.mpr ⟨eq (by omega), eqRest (by omega)⟩

/-! ## Lines -/

/-- The words of a line of imports. -/
theorem words_of_import {line module name : String}
    (h : importOfLine? line = some (module, name)) :
    line.toList.splitOn ' ' = ["from".toList, module.toList, "import".toList, name.toList] := by
  unfold importOfLine? at h
  split at h
  · next words =>
    cases h
    have chars := congrArg (List.map String.toList) words
    rw [List.map_map] at chars
    exact (List.map_id'' (fun _ => String.toList_ofList) _).symm.trans chars
  · cases h

theorem eq_of_splitOn_singleton {text other : String}
    (h : text.toList.splitOn ' ' = [other.toList]) : other = text := by
  have joins : [' '].intercalate (text.toList.splitOn ' ') = text.toList :=
    List.intercalate_splitOn ' '
  rw [h, List.intercalate_singleton] at joins
  exact String.toList_injective joins

/-- **The line of a converter imports the first name of its path** from its module, if it can be
read. -/
theorem eq_of_importOfLine? {module path module' name : String}
    (h : importOfLine? (Converter.referenceLine module path) = some (module', name)) :
    module' = module ∧ name = Converter.firstName path := by
  have words := words_of_import h
  have shape : (Converter.referenceLine module path).toList = "from".toList ++ ' ' ::
      (module.toList ++ ' ' :: ("import".toList ++ ' ' ::
        (Converter.firstName path).toList)) := by
    simp [Converter.referenceLine]
  have one : ' ' ∉ "from".toList := by decide
  have two : ' ' ∉ "import".toList := by decide
  rw [shape, List.splitOn_append_cons_self, List.splitOn_append_cons_self,
    List.splitOn_append_cons_self, List.splitOn_eq_singleton one,
    List.splitOn_eq_singleton two] at words
  -- there is a word before and after `import`, so with four words in all there is one of each
  have before : 0 < (module.toList.splitOn ' ').length :=
    List.length_pos_iff.mpr (List.splitOn_ne_nil _ _)
  have behind : 0 < ((Converter.firstName path).toList.splitOn ' ').length :=
    List.length_pos_iff.mpr (List.splitOn_ne_nil _ _)
  have four := congrArg List.length words
  simp only [List.length_append, List.length_cons, List.length_nil] at four
  obtain ⟨m, isModule⟩ := List.length_eq_one_iff.mp (show (module.toList.splitOn ' ').length = 1 by
    omega)
  obtain ⟨n, isName⟩ := List.length_eq_one_iff.mp
    (show ((Converter.firstName path).toList.splitOn ' ').length = 1 by omega)
  rw [isModule, isName] at words
  simp only [List.cons_append, List.nil_append, List.cons.injEq, true_and, and_true] at words
  obtain ⟨rfl, rfl⟩ := words
  exact ⟨eq_of_splitOn_singleton isModule, eq_of_splitOn_singleton isName⟩

/-! ## References -/

/-- A module has a converter under its path. No class inside another is named like a method. -/
structure HasConverter (entries : List (String × Converter)) (c : Converter) : Prop where
  found : entries.lookup c.path = some c
  plain : ∀ n ∈ (pathNames c.path).tail, n ≠ "serialize" ∧ n ≠ "deserialize"

variable {entries : List (String × Converter)} {c : Converter} {s : Scope}

/-- Something imported that has a member which is something imported has it under its name. -/
theorem eq_of_member {t : Thing} {name path : String}
    (h : t.member name = .ok (.thing (.imported entries path))) :
    ∃ q, t = .imported entries q ∧ path = q ++ "." ++ name := by
  cases t with
  | tool => cases h
  | generated record base =>
    unfold Thing.member generatedMember at h
    dsimp only at h
    split at h
    · cases h
    · split at h
      · split at h <;> cases h
      · split at h <;> cases h
      · cases h
      · cases h
  | imported entries' q =>
    unfold Thing.member importedMember at h
    dsimp only at h
    split at h
    · cases h
    · cases h
    · split at h
      · cases h
        exact ⟨q, rfl, rfl⟩
      · cases h

/-- What leads to something imported begins with something imported. -/
theorem eq_of_meaning_foldl {e : Expr} {members : List String} {path : String}
    (h : (members.foldl .member e).meaning s = .ok (.thing (.imported entries path))) :
    ∃ q, e.meaning s = .ok (.thing (.imported entries q)) ∧ path = joined q members := by
  induction members generalizing e with
  | nil => exact ⟨path, h, rfl⟩
  | cons name rest ih =>
    obtain ⟨q, inner, eq⟩ := ih h
    rw [Expr.meaning] at inner
    obtain ⟨m, outer, member⟩ := except_bind_eq_ok_iff.mp inner
    cases m with
    | value v =>
      change Meaning.value <$> memberOf v name = _ at member
      cases found : memberOf v name <;> rw [found] at member <;> cases member
    | function f => cases member
    | thing t =>
      obtain ⟨q', rfl, rfl⟩ := eq_of_member member
      exact ⟨q', outer, eq⟩

/-- The names inside a path lead to what is under it. -/
theorem meaning_foldl (has : HasConverter entries c) {e : Expr} {front : String}
    {members : List String} (h : e.meaning s = .ok (.thing (.imported entries front)))
    (whole : joined front members = c.path)
    (plain : ∀ n ∈ members, n ≠ "serialize" ∧ n ≠ "deserialize") :
    (members.foldl .member e).meaning s = .ok (.thing (.imported entries c.path)) := by
  induction members generalizing e front with
  | nil => rwa [← whole]
  | cons name rest ih =>
    obtain ⟨here, others⟩ := List.forall_mem_cons.mp plain
    refine ih ?_ whole others
    have under : (entries.any fun entry => entry.1 == front ++ "." ++ name ||
        entry.1.startsWith (front ++ "." ++ name ++ ".")) = true := by
      obtain ⟨before, after, eq, -⟩ := List.lookup_eq_some_iff.mp has.found
      have mem : (c.path, c) ∈ entries := eq ▸ List.mem_append_right _ List.mem_cons_self
      refine List.any_eq_true.mpr ⟨(c.path, c), mem, ?_⟩
      rw [← whole]
      rcases joined_startsWith front name rest with eq | starts
      · simp [eq]
      · simp [starts]
    have inner : importedMember entries front name =
        .ok (.thing (.imported entries (front ++ "." ++ name))) := by
      unfold importedMember
      dsimp only
      split
      · exact absurd rfl here.1
      · exact absurd rfl here.2
      · rw [if_pos under]
    rw [Expr.meaning, h]
    exact inner

/-- **A reference leads to its converter exactly if no name in it is private to the class**, no
variable has its first name, and that stands for what the line of the converter imports. -/
theorem meaning_reference_iff (has : HasConverter entries c)
    (own : ∀ name es q, s.bindings.thing? name = some (.imported es q) → q = name)
    (className : String) :
    ((Expr.ofPath c.path).inside className).meaning s = .ok (.thing (.imported entries c.path)) ↔
      (∀ n ∈ pathNames c.path, nameInside className n = n) ∧
      s.locals.lookup (Converter.firstName c.path) = none ∧
      s.bindings.thing? (Converter.firstName c.path) =
        some (.imported entries (Converter.firstName c.path)) := by
  obtain ⟨members, names⟩ := pathNames_eq c.path
  have global (name : String) (t : Thing) : (Expr.name name).meaning s = .ok (.thing t) ↔
      s.locals.lookup name = none ∧ s.bindings.thing? name = some t := by
    unfold Expr.meaning Scope.meaning
    cases s.locals.lookup name with
    | some v => simp
    | none => cases s.bindings.thing? name <;> simp
  rw [ofPath_eq names, Expr.inside_foldl_member, names]
  constructor
  · intro h
    obtain ⟨q, found, whole⟩ := eq_of_meaning_foldl h
    obtain ⟨unhidden, found⟩ := (global _ _).mp found
    have isFirst := own _ _ _ found
    have same : ∀ n ∈ Converter.firstName c.path :: members, nameInside className n = n := by
      refine eq_of_joined_inside _ _ ?_
      rw [joined_pathNames names, ← isFirst]
      exact whole.symm
    refine ⟨same, ?_⟩
    rw [isFirst, same _ List.mem_cons_self] at found
    rw [same _ List.mem_cons_self] at unhidden
    exact ⟨unhidden, found⟩
  · rintro ⟨same, found⟩
    obtain ⟨first, others⟩ := List.forall_mem_cons.mp same
    have plain := has.plain
    rw [names] at plain
    rw [List.map_congr_left others, List.map_id', Expr.inside, first]
    exact meaning_foldl has ((global _ _).mpr found) (joined_pathNames names) plain

end Program

end QueryShape
