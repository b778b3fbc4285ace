import QueryShape.Proofs.Naming.Identifier

/-!
# What accessors keep clear of

An accessor is named after its response key, in snake case, and no accessor has a name that every
result class has already. A name that classes do not have as a member of their own is not looked
at, so it is said which response keys lead to it.

* `not_mem_protectedNames`: no accessor hides a member of all result classes.
* `accessor_eq_iff_of_underscore`, `accessor_eq_iff_of_letter`: which response keys lead to a name.
-/

namespace QueryShape.Naming

variable {key name : String}

/-- The name that a response key asks for is its snake-case form, without leading underscores where
there are two. -/
theorem bareAccessorName_cases (key : String) :
    (['_', '_'] <+: snakeChars key.toList ∧
      (bareAccessorName key).toList = (snakeChars key.toList).dropWhile (· == '_')) ∨
    (¬ ['_', '_'] <+: snakeChars key.toList ∧
      (bareAccessorName key).toList = snakeChars key.toList) := by
  unfold bareAccessorName
  dsimp only
  split
  · next rest eq => exact Or.inl ⟨eq ▸ ⟨rest, rfl⟩, String.toList_ofList⟩
  · next plain =>
    refine Or.inr ⟨?_, String.toList_ofList⟩
    rintro ⟨rest, eq⟩
    exact plain rest eq.symm

theorem eq_memberName_of_accessorName? (h : accessorName? key = .ok name) :
    bareAccessorName key ∉ protectedNames ∧ name = memberName (bareAccessorName key) := by
  unfold accessorName? at h
  dsimp only at h
  split at h
  · cases h
  · next free => exact ⟨free, (Except.ok.inj h).symm⟩

/-- **No accessor hides a member of all result classes.** -/
theorem not_mem_protectedNames (h : accessorName? key = .ok name) : name ∉ protectedNames := by
  obtain ⟨free, rfl⟩ := eq_memberName_of_accessorName? h
  have marked : ∀ k ∈ keywords, k ++ "_" ∉ protectedNames := by decide
  unfold memberName
  split
  · next keyword => exact marked _ keyword
  · exact free

/-- A text that is no reserved word, nor one with an underscore, is the accessor of a response key
exactly if the key asks for it. -/
theorem accessor_eq_iff (text : String) (h : accessorName? key = .ok name) (free : text ∉ keywords)
    (plain : ∀ k ∈ keywords, k ++ "_" ≠ text) : name = text ↔ bareAccessorName key = text := by
  obtain ⟨-, rfl⟩ := eq_memberName_of_accessorName? h
  unfold memberName
  split
  · next keyword => exact iff_of_false (plain _ keyword) fun same => free (same ▸ keyword)
  · rfl

/-- What one underscore leads is an accessor exactly for the keys that have it as their snake-case
form. -/
theorem accessor_eq_iff_of_underscore (text : String) (h : accessorName? key = .ok name)
    (free : text ∉ keywords) (plain : ∀ k ∈ keywords, k ++ "_" ≠ text) {c : Char} {rest : List Char}
    (chars : text.toList = '_' :: c :: rest) (one : c ≠ '_') :
    name = text ↔ snakeCase key = text := by
  rw [accessor_eq_iff text h free plain, ← String.toList_inj, ← String.toList_inj]
  unfold snakeCase
  rw [String.toList_ofList, chars]
  rcases bareAccessorName_cases key with ⟨two, eq⟩ | ⟨-, eq⟩
  · rw [eq]
    refine iff_of_false (fun same => ?_) fun same => ?_
    · have head := List.head?_dropWhile_not (· == '_') (snakeChars key.toList)
      rw [same] at head
      simp at head
    · rw [same] at two
      exact one (List.cons_prefix_cons.mp (List.cons_prefix_cons.mp two).2).1.symm
  · rw [eq]

/-- What a letter leads is an accessor exactly for the keys that have it as their snake-case form,
after any number of underscores but one. -/
theorem accessor_eq_iff_of_letter (text : String) (h : accessorName? key = .ok name)
    (free : text ∉ keywords) (plain : ∀ k ∈ keywords, k ++ "_" ≠ text) {c : Char} {rest : List Char}
    (chars : text.toList = c :: rest) (letter : c ≠ '_') :
    name = text ↔
      ∃ n ≠ 1, (snakeCase key).toList = List.replicate n '_' ++ text.toList := by
  have dropped : text.toList.dropWhile (· == '_') = text.toList := by
    rw [chars, List.dropWhile_cons_of_neg (by simpa using letter)]
  rw [accessor_eq_iff text h free plain, ← String.toList_inj]
  unfold snakeCase
  rw [String.toList_ofList]
  constructor
  · intro same
    rcases bareAccessorName_cases key with ⟨two, eq⟩ | ⟨-, eq⟩
    · refine ⟨((snakeChars key.toList).takeWhile (· == '_')).length, ?_, ?_⟩
      · obtain ⟨tail, eq⟩ := two
        rw [← eq]
        simp
      · have underscores : (snakeChars key.toList).takeWhile (· == '_') =
            List.replicate ((snakeChars key.toList).takeWhile (· == '_')).length '_' :=
          List.eq_replicate_of_mem fun x hx => by simpa using List.mem_takeWhile_imp hx
        rw [← same, eq, ← underscores, List.takeWhile_append_dropWhile]
    · exact ⟨0, Nat.zero_ne_one, by rw [← same, eq]; rfl⟩
  · rintro ⟨n, many, eq⟩
    rcases bareAccessorName_cases key with ⟨-, bare⟩ | ⟨fewer, bare⟩
    · have underscores : ∀ x ∈ List.replicate n '_', (x == '_') = true := fun x hx =>
        beq_iff_eq.mpr (List.eq_of_mem_replicate hx)
      rw [bare, eq, List.dropWhile_append_of_pos underscores, dropped]
    · match n with
      | 0 => rw [bare, eq]; rfl
      | 1 => exact absurd rfl many
      | n + 2 => exact absurd ⟨_, eq.symm⟩ fewer

end QueryShape.Naming
